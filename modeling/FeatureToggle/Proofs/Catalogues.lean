import FeatureToggle.Proofs.Declarations
import FeatureToggle.Proofs.Positions

/-!
# Catalogues and their indexes

However features are declared, one after the other in an empty catalogue or in one that was read from
JSON, the catalogue holds the last declaration of each name at the place of the first one, and its
index says exactly where (`reflects_declareAll`). So a look-up by the index finds what a walk through
the features finds, and a further declaration of a name replaces one feature and moves none.
-/
namespace FeatureToggle.Catalogue

variable {c : Catalogue} {f : Feature} {declarations : List Feature} {name : String}

def names (c : Catalogue) : List String := c.features.map Feature.name

/-- The declaration of the name that was made last. -/
def lastDeclaration (name : String) (declarations : List Feature) : Option Feature :=
  declarations.reverse.find? (·.name = name)

theorem lastDeclaration_append_singleton (name : String) (declarations : List Feature)
    (f : Feature) :
    lastDeclaration name (declarations ++ [f]) =
      if f.name = name then some f else lastDeclaration name declarations := by
  rw [lastDeclaration, List.reverse_append, List.reverse_singleton, List.singleton_append,
    List.find?_cons]
  by_cases hname : f.name = name
  · simp [hname]
  · simp [hname, lastDeclaration]

theorem lastDeclaration_eq_none_iff :
    lastDeclaration name declarations = none ↔ ∀ f ∈ declarations, f.name ≠ name := by
  simp [lastDeclaration]

theorem declare_of_some {i : Nat} (h : c.index.get? f.name = some i) :
    c.declare f = { c with features := c.features.set i f } := by
  rw [declare, h]

theorem declare_of_none (h : c.index.get? f.name = none) :
    c.declare f = ⟨c.features ++ [f], c.index.insert f.name c.features.length⟩ := by
  rw [declare, h]

theorem feature?_eq_bind (c : Catalogue) (name : String) :
    c.feature? name = (c.index.get? name).bind (c.features[·]?) := rfl

/-! ## What declarations leave -/

/-- The catalogue holds the last of these declarations of each name, at the place of the first. -/
structure Holds (c : Catalogue) (declarations : List Feature) : Prop where
  located : Locates c.index c.names
  ordered : Firsts (declarations.map Feature.name) c.names
  latest : ∀ name, c.feature? name = lastDeclaration name declarations

namespace Holds

theorem empty : Holds .empty [] := ⟨.empty, .nil, fun _ => rfl⟩

theorem feature?_eq_find? (h : Holds c declarations) (name : String) :
    c.feature? name = c.features.find? (·.name = name) :=
  h.located.bind_getElem?_eq_find? name

theorem names_declare_of_some (h : Holds c declarations) {i : Nat}
    (hi : c.index.get? f.name = some i) : (c.declare f).names = c.names := by
  rw [declare_of_some hi]
  exact h.located.map_set hi

theorem names_declare_of_none (hnone : c.index.get? f.name = none) :
    (c.declare f).names = c.names ++ [f.name] := by
  rw [declare_of_none hnone]
  exact List.map_append

/-- A declaration changes what is found under its own name, and nothing else. -/
theorem feature?_declare (h : Holds c declarations) (f : Feature) (name : String) :
    (c.declare f).feature? name = if f.name = name then some f else c.feature? name := by
  cases hi : c.index.get? f.name with
  | some i =>
    rw [declare_of_some hi, feature?_eq_bind, feature?_eq_bind]
    by_cases hname : f.name = name
    · obtain ⟨g, hg, -⟩ := h.located.exists_getElem? hi
      have hlt : i < c.features.length := (List.getElem?_eq_some_iff.1 hg).1
      rw [if_pos hname, ← hname, hi, Option.bind_some, List.getElem?_set_self hlt]
    · rw [if_neg hname]
      -- What stands under another name stands elsewhere.
      cases hj : c.index.get? name with
      | none => rfl
      | some j =>
        have hne : i ≠ j := by
          rintro rfl
          have hsame := ((h.located f.name i).1 hi).symm.trans ((h.located name i).1 hj)
          exact hname (Option.some.inj hsame)
        rw [Option.bind_some, Option.bind_some, List.getElem?_set_ne hne]
  | none =>
    rw [declare_of_none hi, feature?_eq_bind, feature?_eq_bind, SortedMap.get?_insert]
    by_cases hname : f.name = name
    · rw [if_pos hname, if_pos hname, Option.bind_some, List.getElem?_concat_length]
    · rw [if_neg hname, if_neg hname]
      cases hj : c.index.get? name with
      | none => rfl
      | some j =>
        obtain ⟨g, hg, -⟩ := h.located.exists_getElem? hj
        have hlt : j < c.features.length := (List.getElem?_eq_some_iff.1 hg).1
        rw [Option.bind_some, Option.bind_some, List.getElem?_append_left hlt]

/-- One more declaration. -/
theorem declare (h : Holds c declarations) (f : Feature) :
    Holds (c.declare f) (declarations ++ [f]) where
  located := by
    cases hi : c.index.get? f.name with
    | some i =>
      rw [h.names_declare_of_some hi, declare_of_some hi]
      exact h.located
    | none =>
      have hlength : c.features.length = c.names.length := (List.length_map _).symm
      rw [names_declare_of_none hi, declare_of_none hi, hlength]
      exact h.located.append (h.located.get?_eq_none_iff.1 hi)
  ordered := by
    rw [List.map_append, List.map_singleton]
    cases hi : c.index.get? f.name with
    | some i =>
      have hmem : f.name ∈ c.names := h.located.isSome_get?_iff.1 (Option.isSome_of_eq_some hi)
      rw [h.names_declare_of_some hi]
      exact h.ordered.again (h.ordered.mem_iff.1 hmem)
    | none =>
      rw [names_declare_of_none hi]
      exact h.ordered.new fun hmem =>
        h.located.get?_eq_none_iff.1 hi (h.ordered.mem_iff.2 hmem)
  latest name := by rw [h.feature?_declare, lastDeclaration_append_singleton, h.latest]

theorem declareAll (h : Holds c declarations) (more : List Feature) :
    Holds (c.declareAll more) (declarations ++ more) := by
  induction more generalizing c declarations with
  | nil => rwa [List.append_nil]
  | cons f more ih =>
    rw [List.append_cons]
    exact ih (h.declare f)

end Holds

/-! ## Catalogues to begin with -/

/-- What is read from a text was declared in the order in which it is listed. -/
theorem holds_of_ofText {text : String} (h : ofText text = .ok c) : Holds c c.features := by
  obtain ⟨members, -, hread⟩ := ofText_eq_ok_iff.1 h
  obtain ⟨declarations, -, rfl⟩ := ofJson?_object_iff.1 hread
  rw [features_declareAll_entries]
  exact Holds.empty.declareAll _

/-- A declaration of a name that is there takes the place of the feature of that name. -/
structure Replaces (c : Catalogue) (f : Feature) (c' : Catalogue) : Prop where
  /-- One place changes, where the feature of that name stands, and so does nothing else. -/
  place : ∃ i g, c.features[i]? = some g ∧ g.name = f.name ∧
    c' = ⟨c.features.set i f, c.index⟩
  names : c'.names = c.names
  others : ∀ g ∈ c.features, g.name ≠ f.name → g ∈ c'.features
  found : ∀ name, c'.feature? name = if f.name = name then some f else c.feature? name

/-- What a catalogue shows after these declarations were made one after the other. -/
structure Reflects (c : Catalogue) (declarations : List Feature) : Prop where
  /-- Each entry of the index points into the list, at the feature of its name. -/
  pointed : ∀ name i, c.index.get? name = some i → ∃ f, c.features[i]? = some f ∧ f.name = name
  distinct : c.names.Nodup
  /-- The names stand in the order of their first declarations. -/
  ordered : Firsts (declarations.map Feature.name) c.names
  latest : ∀ name, c.feature? name = lastDeclaration name declarations
  none_iff : ∀ name, c.feature? name = none ↔ ∀ f ∈ declarations, f.name ≠ name
  /-- Looking a name up gives what going through the features gives. -/
  linear : ∀ name, c.provider.feature? name =
    (FeatureProvider.ofList c.provider.features).feature? name
  replaces : ∀ f, (∃ g ∈ declarations, g.name = f.name) → c.Replaces f (c.declare f)

theorem Holds.replaces (h : Holds c declarations) (hf : f.name ∈ c.names) :
    c.Replaces f (c.declare f) := by
  obtain ⟨i, hi⟩ := Option.isSome_iff_exists.1 (h.located.isSome_get?_iff.2 hf)
  obtain ⟨g, hg, hname⟩ := h.located.exists_getElem? hi
  refine ⟨⟨i, g, hg, hname, declare_of_some hi⟩, h.names_declare_of_some hi, ?_,
    h.feature?_declare f⟩
  intro other hother hne
  obtain ⟨j, hj⟩ := List.getElem?_of_mem hother
  have hij : i ≠ j := by
    rintro rfl
    rw [hg, Option.some.injEq] at hj
    exact hne (hj ▸ hname)
  rw [declare_of_some hi]
  refine List.mem_of_getElem? (i := j) ?_
  rw [List.getElem?_set_ne hij, hj]

theorem Holds.reflects (h : Holds c declarations) : c.Reflects declarations where
  pointed name i hi := h.located.exists_getElem? hi
  distinct := h.located.nodup
  ordered := h.ordered
  latest := h.latest
  none_iff name := by rw [h.latest, lastDeclaration_eq_none_iff]
  linear := h.feature?_eq_find?
  replaces f := by
    rintro ⟨g, hg, hname⟩
    exact h.replaces (h.ordered.mem_iff.2 (List.mem_map.2 ⟨g, hg, hname⟩))

/-- Catalogues reflect what was declared: in an empty one, or after what was read from a text, which
lists the last declarations of its names in ascending order. -/
theorem reflects_declareAll (declarations : List Feature) :
    (empty.declareAll declarations).Reflects declarations ∧
      ∀ text c, ofText text = .ok c →
        (∃ members, declarations? text = some members ∧ Loaded members c) ∧
          (c.declareAll declarations).Reflects (c.features ++ declarations) := by
  refine ⟨(Holds.empty.declareAll declarations).reflects, fun text c h => ⟨?_, ?_⟩⟩
  · obtain ⟨members, hmembers, hread⟩ := ofText_eq_ok_iff.1 h
    exact ⟨members, hmembers, loaded_of_ofJson? hread⟩
  · exact ((holds_of_ofText h).declareAll declarations).reflects

/-- Names that are out of order in the text, one of them twice, then a further one and one again. -/
theorem reflects_declareAll_reloaded :
    let text := "\x7b\"B\":\x7b\x7d,\"A\":\x7b\"label\":\"x\"\x7d,\"A\":\x7b\"label\":\"y\"\x7d\x7d"
    let declarations := [Feature.of "0", (Feature.of "B").labelled "z", Feature.of "0"]
    ∃ c, ofText text = .ok c ∧ (∃ members, declarations? text = some members ∧ Loaded members c) ∧
      (c.declareAll declarations).Reflects (c.features ++ declarations) ∧
      (c.declareAll declarations).features =
        [(Feature.of "A").labelled "y", (Feature.of "B").labelled "z", Feature.of "0"] := by
  intro text declarations
  have hfeatures : (ofText text).toOption.map (fun c => (c.declareAll declarations).features) =
      some [(Feature.of "A").labelled "y", (Feature.of "B").labelled "z", Feature.of "0"] := by
    dsimp only [text, declarations]
    decide +kernel
  obtain ⟨-, hreflects⟩ := reflects_declareAll declarations
  cases hread : ofText text with
  | error e => simp [hread, Except.toOption] at hfeatures
  | ok c =>
    obtain ⟨hloaded, hdeclared⟩ := hreflects text c hread
    exact ⟨c, rfl, hloaded, hdeclared, by simpa [hread, Except.toOption] using hfeatures⟩

end FeatureToggle.Catalogue
