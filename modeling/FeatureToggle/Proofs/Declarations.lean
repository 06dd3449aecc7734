import FeatureToggle.Feature.Catalogue
import FeatureToggle.Proofs.Members
import Mathlib.Data.List.Nodup

/-!
# Declarations in code and in JSON

A feature is declared in code step by step, or by the fields of a JSON value. A catalogue that is
read from JSON has one feature for each name, in ascending order, and it is the feature which those
steps make of the last declaration of the name, but for its groups (`ofText_loaded`): the steps add a
group once, while a catalogue takes the groups as they are listed (`ofText_repeats_group`).
-/
namespace FeatureToggle

open Json

/-! ## In code -/

namespace Feature

/-- The features that are declared step by step. -/
inductive Built : Feature → Prop where
  | of (name : String) : Built (of name)
  | labelled {f : Feature} (label : String) : Built f → Built (f.labelled label)
  | enabledByDefault {f : Feature} (enabled : Bool) : Built f → Built (f.enabledByDefault enabled)
  | inGroup {f : Feature} (group : String) : Built f → Built (f.inGroup group)
  | withAttribute {f : Feature} (name value : String) : Built f → Built (f.withAttribute name value)

def withGroups (f : Feature) (groups : List String) : Feature :=
  { f with metadata := { f.metadata with groups } }

@[simp] theorem groups_withGroups (f : Feature) (groups : List String) :
    (f.withGroups groups).metadata.groups = groups := rfl

section Groups

variable {f : Feature} {group : String}

theorem inGroup_of_mem (h : group ∈ f.metadata.groups) : f.inGroup group = f := by
  simp [inGroup, h]

theorem inGroup_of_not_mem (h : group ∉ f.metadata.groups) :
    f.inGroup group = f.withGroups (f.metadata.groups ++ [group]) := by
  simp [inGroup, withGroups, h]

theorem nodup_inGroup (h : f.metadata.groups.Nodup) (group : String) :
    (f.inGroup group).metadata.groups.Nodup := by
  by_cases hmem : group ∈ f.metadata.groups
  · rwa [inGroup_of_mem hmem]
  · rw [inGroup_of_not_mem hmem]
    rw [groups_withGroups, ← List.concat_eq_append]
    exact (List.nodup_concat _ _).2 ⟨hmem, h⟩

/-- No step adds a group twice. -/
theorem Built.nodup_groups (h : Built f) : f.metadata.groups.Nodup := by
  induction h with
  | of name => exact List.nodup_nil
  | labelled label _ ih => exact ih
  | enabledByDefault enabled _ ih => exact ih
  | inGroup group _ ih => exact nodup_inGroup ih group
  | withAttribute name value _ ih => exact ih

theorem Built.foldl_inGroup (h : Built f) (groups : List String) :
    Built (groups.foldl Feature.inGroup f) :=
  groups.foldlRecOn Feature.inGroup h fun _ hf group _ => hf.inGroup group

/-- Adding groups changes nothing else, and adds all of them. -/
theorem exists_foldl_inGroup (f : Feature) (groups : List String) :
    ∃ all, groups.foldl inGroup f = f.withGroups all ∧
      ∀ group, group ∈ all ↔ group ∈ f.metadata.groups ∨ group ∈ groups := by
  induction groups generalizing f with
  | nil => exact ⟨f.metadata.groups, rfl, by simp⟩
  | cons first groups ih =>
    obtain ⟨all, hfold, hall⟩ := ih (f.inGroup first)
    by_cases hfirst : first ∈ f.metadata.groups
    · rw [inGroup_of_mem hfirst] at hfold hall
      refine ⟨all, by rw [List.foldl_cons, inGroup_of_mem hfirst, hfold], fun group => ?_⟩
      rw [hall, List.mem_cons]
      grind
    · rw [inGroup_of_not_mem hfirst] at hfold hall
      refine ⟨all, by rw [List.foldl_cons, inGroup_of_not_mem hfirst, hfold]; rfl, fun group => ?_⟩
      rw [hall, groups_withGroups, List.mem_append, List.mem_singleton, List.mem_cons, or_assoc]

/-- Groups that are all different are added as they are listed. -/
theorem foldl_inGroup_of_nodup {groups : List String} (h : (f.metadata.groups ++ groups).Nodup) :
    groups.foldl inGroup f = f.withGroups (f.metadata.groups ++ groups) := by
  induction groups generalizing f with
  | nil => rw [List.foldl_nil, List.append_nil]; rfl
  | cons first groups ih =>
    have hfirst : first ∉ f.metadata.groups := fun hmem =>
      (List.nodup_append.1 h).2.2 first hmem first List.mem_cons_self rfl
    rw [List.append_cons] at h ⊢
    rw [List.foldl_cons, inGroup_of_not_mem hfirst, ih h]
    rfl

end Groups

theorem foldl_withAttribute (f : Feature) (attributes : List (String × String)) :
    attributes.foldl (fun f a => f.withAttribute a.1 a.2) f =
      { f with metadata := { f.metadata with
        attributes := attributes.foldl (fun m a => m.insert a.1 a.2) f.metadata.attributes } } := by
  induction attributes generalizing f with
  | nil => rfl
  | cons a attributes ih => exact ih (f.withAttribute a.1 a.2)

theorem Built.foldl_withAttribute {f : Feature} (h : Built f)
    (attributes : List (String × String)) :
    Built (attributes.foldl (fun f a => f.withAttribute a.1 a.2) f) :=
  attributes.foldlRecOn _ h fun _ hf a _ => hf.withAttribute a.1 a.2

end Feature

/-! ## In JSON -/

/-- The fields of a declaration, each of which may be missing. -/
structure Declaration where
  label : Option String
  enabledByDefault : Option Bool
  groups : Option (List String)
  attributes : Option (List (String × String))

namespace Declaration

def listedGroups (d : Declaration) : List String := d.groups.getD []

def listedAttributes (d : Declaration) : List (String × String) := d.attributes.getD []

/-- The first steps: a label unless it is missing or empty, and the default if it is given. -/
def outlined (d : Declaration) (name : String) : Feature :=
  let f := Feature.of name
  let f := match d.label with
    | none => f
    | some label => if label = "" then f else f.labelled label
  match d.enabledByDefault with
  | none => f
  | some enabled => f.enabledByDefault enabled

/-- All steps that declare the same in code: after the first ones the groups and the attributes, as
they are listed. -/
def built (d : Declaration) (name : String) : Feature :=
  d.listedAttributes.foldl (fun f a => f.withAttribute a.1 a.2)
    (d.listedGroups.foldl Feature.inGroup (d.outlined name))

/-- The array with these strings as items. -/
def ofItems (items : List String) : Json := .array (items.map .string)

/-- The members of these names have the values of the fields. -/
structure InObject (d : Declaration) (members : List (String × Json)) : Prop where
  label : named "label" members = (d.label.map .string).toList
  enabledByDefault : named "enabledByDefault" members = (d.enabledByDefault.map .bool).toList
  groups : named "groups" members = (d.groups.map ofItems).toList
  attributes : named "attributes" members = (d.attributes.map ofStrings).toList

/-- The JSON values that give the fields. In an array they have the order of their names. -/
inductive Encodes : Json → Declaration → Prop where
  | object {d : Declaration} {members : List (String × Json)} : d.InObject members →
      Encodes (.object members) d
  | array {d : Declaration} {values : List Json} : values.length ≤ 4 →
      d.InObject (Catalogue.memberNames.zip values) → Encodes (.array values) d

def metadata (d : Declaration) : Metadata :=
  ⟨d.label.getD "", d.enabledByDefault.getD false, d.listedGroups, .ofList d.listedAttributes⟩

theorem declared_eq (name : String) (m : Metadata) :
    Catalogue.declared name m =
      ⟨name, { m with label := if m.label = "" then name else m.label }⟩ := by
  rw [Catalogue.declared]
  split
  · rfl
  · rfl

theorem outlined_eq (d : Declaration) (name : String) :
    d.outlined name =
      Catalogue.declared name ⟨d.label.getD "", d.enabledByDefault.getD false, [], .empty⟩ := by
  obtain ⟨label, enabled, groups, attributes⟩ := d
  rw [declared_eq, outlined]
  cases label with
  | none =>
    cases enabled with
    | none => rfl
    | some enabled => rfl
  | some label =>
    by_cases h : label = ""
    · subst h
      cases enabled with
      | none => rfl
      | some enabled => rfl
    · simp only [if_neg h, Option.getD_some]
      cases enabled with
      | none => rfl
      | some enabled => rfl

/-- If adding the groups comes to the groups `all`, the steps lead to what the catalogue holds, with
those groups. -/
theorem built_eq {d : Declaration} {name : String} {all : List String}
    (h : d.listedGroups.foldl Feature.inGroup (d.outlined name) = (d.outlined name).withGroups all) :
    d.built name = (Catalogue.declared name d.metadata).withGroups all := by
  rw [built, h, Feature.foldl_withAttribute, outlined_eq, declared_eq, declared_eq]
  rfl

theorem groups_outlined (d : Declaration) (name : String) :
    (d.outlined name).metadata.groups = [] := by
  rw [outlined_eq, declared_eq]

theorem groups_declared (d : Declaration) (name : String) :
    (Catalogue.declared name d.metadata).metadata.groups = d.listedGroups := by
  rw [declared_eq]
  rfl

theorem built_outlined (d : Declaration) (name : String) : (d.outlined name).Built := by
  obtain ⟨label, enabled, groups, attributes⟩ := d
  have hlabelled : (match label with
      | none => Feature.of name
      | some label => if label = "" then Feature.of name
        else (Feature.of name).labelled label).Built := by
    split
    · exact .of name
    · split
      · exact .of name
      · exact (Feature.Built.of name).labelled _
  cases enabled with
  | none => exact hlabelled
  | some enabled => exact hlabelled.enabledByDefault enabled

theorem built_built (d : Declaration) (name : String) : (d.built name).Built :=
  ((d.built_outlined name).foldl_inGroup _).foldl_withAttribute _

/-- What a feature from a catalogue is, compared with the one built of the same declaration. -/
structure Loads (d : Declaration) (f : Feature) : Prop where
  groups : f.metadata.groups = d.listedGroups
  /-- All but the groups is the same. -/
  others : f.withGroups (d.built f.name).metadata.groups = d.built f.name
  isIn : ∀ group, f.isIn group = (d.built f.name).isIn group
  same_iff : f = d.built f.name ↔ d.listedGroups.Nodup

theorem loads_declared (d : Declaration) (name : String) :
    d.Loads (Catalogue.declared name d.metadata) := by
  obtain ⟨all, hfold, hall⟩ := Feature.exists_foldl_inGroup (d.outlined name) d.listedGroups
  rw [groups_outlined] at hall
  have hbuilt := built_eq hfold
  have hname : (Catalogue.declared name d.metadata).name = name := rfl
  refine ⟨groups_declared d name, ?_, fun group => ?_, ?_, fun hnodup => ?_⟩
  · rw [hname, hbuilt]
    rfl
  · rw [hname, hbuilt, Bool.eq_iff_iff]
    simp [Feature.isIn, groups_declared, hall]
  · intro hsame
    rw [← groups_declared d name, hsame]
    exact (d.built_built _).nodup_groups
  · have hnodup' : ((d.outlined name).metadata.groups ++ d.listedGroups).Nodup := by
      rwa [groups_outlined]
    have hlisted := Feature.foldl_inGroup_of_nodup hnodup'
    rw [groups_outlined, List.nil_append] at hlisted
    rw [hname, built_eq hlisted, ← groups_declared d name]
    rfl

end Declaration

/-! ## Reading -/

namespace Catalogue

open Declaration

theorem metadataOfJson?_object_iff {members : List (String × Json)} {m : Metadata} :
    metadataOfJson? (.object members) = some m ↔
      ∃ d : Declaration, d.InObject members ∧ d.metadata = m := by
  have hattributes {m : SortedMap String} :
      member? members "attributes" (some .empty) attributesOfJson? = some m ↔
        ∃ given : Option (List (String × String)),
          named "attributes" members = (given.map ofStrings).toList ∧
            SortedMap.ofList (given.getD []) = m :=
    member?_optional_map map_stringMembers?_eq_some_iff []
  simp only [metadataOfJson?, Option.bind_eq_bind, Option.bind_eq_some_iff, Option.pure_def,
    Option.some.injEq, member?_optional string?_eq_some_iff, member?_optional bool?_eq_some_iff,
    member?_optional strings?_eq_some_iff, hattributes]
  constructor
  · rintro ⟨_, ⟨label, hlabel, rfl⟩, _, ⟨enabled, henabled, rfl⟩, _, ⟨groups, hgroups, rfl⟩, _,
      ⟨attributes, hattributes, rfl⟩, rfl⟩
    exact ⟨⟨label, enabled, groups, attributes⟩, ⟨hlabel, henabled, hgroups, hattributes⟩, rfl⟩
  · rintro ⟨d, ⟨hlabel, henabled, hgroups, hattributes⟩, rfl⟩
    exact ⟨_, ⟨_, hlabel, rfl⟩, _, ⟨_, henabled, rfl⟩, _, ⟨_, hgroups, rfl⟩, _,
      ⟨_, hattributes, rfl⟩, rfl⟩

theorem metadataOfJson?_array {values : List Json} :
    metadataOfJson? (.array values) =
      if values.length ≤ 4 then metadataOfJson? (.object (memberNames.zip values)) else none := by
  obtain _ | ⟨label, _ | ⟨enabled, _ | ⟨groups, _ | ⟨attributes, _ | ⟨more, rest⟩⟩⟩⟩⟩ := values
  · rfl
  · simp [metadataOfJson?, memberNames, member?, named]
  · simp [metadataOfJson?, memberNames, member?, named]
  · simp [metadataOfJson?, memberNames, member?, named]
  · simp [metadataOfJson?, memberNames, member?, named]
  · simp [metadataOfJson?]

theorem metadataOfJson?_iff {j : Json} {m : Metadata} :
    metadataOfJson? j = some m ↔ ∃ d, Encodes j d ∧ d.metadata = m := by
  constructor
  · intro h
    cases j with
    | object members =>
      obtain ⟨d, hd, hm⟩ := metadataOfJson?_object_iff.1 h
      exact ⟨d, .object hd, hm⟩
    | array values =>
      rw [metadataOfJson?_array, Option.ite_none_right_eq_some] at h
      obtain ⟨d, hd, hm⟩ := metadataOfJson?_object_iff.1 h.2
      exact ⟨d, .array h.1 hd, hm⟩
    | null | bool | number | string => cases h
  · rintro ⟨d, hd, hm⟩
    cases hd with
    | object hd => exact metadataOfJson?_object_iff.2 ⟨d, hd, hm⟩
    | array hlength hd =>
      rw [metadataOfJson?_array, if_pos hlength]
      exact metadataOfJson?_object_iff.2 ⟨d, hd, hm⟩

/-- Features that have different names, and names of their own, are declared one after another. -/
theorem features_declareAll {c : Catalogue} {features : List Feature}
    (hnodup : (features.map Feature.name).Nodup)
    (hnew : ∀ f ∈ features, c.index.get? f.name = none) :
    (c.declareAll features).features = c.features ++ features := by
  induction features generalizing c with
  | nil => exact (List.append_nil _).symm
  | cons f features ih =>
    obtain ⟨hf, hrest⟩ := List.nodup_cons.1 hnodup
    obtain ⟨hfnew, hnew⟩ := List.forall_mem_cons.1 hnew
    have hdeclare : c.declare f =
        ⟨c.features ++ [f], c.index.insert f.name c.features.length⟩ := by rw [declare, hfnew]
    have hnew' : ∀ g ∈ features, (c.declare f).index.get? g.name = none := by
      intro g hg
      have hne : f.name ≠ g.name := fun heq => hf (heq ▸ List.mem_map_of_mem hg)
      rw [hdeclare, SortedMap.get?_insert, if_neg hne, hnew g hg]
    have hfold : c.declareAll (f :: features) = (c.declare f).declareAll features := rfl
    rw [hfold, ih hrest hnew', hdeclare, List.append_assoc, List.singleton_append]

/-- What a catalogue that is read from an object of declarations holds. -/
structure Loaded (members : List (String × Json)) (c : Catalogue) : Prop where
  ascending : c.features.Pairwise fun f g => f.name < g.name
  names : ∀ name, (∃ f ∈ c.features, f.name = name) ↔ ∃ value, (name, value) ∈ members
  declared : ∀ f ∈ c.features, ∃ value d, lastValue f.name members = some value ∧
    Encodes value d ∧ d.Loads f

theorem ofJson?_object_iff {members : List (String × Json)} {c : Catalogue} :
    ofJson? (.object members) = some c ↔
      ∃ declarations : List (String × Metadata),
        List.Forall₂ (fun m d => m.1 = d.1 ∧ metadataOfJson? m.2 = some d.2) members declarations ∧
        empty.declareAll
          ((SortedMap.ofList declarations).entries.map fun d => declared d.1 d.2) = c := by
  have hmember (m : String × Json) (d : String × Metadata) :
      (∃ metadata, metadataOfJson? m.2 = some metadata ∧ (m.1, metadata) = d) ↔
        m.1 = d.1 ∧ metadataOfJson? m.2 = some d.2 := by
    constructor
    · rintro ⟨metadata, hmetadata, rfl⟩
      exact ⟨rfl, hmetadata⟩
    · rintro ⟨hname, hmetadata⟩
      exact ⟨d.2, hmetadata, by rw [hname]⟩
  simp only [ofJson?, Option.bind_eq_bind, Option.bind_eq_some_iff, Option.pure_def,
    Option.some.injEq, mapM_eq_some_iff, hmember]

/-- The features that are declared of a map are its entries. -/
theorem features_declareAll_entries (m : SortedMap Metadata) :
    (empty.declareAll (m.entries.map fun d => declared d.1 d.2)).features =
      m.entries.map fun d => declared d.1 d.2 := by
  have hnames : (m.entries.map fun d => declared d.1 d.2).map Feature.name = m.keys := by
    rw [List.map_map]
    rfl
  exact features_declareAll (hnames ▸ m.nodup_keys) fun f _ => rfl

theorem mem_features_declareAll {declarations : List (String × Metadata)} {f : Feature} :
    f ∈ (empty.declareAll
        ((SortedMap.ofList declarations).entries.map fun d => declared d.1 d.2)).features ↔
      ∃ name m, lastValue name declarations = some m ∧ declared name m = f := by
  rw [features_declareAll_entries, List.mem_map, Prod.exists]
  simp only [SortedMap.mem_entries_iff, SortedMap.get?_ofList]

theorem loaded_of_ofJson? {members : List (String × Json)} {c : Catalogue}
    (h : ofJson? (.object members) = some c) : Loaded members c := by
  obtain ⟨declarations, hread, rfl⟩ := ofJson?_object_iff.1 h
  refine ⟨?_, fun name => ⟨?_, ?_⟩, ?_⟩
  · rw [features_declareAll_entries]
    exact List.pairwise_map.2 (SortedMap.ofList declarations).ascending
  · rintro ⟨f, hf, rfl⟩
    obtain ⟨name, m, hm, rfl⟩ := mem_features_declareAll.1 hf
    obtain ⟨value, hvalue, -⟩ :=
      exists_lastValue_left (R := fun j m => metadataOfJson? j = some m) hread hm
    exact ⟨value, mem_of_lastValue hvalue⟩
  · rintro ⟨value, hvalue⟩
    obtain ⟨last, hlast⟩ := exists_lastValue hvalue
    obtain ⟨m, hm, -⟩ :=
      exists_lastValue_right (R := fun j m => metadataOfJson? j = some m) hread hlast
    exact ⟨declared name m, mem_features_declareAll.2 ⟨name, m, hm, rfl⟩, rfl⟩
  · intro f hf
    obtain ⟨name, m, hm, rfl⟩ := mem_features_declareAll.1 hf
    obtain ⟨value, hvalue, hmetadata⟩ :=
      exists_lastValue_left (R := fun j m => metadataOfJson? j = some m) hread hm
    obtain ⟨d, hd, hdm⟩ := metadataOfJson?_iff.1 hmetadata
    exact ⟨value, d, hvalue, hd, hdm ▸ d.loads_declared name⟩

/-- The members of the object of declarations that a text stands for. -/
def declarations? (text : String) : Option (List (String × Json)) := do
  (← (relevant (← Json.Syntax.read? text)).toJson? Json.maxDepth).object?

theorem ofText_eq_ok_iff {text : String} {c : Catalogue} :
    ofText text = .ok c ↔
      ∃ members, declarations? text = some members ∧ ofJson? (.object members) = some c := by
  rw [ofText, declarations?]
  simp only [Option.bind_eq_bind]
  rcases Json.Syntax.read? text with _ | tree
  · simp
  · simp only [Option.bind_some]
    rcases (relevant tree).toJson? Json.maxDepth with _ | j
    · simp
    · cases j with
      | object members =>
        simp only [Option.bind_some, Json.object?, Option.some.injEq, exists_eq_left']
        rcases ofJson? (.object members) with _ | c'
        · simp
        · simp
      | null | bool | number | string | array => simp [ofJson?, Json.object?]

/-- What is read from a text that is accepted has one feature for each name, in ascending order, and of
the last declaration of the name. It is the feature built of that declaration except that it has the
groups as they are listed, so that the two are equal exactly if no group is listed twice. Steps never
repeat a group. -/
theorem ofText_loaded {text : String} {c : Catalogue} (h : ofText text = .ok c) :
    (∃ members, declarations? text = some members ∧ Loaded members c) ∧
      ∀ f : Feature, f.Built → f.metadata.groups.Nodup := by
  obtain ⟨members, hmembers, hread⟩ := ofText_eq_ok_iff.1 h
  exact ⟨⟨members, hmembers, loaded_of_ofJson? hread⟩, fun f hf => hf.nodup_groups⟩

theorem exists_read {text : String} {features : List Feature}
    (h : (ofText text).toOption.map Catalogue.features = some features) :
    ∃ c, ofText text = .ok c ∧ c.features = features := by
  cases hread : ofText text with
  | ok c => exact ⟨c, rfl, by simpa [hread, Except.toOption] using h⟩
  | error e => simp [hread, Except.toOption] at h

/-- A group that is listed twice, a name that is declared twice, and a declaration without names. -/
theorem ofText_loaded_repeated :
    let text :=
      "\x7b\"B\":\x7b\"groups\":[\"y\",\"y\"]\x7d,\"A\":\x7b\x7d,\"A\":[\"\",true,[\"x\"]]\x7d"
    let features : List Feature :=
      [⟨"A", ⟨"A", true, ["x"], .empty⟩⟩, ⟨"B", ⟨"B", false, ["y", "y"], .empty⟩⟩]
    ∃ c, ofText text = .ok c ∧ (∃ members, declarations? text = some members ∧ Loaded members c) ∧
      c.features = features ∧ ((Feature.of "B").inGroup "y" |>.inGroup "y").metadata.groups.Nodup := by
  intro text features
  have hfeatures : (ofText text).toOption.map Catalogue.features = some features := by
    dsimp only [text, features]
    decide +kernel
  obtain ⟨c, hread, hfeatures⟩ := exists_read hfeatures
  obtain ⟨hloaded, hbuilt⟩ := ofText_loaded hread
  exact ⟨c, hread, hloaded, hfeatures, hbuilt _ (((Feature.Built.of "B").inGroup "y").inGroup "y")⟩

/-- A group that is listed twice is held twice, though it is added once in code. -/
theorem ofText_repeats_group :
    let text := "\x7b\"F\":\x7b\"groups\":[\"beta\",\"beta\"]\x7d\x7d"
    let f : Feature := ⟨"F", ⟨"F", false, ["beta", "beta"], .empty⟩⟩
    ∃ c, ofText text = .ok c ∧ c.features = [f] ∧ ¬ f.metadata.groups.Nodup ∧
      f ≠ ((Feature.of "F").inGroup "beta").inGroup "beta" := by
  intro text f
  have hfeatures : (ofText text).toOption.map Catalogue.features = some [f] := by
    dsimp only [text, f]
    decide +kernel
  obtain ⟨c, hread, hfeatures⟩ := exists_read hfeatures
  exact ⟨c, hread, hfeatures, by decide, by decide⟩

end Catalogue

end FeatureToggle
