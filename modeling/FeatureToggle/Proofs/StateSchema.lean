import FeatureToggle.Proofs.Members
import FeatureToggle.State.Json

/-!
# Which JSON values are states

A JSON value is read as a state exactly if it gives the fields of one: as an object, in which each of
the known members stands at most once and the name of the feature is required, or as an array of the
fields in their order, of which the last may be missing (`ofJson?_schema`). The fields that are given
determine the state, however they are given.
-/
namespace FeatureToggle.FeatureState

open Json

/-- The fields of a state as far as they are given. A strategy may be given as none. -/
structure Fields where
  feature : String
  enabled : Option Bool
  strategy : Option (Option String)
  parameters : Option (List (String × String))

/-- The value that gives a strategy, or that there is to be none. -/
def strategyJson : Option String → Json
  | none => .null
  | some id => .string id

namespace Fields

/-- The members of these names have the values of the fields, and there are no others of these names;
any other members may stand between them. -/
structure InObject (f : Fields) (members : List (String × Json)) : Prop where
  feature : named "feature" members = [.string f.feature]
  enabled : named "enabled" members = (f.enabled.map .bool).toList
  strategy : named "strategyId" members = (f.strategy.map strategyJson).toList
  parameters : named "parameters" members = (f.parameters.map ofStrings).toList

/-- The JSON values that give the fields. -/
inductive Encodes : Json → Fields → Prop where
  | object {f : Fields} {members : List (String × Json)} : f.InObject members →
      Encodes (.object members) f
  | array (feature : String) (enabled : Bool) (strategy : Option String)
      (parameters : Option (List (String × String))) :
      Encodes (.array ([.string feature, .bool enabled, strategyJson strategy] ++
        (parameters.map ofStrings).toList))
        ⟨feature, some enabled, some strategy, parameters⟩

/-- What the fields say of a state. Of several parameters with one name the last counts. -/
structure Describes (f : Fields) (s : FeatureState) : Prop where
  feature : s.feature = f.feature
  enabled : s.enabled = f.enabled.getD false
  strategy : s.strategy = f.strategy.getD none
  parameter : ∀ name, s.parameter name = lastValue name (f.parameters.getD [])

/-- The state with the fields. -/
def state (f : Fields) : FeatureState :=
  ⟨f.feature, f.enabled.getD false, f.strategy.getD none, .ofList (f.parameters.getD [])⟩

theorem describes_iff {f : Fields} {s : FeatureState} : f.Describes s ↔ f.state = s := by
  constructor
  · intro h
    obtain ⟨feature, enabled, strategy, parameters⟩ := s
    obtain ⟨rfl, rfl, rfl, hparameter⟩ := h
    have hparameters : SortedMap.ofList (f.parameters.getD []) = parameters :=
      SortedMap.ext_get? fun name => by rw [SortedMap.get?_ofList, ← hparameter, parameter]
    rw [state, hparameters]
  · rintro rfl
    exact ⟨rfl, rfl, rfl, fun name => SortedMap.get?_ofList _ name⟩

end Fields

/-! ## Reading -/

theorem strategyOfJson?_eq_some_iff (j : Json) (strategy : Option String) :
    strategyOfJson? j = some strategy ↔ j = strategyJson strategy := by
  cases j <;> cases strategy <;> simp [strategyOfJson?, strategyJson]

theorem member?_parameters_iff {members : List (String × Json)} {m : SortedMap String} :
    member? members "parameters" (some .empty) parametersOfJson? = some m ↔
      ∃ given : Option (List (String × String)),
        named "parameters" members = (given.map ofStrings).toList ∧ .ofList (given.getD []) = m :=
  member?_optional_map map_stringMembers?_eq_some_iff []

theorem ofJson?_object_iff {members : List (String × Json)} {s : FeatureState} :
    ofJson? (.object members) = some s ↔ ∃ f : Fields, f.InObject members ∧ f.state = s := by
  simp only [ofJson?, Option.bind_eq_bind, Option.bind_eq_some_iff, Option.pure_def,
    Option.some.injEq, member?_required string?_eq_some_iff, member?_optional bool?_eq_some_iff,
    member?_optional strategyOfJson?_eq_some_iff, member?_parameters_iff]
  constructor
  · rintro ⟨feature, hfeature, _, ⟨enabled, henabled, rfl⟩, _, ⟨strategy, hstrategy, rfl⟩, _,
      ⟨parameters, hparameters, rfl⟩, rfl⟩
    exact ⟨⟨feature, enabled, strategy, parameters⟩,
      ⟨hfeature, henabled, hstrategy, hparameters⟩, rfl⟩
  · rintro ⟨f, ⟨hfeature, henabled, hstrategy, hparameters⟩, rfl⟩
    exact ⟨_, hfeature, _, ⟨_, henabled, rfl⟩, _, ⟨_, hstrategy, rfl⟩, _, ⟨_, hparameters, rfl⟩, rfl⟩

theorem ofJson?_array_iff {values : List Json} {s : FeatureState} :
    ofJson? (.array values) = some s ↔
      ∃ feature enabled strategy parameters,
        values = [.string feature, .bool enabled, strategyJson strategy] ++
          (parameters.map ofStrings).toList ∧
        Fields.state ⟨feature, some enabled, some strategy, parameters⟩ = s := by
  constructor
  · intro h
    unfold ofJson? at h
    split at h
    · next heq => cases heq
    · next feature enabled strategy heq =>
      simp only [Option.bind_eq_bind, Option.bind_eq_some_iff, Option.pure_def, Option.some.injEq,
        string?_eq_some_iff, bool?_eq_some_iff, strategyOfJson?_eq_some_iff] at h
      obtain ⟨feature, rfl, enabled, rfl, strategy, rfl, rfl⟩ := h
      exact ⟨feature, enabled, strategy, none, Json.array.inj heq, rfl⟩
    · next feature enabled strategy parameters heq =>
      simp only [Option.bind_eq_bind, Option.bind_eq_some_iff, Option.pure_def, Option.some.injEq,
        string?_eq_some_iff, bool?_eq_some_iff, strategyOfJson?_eq_some_iff,
        parametersOfJson?, map_stringMembers?_eq_some_iff] at h
      obtain ⟨feature, rfl, enabled, rfl, strategy, rfl, _, ⟨parameters, rfl, rfl⟩, rfl⟩ := h
      exact ⟨feature, enabled, strategy, some parameters, Json.array.inj heq, rfl⟩
    · cases h
  · rintro ⟨feature, enabled, strategy, parameters, rfl, rfl⟩
    have hstrategy := (strategyOfJson?_eq_some_iff _ strategy).2 rfl
    cases parameters with
    | none => simp [ofJson?, string?, bool?, hstrategy, Fields.state, SortedMap.ofList]
    | some parameters =>
      have hparameters := (stringMembers?_eq_some_iff _ parameters).2 rfl
      simp [ofJson?, string?, bool?, hstrategy, parametersOfJson?, hparameters, Fields.state]

/-- Fields in an array are read like the members of their names. -/
theorem ofJson?_array {values : List Json} (hlower : 3 ≤ values.length)
    (hupper : values.length ≤ 4) :
    ofJson? (.array values) = ofJson? (.object (memberNames.zip values)) := by
  obtain _ | ⟨feature, _ | ⟨enabled, _ | ⟨strategy, _ | ⟨parameters, _ | ⟨more, rest⟩⟩⟩⟩⟩ := values
  · simp at hlower
  · simp at hlower
  · simp at hlower
  · simp [ofJson?, memberNames, member?, named]
  · simp [ofJson?, memberNames, member?, named]
  · simp only [List.length_cons] at hupper
    omega

/-- Members of other names do not matter, and neither does the order of the members. -/
theorem ofJson?_congr {members members' : List (String × Json)}
    (h : (members.filter fun m => memberNames.contains m.1).Perm
      (members'.filter fun m => memberNames.contains m.1)) :
    ofJson? (.object members) = ofJson? (.object members') := by
  have hnamed : ∀ name ∈ memberNames, (named name members).Perm (named name members') := by
    intro name hname
    rw [← named_filter hname members, ← named_filter hname members']
    exact named_perm h name
  rw [ofJson?, ofJson?, member?_congr (hnamed "feature" (by simp [memberNames])),
    member?_congr (hnamed "enabled" (by simp [memberNames])),
    member?_congr (hnamed "strategyId" (by simp [memberNames])),
    member?_congr (hnamed "parameters" (by simp [memberNames]))]

theorem ofJson?_iff {j : Json} {s : FeatureState} :
    ofJson? j = some s ↔ ∃ f : Fields, Fields.Encodes j f ∧ f.Describes s := by
  simp only [Fields.describes_iff]
  constructor
  · intro h
    cases j with
    | object members =>
      obtain ⟨f, hf, hs⟩ := ofJson?_object_iff.1 h
      exact ⟨f, .object hf, hs⟩
    | array values =>
      obtain ⟨feature, enabled, strategy, parameters, rfl, hs⟩ := ofJson?_array_iff.1 h
      exact ⟨_, .array feature enabled strategy parameters, hs⟩
    | null | bool | number | string => cases h
  · rintro ⟨f, hf, hs⟩
    cases hf with
    | object hf => exact ofJson?_object_iff.2 ⟨f, hf, hs⟩
    | array feature enabled strategy parameters =>
      exact ofJson?_array_iff.2 ⟨feature, enabled, strategy, parameters, rfl, hs⟩

/-- The values that are read as states are those that give the fields of a state, and the state is
what the fields say. Other members and the order of the members do not matter, and an array is read
like the object with its values under the names of the fields. -/
theorem ofJson?_schema :
    (∀ j, (∃ s, ofJson? j = some s) ↔ ∃ f, Fields.Encodes j f) ∧
    (∀ j s, ofJson? j = some s ↔ ∃ f : Fields, Fields.Encodes j f ∧ f.Describes s) ∧
    (∀ members members' : List (String × Json),
      (members.filter fun m => memberNames.contains m.1).Perm
        (members'.filter fun m => memberNames.contains m.1) →
      ofJson? (.object members) = ofJson? (.object members')) ∧
    ∀ values : List Json, 3 ≤ values.length → values.length ≤ 4 →
      ofJson? (.array values) = ofJson? (.object (memberNames.zip values)) := by
  refine ⟨fun j => ⟨?_, ?_⟩, fun j s => ofJson?_iff, fun _ _ => ofJson?_congr,
    fun _ => ofJson?_array⟩
  · rintro ⟨s, hs⟩
    obtain ⟨f, hf, -⟩ := ofJson?_iff.1 hs
    exact ⟨f, hf⟩
  · rintro ⟨f, hf⟩
    exact ⟨f.state, ofJson?_iff.2 ⟨f, hf, Fields.describes_iff.2 rfl⟩⟩

/-- A repeated parameter, and members in another order, between others which are repeated too. -/
theorem ofJson?_schema_shuffled :
    let parameters := ofStrings [("percentage", "5"), ("percentage", "25")]
    let members : List (String × Json) := [("note", .null), ("parameters", parameters),
      ("strategyId", .null), ("note", .bool true), ("enabled", .bool true), ("feature", .string "F1")]
    let values := [.string "F1", .bool true, .null, parameters]
    ofJson? (.object members) = ofJson? (.array values) ∧
      ∃ s, ofJson? (.array values) = some s ∧ s.strategy = none ∧
        s.parameter "percentage" = some "25" := by
  intro parameters members values
  obtain ⟨-, hdescribes, hreorder, harray⟩ := ofJson?_schema
  have hreverse : (members.filter fun m => memberNames.contains m.1) =
      ((memberNames.zip values).filter fun m => memberNames.contains m.1).reverse := rfl
  have hobject : ofJson? (.object members) = ofJson? (.object (memberNames.zip values)) :=
    hreorder members _ (hreverse ▸ List.reverse_perm _)
  have hvalues : ofJson? (.array values) = ofJson? (.object (memberNames.zip values)) :=
    harray values (by simp [values]) (by simp [values])
  let f : Fields := ⟨"F1", some true, some none, some [("percentage", "5"), ("percentage", "25")]⟩
  have hdescribed : f.Describes f.state := Fields.describes_iff.2 rfl
  have hread : ofJson? (.array values) = some f.state :=
    (hdescribes _ _).2 ⟨f, .array "F1" true none (some _), hdescribed⟩
  exact ⟨hobject.trans hvalues.symm, f.state, hread, hdescribed.strategy,
    hdescribed.parameter "percentage"⟩

end FeatureToggle.FeatureState
