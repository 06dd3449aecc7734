import FeatureToggle.Proofs.JsonText
import FeatureToggle.Proofs.Members
import FeatureToggle.State.Json

/-!
# Persisted states

A state that was written as text is the state that is read from that text, whatever characters its
name, its strategy and its parameters consist of (`FeatureState.ofText?_toText`).
-/
namespace FeatureToggle.FeatureState

open Json

/-! ## Writing -/

/-- The members of a state as they are written. -/
def members (s : FeatureState) : List (String × Written) :=
  let strategy := match s.strategy with
    | none => []
    | some strategy => [("strategyId", .string strategy)]
  let parameters := s.parameters.entries.map (Prod.map id Written.string)
  [("feature", .string s.feature), ("enabled", .bool s.enabled)] ++ strategy ++
    [("parameters", .object parameters)]

/-- The JSON value that the text of a state stands for. -/
def toJson (s : FeatureState) : Json :=
  let strategy := match s.strategy with
    | none => []
    | some strategy => [("strategyId", .string strategy)]
  let parameters := s.parameters.entries.map (Prod.map id Json.string)
  .object ([("feature", .string s.feature), ("enabled", .bool s.enabled)] ++ strategy ++
    [("parameters", .object parameters)])

theorem toText_eq (s : FeatureState) :
    s.toText = String.ofList (Written.object s.members).text := by
  have hparameters : s.parameters.entries.map (fun e => (e.1, writeString e.2)) =
      (s.parameters.entries.map (Prod.map id Written.string)).map (Prod.map id Written.text) := by
    rw [List.map_map]
    rfl
  obtain ⟨feature, enabled, strategy, parameters⟩ := s
  rw [toText, hparameters]
  cases strategy with
  | none => rfl
  | some strategy => rfl

/-- A state is written without members that nobody reads. -/
theorem keepOnly_members (s : FeatureState) :
    (Written.object s.members).value.keepOnly memberNames = (Written.object s.members).value := by
  obtain ⟨feature, enabled, strategy, parameters⟩ := s
  cases strategy with
  | none => rfl
  | some strategy => rfl

theorem means_members (s : FeatureState) :
    Written.Means maxDepth (.object s.members) s.toJson := by
  obtain ⟨feature, enabled, strategy, parameters⟩ := s
  have hfeature := Written.means_string 126 feature
  have henabled := Written.means_bool 126 enabled
  have hparameters : Written.Means 126 (.object (parameters.entries.map (Prod.map id .string)))
      (.object (parameters.entries.map (Prod.map id .string))) := by
    refine Written.means_object (List.forall₂_map_left_iff.2 (List.forall₂_map_right_iff.2 ?_))
    exact List.forall₂_same.2 fun e _ => ⟨rfl, Written.means_string 125 e.2⟩
  refine Written.means_object ?_
  cases strategy with
  | none =>
    exact .cons ⟨rfl, hfeature⟩ (.cons ⟨rfl, henabled⟩ (.cons ⟨rfl, hparameters⟩ .nil))
  | some strategy =>
    have hstrategy := Written.means_string 126 strategy
    exact .cons ⟨rfl, hfeature⟩ (.cons ⟨rfl, henabled⟩ (.cons ⟨rfl, hstrategy⟩
      (.cons ⟨rfl, hparameters⟩ .nil)))

/-! ## Reading -/

theorem parametersOfJson?_object (m : SortedMap String) :
    parametersOfJson? (.object (m.entries.map (Prod.map id .string))) = some m := by
  rw [parametersOfJson?, ← ofStrings, (stringMembers?_eq_some_iff _ m.entries).2 rfl,
    Option.map_some, SortedMap.ofList_entries]

theorem ofJson?_toJson (s : FeatureState) : ofJson? s.toJson = some s := by
  obtain ⟨feature, enabled, strategy, parameters⟩ := s
  have hparameters := parametersOfJson?_object parameters
  cases strategy with
  | none => simp [toJson, ofJson?, member?, named, string?, bool?, hparameters]
  | some strategy =>
    simp [toJson, ofJson?, member?, named, string?, bool?, strategyOfJson?, hparameters]

/-- What was written is read back: the same feature, whether it is enabled, the same strategy if
there is one and none if there is none, and the same parameters. -/
theorem ofText?_toText (s : FeatureState) : ofText? s.toText = some s := by
  have hvalue : (Written.object s.members).value.toJson? maxDepth = some s.toJson :=
    s.means_members
  rw [ofText?, toText_eq, Written.read?_text]
  simp only [Option.bind_eq_bind, Option.bind_some, keepOnly_members, hvalue]
  exact s.ofJson?_toJson

/-- Quotes, backslashes and control characters are escaped, and an empty strategy is none the less a
strategy. -/
example : (⟨"\"\\\x01😀", true, some "", .empty⟩ : FeatureState).toText =
    "\x7b\"feature\":\"\\\"\\\\\\u0001😀\",\"enabled\":true," ++
      "\"strategyId\":\"\",\"parameters\":\x7b\x7d\x7d" := by cbv

end FeatureToggle.FeatureState
