import FeatureToggle.Json.Syntax
import FeatureToggle.Json.Text
import FeatureToggle.State.Basic

/-!
# Feature states as JSON

A state is written as an object with the members `feature`, `enabled`, `strategyId` (left out if
there is no strategy) and `parameters`. When one is read, members of other names do not matter, only
the feature name is required, and an array of the same four values, the last of which may be missing,
serves as well.
-/
namespace FeatureToggle.FeatureState

/-- The compact text of a state. -/
def toText (s : FeatureState) : String :=
  let strategy := match s.strategy with
    | none => []
    | some id => [("strategyId", Json.writeString id)]
  let parameters := s.parameters.entries.map fun e => (e.1, Json.writeString e.2)
  String.ofList <| Json.writeObject <|
    [("feature", Json.writeString s.feature), ("enabled", Json.writeBool s.enabled)] ++ strategy ++
      [("parameters", Json.writeObject parameters)]

/-- Of several parameters with one name the last counts. -/
def parametersOfJson? (j : Json) : Option (SortedMap String) :=
  j.stringMembers?.map SortedMap.ofList

/-- The value `null` stands for no strategy. -/
def strategyOfJson? : Json → Option (Option String)
  | .null => some none
  | .string id => some (some id)
  | _ => none

def ofJson? : Json → Option FeatureState
  | .object members => do
    return {
      feature := ← Json.member? members "feature" none Json.string?
      enabled := ← Json.member? members "enabled" (some false) Json.bool?
      strategy := ← Json.member? members "strategyId" (some none) strategyOfJson?
      parameters := ← Json.member? members "parameters" (some .empty) parametersOfJson? }
  | .array [feature, enabled, strategy] => do
    return ⟨← feature.string?, ← enabled.bool?, ← strategyOfJson? strategy, .empty⟩
  | .array [feature, enabled, strategy, parameters] => do
    return ⟨← feature.string?, ← enabled.bool?, ← strategyOfJson? strategy,
      ← parametersOfJson? parameters⟩
  | _ => none

def memberNames : List String := ["feature", "enabled", "strategyId", "parameters"]

def ofText? (text : String) : Option FeatureState := do
  ofJson? (← ((← Json.Syntax.read? text).keepOnly memberNames).toJson? Json.maxDepth)

end FeatureToggle.FeatureState
