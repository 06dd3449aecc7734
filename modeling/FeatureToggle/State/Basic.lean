import FeatureToggle.SortedMap
import FeatureToggle.Text.Split

/-!
# Feature states

The stored configuration of one feature: whether it is enabled, which activation strategy narrows it
down, and the parameters that the strategy reads. A feature without a stored state falls back to its
declared default; nothing is ever removed from a store.
-/
namespace FeatureToggle

structure FeatureState where
  feature : String
  enabled : Bool
  strategy : Option String
  parameters : SortedMap String
  deriving DecidableEq

namespace FeatureState

/-- A state without strategy and parameters. -/
def of (feature : String) (enabled : Bool) : FeatureState := ⟨feature, enabled, none, .empty⟩

instance : Inhabited FeatureState := ⟨of "" false⟩

def parameter (s : FeatureState) (name : String) : Option String := s.parameters.get? name

/-- The names of the parameters, in ascending order. -/
def parameterNames (s : FeatureState) : List String := s.parameters.keys

def setEnabled (s : FeatureState) (enabled : Bool) : FeatureState := { s with enabled }

/-- Selects a strategy. With none the feature is active for everybody while it is enabled. -/
def setStrategy (s : FeatureState) (strategy : Option String) : FeatureState := { s with strategy }

/-- Sets a parameter, or removes it if no value is given. -/
def setParameter (s : FeatureState) (name : String) (value : Option String) : FeatureState :=
  { s with parameters := s.parameters.set name value }

@[simp] theorem parameter_setParameter (s : FeatureState) (name other : String)
    (value : Option String) :
    (s.setParameter name value).parameter other =
      if name = other then value else s.parameter other := by
  simp [parameter, setParameter]

@[simp] theorem feature_setParameter (s : FeatureState) (name : String) (value : Option String) :
    (s.setParameter name value).feature = s.feature := rfl

/-- The strategy that activates a feature for listed users. -/
def usernameStrategy : String := "username"

/-- The parameter that lists them. -/
def usersParameter : String := "users"

/-- The users for which the feature is listed as active. -/
def users (s : FeatureState) : List String := Text.entriesOf "," (s.parameter usersParameter)

/-- The users listed by `s`, then the given ones: trimmed, without blank names, each at its first
place only. -/
def mergedUsers (s : FeatureState) (names : List String) : List String :=
  (((s.users ++ names).map Text.trim).filter (· ≠ "")).eraseDups

/-- Adds names to the listed users and selects the strategy that reads the list. -/
def addUsers (s : FeatureState) (names : List String) : FeatureState :=
  let joined := Text.join "," (s.mergedUsers names)
  (s.setStrategy usernameStrategy).setParameter usersParameter
    (if joined = "" then none else some joined)

end FeatureState

end FeatureToggle
