import FeatureToggle.Feature.Catalogue
import FeatureToggle.Storage.Basic
import FeatureToggle.Strategy.Registry

/-!
# The feature manager

The manager answers whether features are active. It puts together what is declared, what is stored
and what strategies decide, and keeps nothing itself.
-/
namespace FeatureToggle

structure Manager (σ : Type) where
  name : String
  features : FeatureProvider
  repository : Repository σ
  users : UserProvider
  strategies : Registry

/-- What a manager is made of; all but the features may be left out. -/
structure ManagerSettings where
  name : Option String
  features : Option FeatureProvider
  users : Option UserProvider
  strategies : Option Registry

namespace Manager

variable {σ : Type}

/-- Without further settings a manager is called `default`, its callers are anonymous, and it knows
the built-in strategies. -/
def ofSettings (host : Host) (repository : Repository σ) (settings : ManagerSettings) :
    Except Error (Manager σ) :=
  match settings.features with
  | none => .error (.configuration .noFeatureProvider)
  | some features => .ok {
      name := settings.name.getD "default"
      features
      repository
      users := settings.users.getD .anonymous
      strategies := settings.strategies.getD (.withDefaults host) }

def metadata? (m : Manager σ) (feature : String) : Option Metadata :=
  (m.features.feature? feature).map (·.metadata)

def currentUser (m : Manager σ) : Option User := m.users.currentUser

def signIn (m : Manager σ) (user : Option User) : Manager σ :=
  { m with users := m.users.signIn user }

/-- Whether a feature is declared as enabled. Undeclared features are not. -/
def declaredDefault (m : Manager σ) (feature : String) : Bool :=
  (m.metadata? feature).any (·.enabledByDefault)

/-- The declared default, which is used where no state is stored. -/
def useDefault (m : Manager σ) (feature : String) : Traced Bool := do
  Traced.log (.noStoredState feature (m.declaredDefault feature))
  return m.declaredDefault feature

/-- The decision on a stored state: a disabled feature is active for nobody, an enabled one without
strategy for everybody, and otherwise the strategy decides. -/
def decideStored (m : Manager σ) (feature : String) (s : FeatureState) (user : Option User) :
    Traced (Except Error Bool) :=
  if !s.enabled then return .ok false
  else
    match s.strategy with
    | none => return .ok true
    | some id =>
      match m.strategies.lookup? id with
      | some strategy => do return .ok (← strategy.isActive s user)
      | none => return .error (.unknownStrategy feature id)

/-- The decision on a state that may be missing. -/
def decide (m : Manager σ) (feature : String) (user : Option User) :
    Option FeatureState → Traced (Except Error Bool)
  | none => do return .ok (← m.useDefault feature)
  | some s => m.decideStored feature s user

def isActiveFor (m : Manager σ) (feature : String) (user : Option User) :
    Action σ (Except Error Bool) := do
  match ← m.repository.read feature with
  | .error e => return .error e
  | .ok state => Action.lift (m.decide feature user state)

/-- The decision for the current caller. -/
def isActive (m : Manager σ) (feature : String) : Action σ (Except Error Bool) :=
  m.isActiveFor feature m.currentUser

/-- The stored state of a feature, or one made from its declared default. -/
def state (m : Manager σ) (feature : String) : Action σ (Except Error FeatureState) := do
  match ← m.repository.read feature with
  | .error e => return .error e
  | .ok (some s) => return .ok s
  | .ok none => return .ok (.of feature (← Action.lift (m.useDefault feature)))

def setState (m : Manager σ) (s : FeatureState) : Action σ (Except Error Unit) :=
  m.repository.write s

end Manager

end FeatureToggle
