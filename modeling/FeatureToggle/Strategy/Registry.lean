import FeatureToggle.Strategy.Address
import FeatureToggle.Strategy.Gradual
import FeatureToggle.Strategy.Membership
import FeatureToggle.Strategy.Property
import FeatureToggle.Strategy.Release
import FeatureToggle.Strategy.Tokens

/-!
# Registries of strategies

A registry holds strategies in the order of their registration, with an index from their ids to their
positions. An id is registered once; a second registration is refused and changes nothing.
-/
namespace FeatureToggle

/-- What strategies can know about the machine that they run on. -/
structure Host where
  now : Instant
  environment : String → Option String
  addresses : List IpAddress

structure Registry where
  strategies : List Strategy
  index : SortedMap Nat

namespace Registry

def empty : Registry := ⟨[], .empty⟩

/-- Appends a strategy without looking whether its id is new. -/
def insert (r : Registry) (s : Strategy) : Registry :=
  ⟨r.strategies ++ [s], r.index.insert s.id r.strategies.length⟩

def register (r : Registry) (s : Strategy) : Except Error Registry :=
  if (r.index.get? s.id).isSome then .error (.configuration (.duplicateStrategy s.id))
  else .ok (r.insert s)

def lookup? (r : Registry) (id : String) : Option Strategy := do r.strategies[← r.index.get? id]?

/-- The strategies that need nothing but the host. -/
def builtins (host : Host) : List Strategy :=
  [Strategy.username, Strategy.gradual, Strategy.releaseDate host.now, Strategy.userRole,
    Strategy.property host.environment, Strategy.serverIp host.addresses]

def withDefaults (host : Host) : Registry := (builtins host).foldl insert empty

/-! ## Registration in place -/

/-- Appends a strategy to the registry at hand: first an index entry, then the strategy itself. -/
def insertInPlace (s : Strategy) : StateM Registry Unit := do
  modify fun r => { r with index := r.index.insert s.id r.strategies.length }
  modify fun r => { r with strategies := r.strategies ++ [s] }

/-- Registers a strategy with the registry at hand. Whatever was done to it before an error stays. -/
def registerInPlace (s : Strategy) : ExceptT Error (StateM Registry) Unit := do
  if ((← get).index.get? s.id).isSome then
    throw (.configuration (.duplicateStrategy s.id))
  else
    insertInPlace s

/-- A call: the answer, and the registry that is held afterwards. -/
def call (s : Strategy) (r : Registry) : Except Error Unit × Registry :=
  (registerInPlace s).run.run r

/-- Calls one after the other, whatever the answers are: the strategies with their answers, and the
registry that is held in the end. -/
def calls : List Strategy → Registry → List (Strategy × Except Error Unit) × Registry
  | [], r => ([], r)
  | s :: rest, r =>
    let (answer, r') := call s r
    let (answers, r'') := calls rest r'
    ((s, answer) :: answers, r'')

end Registry

end FeatureToggle
