/-!
# Errors

What can go wrong while feature states are wired up, read and written. An error is a cause; its
wording is given by `Error.message` alone.
-/
namespace FeatureToggle

/-- Ways in which parts cannot be put together. -/
inductive Misconfiguration where
  | negativeTtl (milliseconds : Int)
  | noDelegates
  | noFeatureProvider
  | duplicateStrategy (id : String)
  | invalidDeclarations
  | invalidPattern (parameter : String)
  deriving DecidableEq, Repr

/-- The last two messages leave room for the reader's own reason. -/
def Misconfiguration.message : Misconfiguration → String
  | negativeTtl milliseconds => "negative cache TTL: " ++ toString milliseconds
  | noDelegates => "composite state repository requires at least one delegate"
  | noFeatureProvider => "a feature manager requires a feature provider"
  | duplicateStrategy id => "activation strategy " ++ id ++ " is already registered"
  | invalidDeclarations => "invalid feature declarations: "
  | invalidPattern parameter => "invalid pattern for parameter " ++ parameter ++ ": "

inductive Error where
  | configuration (cause : Misconfiguration)
  /-- A stored state names a strategy that is not registered. -/
  | unknownStrategy (feature strategy : String)
  /-- A store failed, with a text of its own. -/
  | store (source : String)
  /-- Some of the attempted writes failed, each given by its position and its error. The others
  stay in place. -/
  | partialWrite (attempted : Nat) (failures : List (Nat × Error))
  deriving Inhabited

def Error.message : Error → String
  | configuration cause => "configuration error: " ++ cause.message
  | unknownStrategy feature strategy =>
    "feature " ++ feature ++ " references unknown activation strategy " ++ strategy
  | store source => "state repository error: " ++ source
  | partialWrite attempted failures =>
    toString failures.length ++ " of " ++ toString attempted ++ " repository writes failed"

end FeatureToggle
