import FeatureToggle.Calendar
import FeatureToggle.Error
import FeatureToggle.Text.Quoted

/-!
# Log records

Everything that is worth a line in a log, with its level and its text.
-/
namespace FeatureToggle

inductive LogLevel where
  | error
  | warn
  | info
  | debug
  | trace
  deriving DecidableEq, Repr

inductive LogRecord where
  | noStoredState (feature : String) (default : Bool)
  | cacheMiss (feature : String)
  | evicted (feature : String)
  | delegateFailed (feature : String) (position : Nat) (error : Error)
  | listenerFailed (priority : Int) (feature reason : String)
  | listenerPanicked (priority : Int) (feature : String)
  /-- A text composed by whoever asked for the record. -/
  | custom (level : LogLevel) (text : String)
  | invalidPercentage (feature value : String)
  | invalidRelease (feature value : String) (reason : Calendar.ReadError)
  | invalidAddress (feature entry : String)

namespace LogRecord

def level : LogRecord → LogLevel
  | noStoredState .. | cacheMiss .. | evicted .. => .debug
  | delegateFailed .. | invalidAddress .. => .warn
  | listenerFailed .. | listenerPanicked .. | invalidPercentage .. | invalidRelease .. => .error
  | custom level _ => level

def text : LogRecord → String
  | noStoredState feature default =>
    "no stored state for feature " ++ feature ++ ", using declared default " ++ toString default
  | cacheMiss feature => "cache miss for feature " ++ feature
  | evicted feature => "evicted cached state of feature " ++ feature
  | delegateFailed feature position error =>
    "writing feature " ++ feature ++ " to composite delegate " ++ toString position ++
      " failed: " ++ error.message
  | listenerFailed priority feature reason =>
    "listener (priority " ++ toString priority ++ ") failed for feature " ++ feature ++ ": " ++ reason
  | listenerPanicked priority feature =>
    "listener (priority " ++ toString priority ++ ") panicked for feature " ++ feature
  | custom _ text => text
  | invalidPercentage feature value =>
    "Invalid gradual rollout percentage for feature " ++ feature ++ ": " ++ Text.quoted value
  | invalidRelease feature value reason =>
    "Invalid date and/or time for feature " ++ feature ++ ": " ++ value ++ " (" ++
      reason.message ++ ")"
  | invalidAddress feature entry =>
    "Ignoring invalid IP address " ++ Text.quoted entry ++ " for feature " ++ feature

end LogRecord

end FeatureToggle
