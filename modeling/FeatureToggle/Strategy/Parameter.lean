import FeatureToggle.Error
import FeatureToggle.Pattern.Basic

/-!
# Parameters of strategies

What an administrator has to know about a parameter that a strategy reads: how it is called, whether
it may be missing, and which values make sense.
-/
namespace FeatureToggle

structure Parameter where
  name : String
  label : String
  description : Option String
  optional : Bool
  largeText : Bool
  pattern : Option Pattern
  deriving DecidableEq

namespace Parameter

/-- A required parameter that is labelled with its own name and takes any value. -/
def of (name : String) : Parameter := ⟨name, name, none, false, false, none⟩

def labelled (p : Parameter) (label : String) : Parameter := { p with label }

def described (p : Parameter) (text : String) : Parameter := { p with description := some text }

def asOptional (p : Parameter) : Parameter := { p with optional := true }

def asLargeText (p : Parameter) : Parameter := { p with largeText := true }

def withPattern (p : Parameter) (pattern : Pattern) : Parameter := { p with pattern := some pattern }

/-- Values have to match a pattern from the first to the last character. -/
def matching (e : Pattern.Engine) (p : Parameter) (source : String) : Except Error Parameter :=
  match Pattern.anchored? e source with
  | some pattern => .ok (p.withPattern pattern)
  | none => .error (.configuration (.invalidPattern p.name))

def isValid (p : Parameter) (value : String) : Bool := p.pattern.all (·.accepts value)

def display (p : Parameter) : String := p.label ++ " (" ++ p.name ++ ")"

end Parameter

end FeatureToggle
