import FeatureToggle.Pattern.Property
import FeatureToggle.Pattern.Reader

/-!
# Patterns

A pattern is a regular expression together with the text that it was compiled from. A text is accepted
if the pattern matches some part of it, so patterns for whole texts are anchored at both ends. Which
engine compiles patterns is left open.
-/
namespace FeatureToggle

structure Pattern where
  source : String
  regex : Pattern.Regex
  deriving DecidableEq

namespace Pattern

structure Engine where
  /-- What becomes of a text, unless it is refused. -/
  compile? : String → Option Regex

namespace Engine

/-- How deep an expression may be nested if nothing else is asked for. -/
def maxDepth : Nat := 250

/-- The engine that comes with the library. It limits the depth of expressions, and nothing else. -/
def atHand : Engine where
  compile? text := (readRegex? .atHand text).filter fun r => r.depth ≤ maxDepth

end Engine

def ofText? (e : Engine) (source : String) : Option Pattern :=
  (e.compile? source).map fun r => ⟨source, r⟩

/-- The text in a group of its own, between the two anchors. -/
def anchoredText (source : String) : String := "^(?:" ++ source ++ ")$"

/-- Compiles a pattern with the anchors. -/
def anchored? (e : Engine) (source : String) : Option Pattern := ofText? e (anchoredText source)

def accepts (p : Pattern) (text : String) : Bool := p.regex.isMatch text

end Pattern

end FeatureToggle
