import FeatureToggle.Pattern.CharClass

/-!
# Tables

What Unicode says about characters grows from version to version, and how much of it can be named in a
pattern depends on who reads the pattern. So the notation is read with tables that are given: which
classes there are, and which characters differ in case only.
-/
namespace FeatureToggle.Pattern

structure Tables where
  /-- The class that is named by one letter. -/
  letter? : Char → Option CharClass
  /-- The class that is named in braces, and whether its complement is meant. -/
  braced? : List Char → Option (Bool × CharClass)
  digit : CharClass
  blank : CharClass
  word : CharClass
  /-- The class with all characters that differ from a member in case only. -/
  anyCase : CharClass → CharClass
  isAlphabetic : Char → Bool
  isNumeric : Char → Bool

end FeatureToggle.Pattern
