import FeatureToggle.Text.Blank

/-!
# Splitting and replacing

Lists are written into one text in two ways: as entries between a fixed separator, each trimmed, and
as runs of characters between any amount of commas and blanks. Empty and blank items never count.
-/
namespace FeatureToggle.Text

/-- Puts a character in front of the first piece. -/
def consHead (c : Char) : List (List Char) → List (List Char)
  | [] => [[c]]
  | piece :: pieces => (c :: piece) :: pieces

/-- The pieces between the characters that satisfy `p`, which are left out. -/
def splitWhere (p : Char → Bool) : List Char → List (List Char)
  | [] => [[]]
  | c :: cs => if p c then [] :: splitWhere p cs else consHead c (splitWhere p cs)

/-- The pieces between the occurrences of `sep`, found from the left, after `skip` characters that
belong to an occurrence. -/
def splitAfter (sep : List Char) : Nat → List Char → List (List Char)
  | _, [] => [[]]
  | skip + 1, _ :: cs => splitAfter sep skip cs
  | 0, c :: cs =>
    if sep.isPrefixOf (c :: cs) then [] :: splitAfter sep (sep.length - 1) cs
    else consHead c (splitAfter sep 0 cs)

/-- The pieces between the occurrences of `sep`. The empty separator stands before, between and
after all characters. -/
def splitOn (sep cs : List Char) : List (List Char) :=
  if sep.isEmpty then [] :: cs.map ([·]) ++ [[]] else splitAfter sep 0 cs

/-- The entries of a list with the given separator: trimmed, without the blank ones. -/
def entries (separator value : String) : List String :=
  (((splitOn separator.toList value.toList).map trimChars).filter (!·.isEmpty)).map String.ofList

/-- The entries of a text that may be missing. -/
def entriesOf (separator : String) : Option String → List String
  | none => []
  | some value => entries separator value

@[simp] theorem entriesOf_none (sep : String) : entriesOf sep none = [] := rfl

@[simp] theorem entriesOf_some (sep value : String) :
    entriesOf sep (some value) = entries sep value := rfl

/-- What separates runs: commas and blanks. -/
def isSeparator (c : Char) : Bool := c == ',' || isBlank c

/-- The maximal runs of characters that are no separators, from left to right. -/
def runs (value : String) : List String :=
  ((splitWhere isSeparator value.toList).filter (!·.isEmpty)).map String.ofList

/-- Puts `new` in the place of every occurrence of `old`, after `skip` characters that belong to an
occurrence. -/
def replaceAfter (old new : List Char) : Nat → List Char → List Char
  | _, [] => []
  | skip + 1, _ :: cs => replaceAfter old new skip cs
  | 0, c :: cs =>
    if old.isPrefixOf (c :: cs) then new ++ replaceAfter old new (old.length - 1) cs
    else c :: replaceAfter old new 0 cs

/-- Puts `new` in the place of every occurrence of the non-empty text `old`, found from the left. -/
def replace (s old new : String) : String :=
  String.ofList (replaceAfter old.toList new.toList 0 s.toList)

/-- The texts with the separator between them. -/
def join (separator : String) (parts : List String) : String := separator.intercalate parts

end FeatureToggle.Text
