import FeatureToggle.Pattern.CategoryTable
import FeatureToggle.Pattern.FoldTable
import FeatureToggle.Text.Blank

/-!
# Character classes of patterns

A class is an expression over ranges of code points. Whether a character belongs to it is decided by
following the expression.
-/
namespace FeatureToggle.Pattern

inductive CharClass where
  | ranges (rs : List (Nat × Nat))
  | complement (a : CharClass)
  | union (a b : CharClass)
  | inter (a b : CharClass)
  /-- All characters that differ from a member in case only. -/
  | anyCase (a : CharClass)
  /-- The same for the letters of ASCII among themselves. -/
  | anyAsciiCase (a : CharClass)
  deriving DecidableEq, Inhabited

/-- The code point that `n` folds to. -/
def foldCode (n : Nat) : Nat :=
  match foldRuns.find? (·.covers n) with
  | some run => run.image n
  | none => n

/-- The characters of `run` that fold to the code point `n`. -/
def foldsTo (n : Nat) (run : Text.CaseRun) : Option Char :=
  if run.target ≤ n then
    let m := run.first + (n - run.target)
    if run.covers m then some (Char.ofNat m) else none
  else none

/-- All characters that differ from `c` in case only, `c` among them. -/
def caseVariants (c : Char) : List Char :=
  let n := foldCode c.toNat
  Char.ofNat n :: foldRuns.filterMap (foldsTo n)

namespace CharClass

def contains : CharClass → Char → Bool
  | ranges rs, c => Text.covers rs c
  | complement a, c => !a.contains c
  | union a b, c => a.contains c || b.contains c
  | inter a b, c => a.contains c && b.contains c
  | anyCase a, c => a.contains c || (caseVariants c).any a.contains
  | anyAsciiCase a, c => a.contains c || a.contains c.toLower || a.contains c.toUpper

def none : CharClass := ranges []

def all : CharClass := ranges [(0, 0x10ffff)]

def single (c : Char) : CharClass := ranges [(c.toNat, c.toNat)]

def diff (a b : CharClass) : CharClass := inter a (complement b)

def symmDiff (a b : CharClass) : CharClass := diff (union a b) (inter a b)

def unions : List CharClass → CharClass
  | [] => none
  | a :: rest => union a (unions rest)

/-! ## The named classes -/

def digit : CharClass := ranges decimalNumber

def blank : CharClass := ranges Text.blanks

def alphabetic : CharClass :=
  unions [ranges uppercaseLetter, ranges lowercaseLetter, ranges titlecaseLetter,
    ranges modifierLetter, ranges otherLetter, ranges letterNumber, ranges otherAlphabetic]

/-- The characters of words: alphabetic ones, marks, digits, connectors and the two joiners. -/
def word : CharClass :=
  unions [ranges [(0x30, 0x39), (0x41, 0x5a), (0x5f, 0x5f), (0x61, 0x7a)], alphabetic,
    ranges nonspacingMark, ranges spacingMark, ranges enclosingMark, digit,
    ranges connectorPunctuation, ranges [(0x200c, 0x200d)]]

def asciiDigit : CharClass := ranges [(0x30, 0x39)]

def asciiBlank : CharClass := ranges [(0x9, 0xd), (0x20, 0x20)]

def asciiWord : CharClass := ranges [(0x30, 0x39), (0x41, 0x5a), (0x5f, 0x5f), (0x61, 0x7a)]

/-- The classes that are written `[:name:]`. -/
def asciiNamed? : String → Option CharClass
  | "alnum" => some (ranges [(0x30, 0x39), (0x41, 0x5a), (0x61, 0x7a)])
  | "alpha" => some (ranges [(0x41, 0x5a), (0x61, 0x7a)])
  | "ascii" => some (ranges [(0, 0x7f)])
  | "blank" => some (ranges [(0x9, 0x9), (0x20, 0x20)])
  | "cntrl" => some (ranges [(0, 0x1f), (0x7f, 0x7f)])
  | "digit" => some asciiDigit
  | "graph" => some (ranges [(0x21, 0x7e)])
  | "lower" => some (ranges [(0x61, 0x7a)])
  | "print" => some (ranges [(0x20, 0x7e)])
  | "punct" => some (ranges [(0x21, 0x2f), (0x3a, 0x40), (0x5b, 0x60), (0x7b, 0x7e)])
  | "space" => some asciiBlank
  | "upper" => some (ranges [(0x41, 0x5a)])
  | "word" => some asciiWord
  | "xdigit" => some (ranges [(0x30, 0x39), (0x41, 0x46), (0x61, 0x66)])
  | _ => Option.none

end CharClass

end FeatureToggle.Pattern
