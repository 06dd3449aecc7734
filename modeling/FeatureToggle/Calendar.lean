import FeatureToggle.Text.Blank

/-!
# Instants of the calendar

An instant is a date of the proleptic Gregorian calendar and a time of day, without time zone. A leap
second is the second 59 with at least 10⁹ nanoseconds. Instants are read from texts of the form
`2024-01-31T12:00:00`; every number may have blanks in front of it and fewer digits, and a year with
a sign may have more.
-/
namespace FeatureToggle

structure Instant where
  year : Int
  month : Nat
  day : Nat
  hour : Nat
  minute : Nat
  second : Nat
  nanosecond : Nat
  deriving DecidableEq, Repr, Inhabited

namespace Instant

/-- The parts after the year, from the largest to the smallest. -/
def parts (t : Instant) : List Nat :=
  [t.month, t.day, t.hour, t.minute, t.second, t.nanosecond]

/-- Whether the first list comes first in the lexicographic order. -/
def partsBefore : List Nat → List Nat → Bool
  | [], _ => false
  | _ :: _, [] => false
  | a :: as, b :: bs => a < b || (a == b && partsBefore as bs)

def before (a b : Instant) : Bool :=
  a.year < b.year || (a.year == b.year && partsBefore a.parts b.parts)

end Instant

namespace Calendar

def isLeapYear (year : Int) : Bool := year % 4 == 0 && (year % 100 != 0 || year % 400 == 0)

def daysInMonth (year : Int) (month : Nat) : Nat :=
  if month = 2 then if isLeapYear year then 29 else 28
  else if month ∈ [4, 6, 9, 11] then 30
  else 31

/-- The years that an instant can have. -/
def firstYear : Int := -262143
def lastYear : Int := 262142

def dateExists (year : Int) (month day : Nat) : Bool :=
  firstYear ≤ year && year ≤ lastYear && 1 ≤ month && month ≤ 12 && 1 ≤ day &&
    day ≤ daysInMonth year month

/-- Why a text is not read as an instant. -/
inductive ReadError where
  | invalid
  | outOfRange
  | tooShort
  | tooLong
  deriving DecidableEq, Repr

def ReadError.message : ReadError → String
  | invalid => "input contains invalid characters"
  | outOfRange => "input is out of range"
  | tooShort => "premature end of input"
  | tooLong => "trailing input"

/-- The digits at the start of a text, at most `width` of them. -/
def takeDigits (width : Nat) (cs : List Char) : List Char := (cs.take width).takeWhile Char.isDigit

def digitsValue (digits : List Char) : Nat :=
  digits.foldl (fun n c => n * 10 + (c.toNat - '0'.toNat)) 0

/-- The largest value that a field may hold before its own bounds are looked at. -/
def largestNumber : Nat := 0x7fffffffffffffff

/-- Reads at most `width` digits. -/
def readDigits (width : Nat) (cs : List Char) : Except ReadError (Nat × List Char) :=
  match cs with
  | [] => .error .tooShort
  | _ =>
    match takeDigits width cs with
    | [] => .error .invalid
    | digits =>
      let n := digitsValue digits
      if n ≤ largestNumber then .ok (n, cs.drop digits.length) else .error .outOfRange

/-- Reads a number of at most two digits within bounds. -/
def readField (low high : Nat) (cs : List Char) : Except ReadError (Nat × List Char) := do
  let (n, cs) ← readDigits 2 (Text.dropBlanks cs)
  if low ≤ n ∧ n ≤ high then return (n, cs) else throw .outOfRange

/-- Reads a year: four digits at most, or a sign and any number of digits. -/
def readYear (cs : List Char) : Except ReadError (Int × List Char) := do
  let (year, cs) ← match Text.dropBlanks cs with
    | '-' :: cs => do
      let (n, rest) ← readDigits cs.length cs
      pure (-(n : Int), rest)
    | '+' :: cs => do
      let (n, rest) ← readDigits cs.length cs
      pure ((n : Int), rest)
    | cs => do
      let (n, rest) ← readDigits 4 cs
      pure ((n : Int), rest)
  if -0x80000000 ≤ year ∧ year < 0x80000000 then return (year, cs) else throw .outOfRange

def readLiteral (c : Char) : List Char → Except ReadError (List Char)
  | [] => .error .tooShort
  | d :: cs => if d = c then .ok cs else .error .invalid

/-- Reads a whole text. What the fields say is looked at last, after anything left over. -/
def readChars (cs : List Char) : Except ReadError Instant := do
  let (year, cs) ← readYear cs
  let cs ← readLiteral '-' cs
  let (month, cs) ← readField 1 12 cs
  let cs ← readLiteral '-' cs
  let (day, cs) ← readField 1 31 cs
  let cs ← readLiteral 'T' cs
  let (hour, cs) ← readField 0 23 cs
  let cs ← readLiteral ':' cs
  let (minute, cs) ← readField 0 59 cs
  let cs ← readLiteral ':' cs
  let (second, cs) ← readField 0 60 cs
  if cs ≠ [] then throw .tooLong
  if dateExists year month day then
    if second = 60 then return ⟨year, month, day, hour, minute, 59, 1000000000⟩
    else return ⟨year, month, day, hour, minute, second, 0⟩
  else throw .outOfRange

def read (text : String) : Except ReadError Instant := readChars text.toList

end Calendar

end FeatureToggle
