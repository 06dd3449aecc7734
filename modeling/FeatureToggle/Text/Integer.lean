/-!
# Integers of 64 bits

An integer is written in decimal digits, with a sign in front of them or without.
-/
namespace FeatureToggle.Text

def digitValue (c : Char) : Nat := c.toNat - '0'.toNat

/-- The number that ASCII digits denote. There is none without digits. -/
def natural? (cs : List Char) : Option Nat :=
  if cs.isEmpty || !cs.all Char.isDigit then none
  else some (cs.foldl (fun n c => n * 10 + digitValue c) 0)

/-- The integer that a whole text denotes, without bounds. -/
def signed? : List Char → Option Int
  | '-' :: cs => (natural? cs).map fun n => -(n : Int)
  | '+' :: cs => (natural? cs).map fun n => (n : Int)
  | cs => (natural? cs).map fun n => (n : Int)

/-- The integer that a whole text denotes, if it fits 64 bits. -/
def integer64? (s : String) : Option Int :=
  (signed? s.toList).filter fun z => -0x8000000000000000 ≤ z && z < 0x8000000000000000

end FeatureToggle.Text
