/-!
# IP addresses

Addresses of both versions, each as a number of 32 or 128 bits, so that two notations of one address
are equal. An address of version 4 is never equal to one of version 6.

Version 4 is written as four decimal numbers without leading zeros. Version 6 is written as eight
groups of up to four hexadecimal digits; one run of zero groups may be left out with a double colon,
and the last two groups may take the form of version 4.
-/
namespace FeatureToggle

inductive IpAddress where
  | v4 (number : Nat)
  | v6 (number : Nat)
  deriving DecidableEq, Repr

namespace IpAddress

/-- The loopback addresses of both versions. -/
def loopback : List IpAddress := [v4 0x7f000001, v6 1]

def isHexDigit (c : Char) : Bool := c.isDigit || ('a' ≤ c && c ≤ 'f') || ('A' ≤ c && c ≤ 'F')

def digitValue (c : Char) : Nat :=
  if c.isDigit then c.toNat - '0'.toNat
  else if 'a' ≤ c ∧ c ≤ 'f' then c.toNat - 'a'.toNat + 10
  else c.toNat - 'A'.toNat + 10

/-- A decimal number up to 255, without leading zeros. -/
def readOctet (cs : List Char) : Option (Nat × List Char) :=
  let digits := cs.takeWhile Char.isDigit
  let n := digits.foldl (fun n c => n * 10 + digitValue c) 0
  if digits.isEmpty ∨ 3 < digits.length ∨ (digits.head? = some '0' ∧ digits ≠ ['0']) ∨ 255 < n then none
  else some (n, cs.drop digits.length)

/-- One to four hexadecimal digits. -/
def readGroup (cs : List Char) : Option (Nat × List Char) :=
  let digits := cs.takeWhile isHexDigit
  if digits.isEmpty ∨ 4 < digits.length then none
  else some (digits.foldl (fun n c => n * 16 + digitValue c) 0, cs.drop digits.length)

/-- Reads the given character. -/
def readChar (c : Char) : List Char → Option (List Char)
  | [] => none
  | d :: cs => if d = c then some cs else none

/-- Four numbers with points between them. -/
def readV4 (cs : List Char) : Option (Nat × List Char) := do
  let (a, cs) ← readOctet cs
  let (b, cs) ← readOctet (← readChar '.' cs)
  let (c, cs) ← readOctet (← readChar '.' cs)
  let (d, cs) ← readOctet (← readChar '.' cs)
  return (((a * 256 + b) * 256 + c) * 256 + d, cs)

/-- Reads an item that has a colon in front of it unless it is the first. -/
def readNext {α : Type} (first : Bool) (read : List Char → Option (α × List Char))
    (cs : List Char) : Option (α × List Char) :=
  if first then read cs else (readChar ':' cs).bind read

/-- At most `limit` groups with colons between them, the last two of which may be written as version
4. Tells whether they were, and what is left. -/
def readGroups : Nat → Bool → List Char → List Nat × Bool × List Char
  | 0, _, cs => ([], false, cs)
  | limit + 1, first, cs =>
    match if limit = 0 then none else readNext first readV4 cs with
    | some (n, rest) => ([n / 65536, n % 65536], true, rest)
    | none =>
      match readNext first readGroup cs with
      | some (g, rest) =>
        let (gs, dotted, rest) := readGroups limit false rest
        (g :: gs, dotted, rest)
      | none => ([], false, cs)

def ofGroups (groups : List Nat) : IpAddress := v6 (groups.foldl (fun n g => n * 65536 + g) 0)

/-- Groups up to a double colon, or all eight of them. -/
def readV6 (cs : List Char) : Option (IpAddress × List Char) := do
  let (head, dotted, cs) := readGroups 8 true cs
  if head.length = 8 then return (ofGroups head, cs)
  if dotted then none
  let cs ← readChar ':' (← readChar ':' cs)
  let (tail, _, cs) := readGroups (7 - head.length) true cs
  return (ofGroups (head ++ List.replicate (8 - head.length - tail.length) 0 ++ tail), cs)

/-- The address that a whole text denotes. -/
def ofText? (text : String) : Option IpAddress :=
  let read := match readV4 text.toList with
    | some (n, rest) => some (v4 n, rest)
    | none => readV6 text.toList
  match read with
  | some (address, []) => some address
  | _ => none

end IpAddress

end FeatureToggle
