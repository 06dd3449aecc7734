import FeatureToggle.Digest.Sha1

/-!
# Hexadecimal text of digests

A byte is written as two digits, the high one first, in lower case.
-/
namespace FeatureToggle.Digest

def hexDigit (n : Nat) : Char := if n < 10 then Char.ofNat (48 + n) else Char.ofNat (87 + n)

def hexByte (b : UInt8) : List Char := [hexDigit (b.toNat / 16), hexDigit (b.toNat % 16)]

/-- The forty digits of a digest. -/
def hex (d : Digest) : List Char := d.toList.flatMap hexByte

def hexDigitValue? (c : Char) : Option Nat :=
  if '0' ≤ c ∧ c ≤ '9' then some (c.toNat - 48)
  else if 'a' ≤ c ∧ c ≤ 'f' then some (c.toNat - 87)
  else none

/-- Reads hexadecimal digits as a number of 64 bits. -/
def readHex? (acc : Nat) : List Char → Option Nat
  | [] => some acc
  | c :: cs => do
    let n := acc * 16 + (← hexDigitValue? c)
    if n < 0x10000000000000000 then readHex? n cs else none

end FeatureToggle.Digest
