/-!
# Numbers of double precision

A number is kept as its 64 bits: sign, eleven bits of exponent, 52 bits of fraction. All arithmetic
below is exact on natural numbers and rounds once, to the nearest double and on a tie to the even
one. The bits of a magnitude are in the order of the magnitudes, so counting on from the largest
finite double arrives at infinity.
-/
namespace FeatureToggle

structure Double where
  bits : UInt64
  deriving DecidableEq, Repr, Inhabited

namespace Double

/-- The power of two. -/
def pow2 (n : Nat) : Nat := Nat.pow 2 n

/-- The nearest whole number to `num / den`; a half goes to the even neighbour. -/
def roundDiv (num den : Nat) : Nat :=
  let q := num / den
  let r := num % den
  if den < 2 * r || (2 * r == den && q % 2 == 1) then q + 1 else q

/-- The bits of infinity, which end the finite magnitudes. -/
def infinity : Nat := 2047 * pow2 52

/-- The exponent of the last place of a magnitude `num / den`: 52 places below its leading binary
digit, but not below that of the least double. -/
def lastPlace (num den : Nat) : Int :=
  let k : Int := num.log2 - den.log2
  let leading := if den * pow2 k.toNat ≤ num * pow2 (-k).toNat then k else k - 1
  max (leading - 52) (-1074)

/-- The bits of the magnitude nearest to `num / den`. -/
def roundRatio (num den : Nat) : Nat :=
  if num = 0 then 0
  else
    let e := lastPlace num den
    let q := roundDiv (num * pow2 (-e).toNat) (den * pow2 e.toNat)
    min ((e + 1074).toNat * pow2 52 + q) infinity

/-- A finite magnitude as numerator and denominator. -/
def ratio (magnitude : Nat) : Nat × Nat :=
  let biased := magnitude / pow2 52
  let fraction := magnitude % pow2 52
  if biased = 0 then (fraction, pow2 1074)
  else ((fraction + pow2 52) * pow2 (biased - 1075), pow2 (1075 - biased))

def mul (a b : Nat) : Nat :=
  let (an, ad) := ratio a
  let (bn, bd) := ratio b
  roundRatio (an * bn) (ad * bd)

def div (a b : Nat) : Nat :=
  let (an, ad) := ratio a
  let (bn, bd) := ratio b
  roundRatio (an * bd) (ad * bn)

def ofMagnitude (negative : Bool) (magnitude : Nat) : Double :=
  ⟨UInt64.ofNat (if negative then pow2 63 + magnitude else magnitude)⟩

/-- The double nearest to a whole number. -/
def ofInt (z : Int) : Double := ofMagnitude (z < 0) (roundRatio z.natAbs 1)

/-- Neither infinite nor a NaN. -/
def isFinite (d : Double) : Bool := d.bits.toNat % pow2 63 < infinity

/-- The magnitude of the power of ten, rounded. -/
def powerOfTen (n : Nat) : Nat := roundRatio (Nat.pow 10 n) 1

/-- The magnitude `f` times the power of ten, by one rounded multiplication or division by a rounded
power where that power is a double, and by repeated division below it. There is none if the result
is too large. -/
def scale (f : Nat) (exponent : Int) : Option Nat :=
  if exponent.natAbs ≤ 308 then
    if 0 ≤ exponent then
      let product := mul f (powerOfTen exponent.natAbs)
      if product < infinity then some product else none
    else some (div f (powerOfTen exponent.natAbs))
  else if f = 0 then some 0
  else if 0 ≤ exponent then none
  else scale (div f (powerOfTen 308)) (exponent + 308)
termination_by exponent.natAbs

/-- The double read for a significand and a power of ten. The significand is rounded first, so a
result may miss the nearest double by its last places. -/
def ofDecimal? (negative : Bool) (significand : Nat) (exponent : Int) : Option Double :=
  (scale (roundRatio significand 1) exponent).map (ofMagnitude negative)

end Double

end FeatureToggle
