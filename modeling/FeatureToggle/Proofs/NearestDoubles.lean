import FeatureToggle.Double
import Mathlib.Algebra.Order.Field.Power
import Mathlib.Data.Rat.Cast.Order
import Mathlib.Tactic.FieldSimp
import Mathlib.Tactic.Linarith
import Mathlib.Tactic.Positivity
import Mathlib.Tactic.Ring

/-!
# Nearest doubles

The number that a finite double stands for, and what it means that a double is the one nearest to a
number: no finite double is nearer, and of two that are equally near the one with an even last place
is taken. Whole numbers below the range of the doubles become their nearest doubles
(`isNearest_ofInt`).
-/
namespace FeatureToggle.Double

/-! ## The number of a double -/

def magnitude (d : Double) : Nat := d.bits.toNat % 2 ^ 63

def isNegative (d : Double) : Bool := 2 ^ 63 ≤ d.bits.toNat

/-- The digits of a finite magnitude as a whole number. The leading one is left out of the bits, unless
the exponent is the least. -/
def significand (magnitude : Nat) : Nat :=
  if magnitude / 2 ^ 52 = 0 then magnitude % 2 ^ 52 else magnitude % 2 ^ 52 + 2 ^ 52

/-- The exponent of the last place. -/
def exponent (magnitude : Nat) : Int :=
  if magnitude / 2 ^ 52 = 0 then -1074 else (magnitude / 2 ^ 52 : Nat) - 1075

/-- The number that a finite double stands for. -/
def value (d : Double) : ℚ :=
  (if d.isNegative then -1 else 1) * (significand d.magnitude * 2 ^ exponent d.magnitude)

/-- The finite double nearest to a number; on a tie its last place is even. -/
structure IsNearest (x : ℚ) (d : Double) : Prop where
  finite : d.isFinite = true
  le : ∀ e : Double, e.isFinite = true → |d.value - x| ≤ |e.value - x|
  even : ∀ e : Double, e.isFinite = true → |e.value - x| = |d.value - x| →
    e.value = d.value ∨ d.bits.toNat % 2 = 0

theorem significand_lt (m : Nat) : significand m < 2 ^ 53 := by
  have hfraction : m % 2 ^ 52 < 2 ^ 52 := Nat.mod_lt _ (by norm_num)
  unfold significand
  split
  · omega
  · omega

theorem abs_value (d : Double) :
    |d.value| = significand d.magnitude * 2 ^ exponent d.magnitude := by
  have hpos : (0 : ℚ) ≤ significand d.magnitude * 2 ^ exponent d.magnitude := by positivity
  rw [value, abs_mul, abs_of_nonneg hpos]
  split
  · rw [abs_neg, abs_one, one_mul]
  · rw [abs_one, one_mul]

/-- A double is a multiple of a power of two, unless it is so small that its last place is below
that power. -/
theorem exists_value_eq_or_lt (d : Double) (e : Int) :
    (∃ k : Int, d.value = k * 2 ^ e) ∨ |d.value| < 2 ^ 52 * 2 ^ e := by
  by_cases he : e ≤ exponent d.magnitude
  · left
    obtain ⟨n, hn⟩ := Int.le.dest he
    refine ⟨(if d.isNegative then -1 else 1) * (significand d.magnitude * 2 ^ n), ?_⟩
    rw [value, ← hn, zpow_add₀ two_ne_zero, zpow_natCast]
    push_cast
    split
    · ring
    · ring
  · right
    have hle : exponent d.magnitude ≤ e - 1 := by omega
    have hpow : (2 : ℚ) ^ exponent d.magnitude ≤ 2 ^ (e - 1) := zpow_le_zpow_right₀ one_le_two hle
    have hsignificand : (significand d.magnitude : ℚ) < 2 ^ 53 := by
      exact_mod_cast significand_lt d.magnitude
    have hstep : (2 : ℚ) ^ (e - 1) = 2 ^ e / 2 := by rw [zpow_sub_one₀ two_ne_zero, div_eq_mul_inv]
    have hpos : (0 : ℚ) < 2 ^ (e - 1) := by positivity
    calc |d.value| = significand d.magnitude * 2 ^ exponent d.magnitude := d.abs_value
      _ ≤ significand d.magnitude * 2 ^ (e - 1) := by gcongr
      _ < 2 ^ 53 * 2 ^ (e - 1) := by gcongr
      _ = 2 ^ 52 * 2 ^ e := by rw [hstep]; ring

/-! ## Rounding -/

/-- A quotient is rounded by at most a half, and to the even neighbour where it is by a half. -/
theorem abs_roundDiv_sub (num : Nat) {den : Nat} (hden : 0 < den) :
    |(roundDiv num den : ℚ) - num / den| ≤ 1 / 2 ∧
      (|(roundDiv num den : ℚ) - num / den| = 1 / 2 → roundDiv num den % 2 = 0) := by
  have hpos : (0 : ℚ) < den := by exact_mod_cast hden
  have hlt : num % den < den := Nat.mod_lt num hden
  have hsplit : (num : ℚ) / den = (num / den : Nat) + (num % den : Nat) / den := by
    rw [eq_comm, ← mul_left_inj' hpos.ne', add_mul, div_mul_cancel₀ _ hpos.ne',
      div_mul_cancel₀ _ hpos.ne']
    exact_mod_cast Nat.div_add_mod' num den
  have hnonneg : (0 : ℚ) ≤ (num % den : Nat) / den := by positivity
  have hle_one : ((num % den : Nat) : ℚ) / den ≤ 1 := by
    rw [div_le_one hpos]
    exact_mod_cast hlt.le
  unfold roundDiv
  dsimp only
  split
  · next hup =>
    have hdiff : ((num / den + 1 : Nat) : ℚ) - num / den = 1 - (num % den : Nat) / den := by
      rw [hsplit]
      push_cast
      ring
    rw [hdiff, abs_of_nonneg (by linarith)]
    simp only [Bool.or_eq_true, decide_eq_true_eq, Bool.and_eq_true, beq_iff_eq] at hup
    have hhalf : (1 : ℚ) / 2 ≤ (num % den : Nat) / den := by
      rw [le_div_iff₀ hpos, div_mul_eq_mul_div, div_le_iff₀ two_pos, one_mul]
      exact_mod_cast show den ≤ num % den * 2 by omega
    refine ⟨by linarith, fun htie => ?_⟩
    have heq : ((num % den : Nat) : ℚ) / den = 1 / 2 := by linarith
    rw [div_eq_div_iff hpos.ne' two_ne_zero, one_mul] at heq
    have hden2 : num % den * 2 = den := by exact_mod_cast heq
    omega
  · next hdown =>
    have hdiff : ((num / den : Nat) : ℚ) - num / den = -((num % den : Nat) / den) := by
      rw [hsplit]
      ring
    rw [hdiff, abs_neg, abs_of_nonneg hnonneg]
    simp only [Bool.or_eq_true, decide_eq_true_eq, Bool.and_eq_true, beq_iff_eq, not_or, not_and]
      at hdown
    refine ⟨?_, fun heq => ?_⟩
    · rw [div_le_iff₀ hpos, div_mul_eq_mul_div, le_div_iff₀ two_pos, one_mul]
      exact_mod_cast show num % den * 2 ≤ den by omega
    · rw [div_eq_div_iff hpos.ne' two_ne_zero, one_mul] at heq
      have hden2 : num % den * 2 = den := by exact_mod_cast heq
      omega

/-- No whole number is nearer than one that is off by at most a half, and one that is as near is the
same or off by a half as well. -/
theorem abs_sub_le_of_abs_le_half {q k : Int} {x : ℚ} (h : |(q : ℚ) - x| ≤ 1 / 2) :
    |(q : ℚ) - x| ≤ |(k : ℚ) - x| ∧
      (|(k : ℚ) - x| = |(q : ℚ) - x| → k = q ∨ |(q : ℚ) - x| = 1 / 2) := by
  by_cases hk : k = q
  · rw [hk]
    exact ⟨le_rfl, fun _ => .inl rfl⟩
  · have hone : (1 : ℚ) ≤ |(k : ℚ) - q| := by
      exact_mod_cast Int.one_le_abs (sub_ne_zero.2 hk)
    have htriangle : |(k : ℚ) - q| ≤ |(k : ℚ) - x| + |(q : ℚ) - x| := by
      rw [abs_sub_comm (q : ℚ) x]
      exact abs_sub_le _ _ _
    refine ⟨by linarith, fun heq => .inr ?_⟩
    linarith

/-! ## Whole numbers -/

/-- The last of the 53 binary digits of a whole number. -/
def place (n : Nat) : ℚ := 2 ^ ((n.log2 : Int) - 52)

theorem place_pos (n : Nat) : 0 < place n := zpow_pos two_pos _

/-- What a whole number is rounded to, in units of the last place. -/
def rounded (n : Nat) : Nat :=
  roundDiv (n * 2 ^ (52 - n.log2)) (2 ^ (n.log2 - 52))

theorem roundRatio_one {n : Nat} (hn : n ≠ 0) :
    roundRatio n 1 = min ((n.log2 + 1022) * 2 ^ 52 + rounded n) infinity := by
  have hlead : 1 * pow2 (n.log2 : Int).toNat ≤ n * pow2 (-(n.log2 : Int)).toNat := by
    rw [Int.toNat_natCast, Int.toNat_eq_zero.2 (by omega), pow2, pow2, one_mul]
    simpa using Nat.log2_self_le hn
  have hplace : lastPlace n 1 = n.log2 - 52 := by
    have hlog : (1 : Nat).log2 = 0 := by decide
    rw [lastPlace, hlog, Nat.cast_zero, sub_zero, if_pos hlead]
    omega
  have hup : ((n.log2 : Int) - 52 + 1074).toNat = n.log2 + 1022 := by omega
  have hneg : (-((n.log2 : Int) - 52)).toNat = 52 - n.log2 := by omega
  have hpos : ((n.log2 : Int) - 52).toNat = n.log2 - 52 := by omega
  rw [roundRatio, if_neg hn]
  simp only [hplace, hup, hneg, hpos, one_mul]
  rfl

section Rounded

variable {n : Nat}

/-- The number in units of the last place. -/
theorem cast_div_eq (n : Nat) :
    ((n * 2 ^ (52 - n.log2) : Nat) : ℚ) / (2 ^ (n.log2 - 52) : Nat) =
      n / 2 ^ ((n.log2 : Int) - 52) := by
  have hpow : (2 : ℚ) ^ ((n.log2 : Int) - 52) = 2 ^ (n.log2 - 52) / 2 ^ (52 - n.log2) := by
    rw [← zpow_natCast, ← zpow_natCast, ← zpow_sub₀ two_ne_zero]
    congr 1
    omega
  rw [hpow]
  push_cast
  field_simp

theorem abs_rounded_sub (n : Nat) :
    |(rounded n : ℚ) - n / place n| ≤ 1 / 2 ∧
      (|(rounded n : ℚ) - n / place n| = 1 / 2 → rounded n % 2 = 0) := by
  rw [place, ← cast_div_eq]
  exact abs_roundDiv_sub _ (by positivity)

/-- A number has 53 binary digits in units of the last place. -/
theorem bounds_units (hn : n ≠ 0) :
    (2 : ℚ) ^ 52 ≤ n / place n ∧ (n : ℚ) / place n < 2 ^ 53 := by
  have hlow : (2 : ℚ) ^ 52 * place n = (2 ^ n.log2 : Nat) := by
    rw [place, ← zpow_natCast, ← zpow_add₀ two_ne_zero, Nat.cast_pow, Nat.cast_ofNat, ← zpow_natCast]
    congr 1
    omega
  have hhigh : (2 : ℚ) ^ 53 * place n = (2 ^ (n.log2 + 1) : Nat) := by
    rw [place, ← zpow_natCast, ← zpow_add₀ two_ne_zero, Nat.cast_pow, Nat.cast_ofNat, ← zpow_natCast]
    congr 1
    push_cast
    ring
  rw [le_div_iff₀ (place_pos n), div_lt_iff₀ (place_pos n), hlow, hhigh]
  exact ⟨by exact_mod_cast Nat.log2_self_le hn, by exact_mod_cast Nat.lt_log2_self⟩

theorem bounds_rounded (hn : n ≠ 0) : 2 ^ 52 ≤ rounded n ∧ rounded n ≤ 2 ^ 53 := by
  obtain ⟨hlow, hhigh⟩ := bounds_units hn
  obtain ⟨hbelow, habove⟩ := abs_le.1 (abs_rounded_sub n).1
  constructor
  · have hlt : ((2 ^ 52 : Nat) : ℚ) < (rounded n + 1 : Nat) := by
      push_cast
      linarith
    exact Nat.lt_succ_iff.1 (by exact_mod_cast hlt)
  · have hlt : (rounded n : ℚ) < (2 ^ 53 + 1 : Nat) := by
      push_cast
      linarith
    exact Nat.lt_succ_iff.1 (by exact_mod_cast hlt)

/-- The bits of a rounded whole number, with room for one more. -/
theorem roundRatio_one_of_le (hn : n ≠ 0) (hlog : n.log2 ≤ 1022) :
    roundRatio n 1 = (n.log2 + 1022) * 2 ^ 52 + rounded n ∧
      (n.log2 + 1022) * 2 ^ 52 + rounded n < infinity := by
  have hle := (bounds_rounded hn).2
  have hinfinity : (n.log2 + 1022) * 2 ^ 52 + rounded n < infinity := by
    have hvalue : infinity = 2047 * 2 ^ 52 := rfl
    rw [hvalue]
    omega
  rw [roundRatio_one hn]
  exact ⟨min_eq_left hinfinity.le, hinfinity⟩

/-- The digits carry over into the exponent where rounding has made one digit more of them. -/
theorem significand_mul_exponent (hn : n ≠ 0) :
    (significand ((n.log2 + 1022) * 2 ^ 52 + rounded n) : ℚ) *
        2 ^ exponent ((n.log2 + 1022) * 2 ^ 52 + rounded n) =
      rounded n * place n := by
  obtain ⟨hlow, hhigh⟩ := bounds_rounded hn
  rw [place]
  by_cases hcarry : rounded n = 2 ^ 53
  · have hdiv : ((n.log2 + 1022) * 2 ^ 52 + rounded n) / 2 ^ 52 = n.log2 + 1024 := by omega
    have hmod : ((n.log2 + 1022) * 2 ^ 52 + rounded n) % 2 ^ 52 = 0 := by omega
    have hexponent : ((n.log2 + 1024 : Nat) : Int) - 1075 = (n.log2 : Int) - 52 + 1 := by omega
    rw [significand, exponent, hdiv, hmod, if_neg (by omega), if_neg (by omega), hexponent,
      zpow_add_one₀ two_ne_zero, hcarry]
    push_cast
    ring
  · have hdiv : ((n.log2 + 1022) * 2 ^ 52 + rounded n) / 2 ^ 52 = n.log2 + 1023 := by omega
    have hmod : ((n.log2 + 1022) * 2 ^ 52 + rounded n) % 2 ^ 52 + 2 ^ 52 = rounded n := by omega
    have hexponent : ((n.log2 + 1023 : Nat) : Int) - 1075 = (n.log2 : Int) - 52 := by omega
    rw [significand, exponent, hdiv, if_neg (by omega), if_neg (by omega), hmod, hexponent]

end Rounded

/-! ## Bits -/

section OfMagnitude

variable {m : Nat}

theorem toNat_bits_ofMagnitude (negative : Bool) (hm : m < 2 ^ 63) :
    (ofMagnitude negative m).bits.toNat = if negative then 2 ^ 63 + m else m := by
  have hpow : pow2 63 = 2 ^ 63 := rfl
  rw [ofMagnitude, UInt64.toNat_ofNat', hpow]
  cases negative with
  | false => exact Nat.mod_eq_of_lt (by simp; omega)
  | true => exact Nat.mod_eq_of_lt (by simp; omega)

theorem magnitude_ofMagnitude (negative : Bool) (hm : m < 2 ^ 63) :
    (ofMagnitude negative m).magnitude = m := by
  rw [magnitude, toNat_bits_ofMagnitude negative hm]
  cases negative with
  | false => exact Nat.mod_eq_of_lt hm
  | true => simp only [↓reduceIte]; omega

theorem isNegative_ofMagnitude (negative : Bool) (hm : m < 2 ^ 63) :
    (ofMagnitude negative m).isNegative = negative := by
  rw [isNegative, toNat_bits_ofMagnitude negative hm]
  cases negative with
  | false => simpa using hm
  | true => simp

theorem isFinite_ofMagnitude (negative : Bool) (hm : m < infinity) :
    (ofMagnitude negative m).isFinite = true := by
  have hinfinity : infinity < 2 ^ 63 := by decide
  have hmagnitude := magnitude_ofMagnitude negative (hm.trans hinfinity)
  have hpow : pow2 63 = 2 ^ 63 := rfl
  rw [isFinite, decide_eq_true_eq, hpow]
  rw [magnitude] at hmagnitude
  rwa [hmagnitude]

end OfMagnitude

/-! ## The nearest double -/

theorem isNearest_zero : (ofInt 0).IsNearest 0 := by
  have hzero : ofInt 0 = ⟨0⟩ := by decide
  have hvalue : (⟨0⟩ : Double).value = 0 := by
    simp [value, magnitude, significand]
  rw [hzero]
  refine ⟨by decide, fun e he => ?_, fun e he heq => .inr rfl⟩
  rw [hvalue, sub_zero, abs_zero]
  exact abs_nonneg _

section OfInt

variable {z : Int}

theorem abs_sign (hz : z ≠ 0) : |(z.sign : ℚ)| = 1 := by
  rcases lt_or_gt_of_ne hz with hneg | hpos
  · simp [Int.sign_eq_neg_one_of_neg hneg]
  · simp [Int.sign_eq_one_of_pos hpos]

theorem cast_eq_sign_mul (z : Int) : (z : ℚ) = z.sign * z.natAbs := by
  rw [Nat.cast_natAbs]
  exact_mod_cast (Int.sign_mul_abs z).symm

/-- A factor of either sign does not count in a distance. -/
theorem abs_sign_mul_sub (hz : z ≠ 0) (x : ℚ) : |(z.sign : ℚ) * x - z| = |x - z.natAbs| := by
  rw [cast_eq_sign_mul z, ← mul_sub, abs_mul, abs_sign hz, one_mul]

/-- The number of a rounded whole number, in units of its last place. -/
theorem value_ofInt (hz : z ≠ 0) (hlog : z.natAbs.log2 ≤ 1022) :
    (ofInt z).value = z.sign * (rounded z.natAbs * place z.natAbs) := by
  have hn : z.natAbs ≠ 0 := Int.natAbs_ne_zero.2 hz
  obtain ⟨hround, hinfinity⟩ := roundRatio_one_of_le hn hlog
  have hlt : (z.natAbs.log2 + 1022) * 2 ^ 52 + rounded z.natAbs < 2 ^ 63 :=
    hinfinity.trans (by decide)
  have hsign : (if decide (z < 0) = true then -1 else 1 : ℚ) = z.sign := by
    rcases lt_or_gt_of_ne hz with hneg | hpos
    · simp [hneg, Int.sign_eq_neg_one_of_neg hneg]
    · simp [hpos.le, Int.sign_eq_one_of_pos hpos]
  rw [value, ofInt, hround, isNegative_ofMagnitude _ hlt, magnitude_ofMagnitude _ hlt,
    significand_mul_exponent hn, hsign]

theorem bits_ofInt_even (hz : z ≠ 0) (hlog : z.natAbs.log2 ≤ 1022)
    (heven : rounded z.natAbs % 2 = 0) : (ofInt z).bits.toNat % 2 = 0 := by
  have hn : z.natAbs ≠ 0 := Int.natAbs_ne_zero.2 hz
  obtain ⟨hround, hinfinity⟩ := roundRatio_one_of_le hn hlog
  have hlt : (z.natAbs.log2 + 1022) * 2 ^ 52 + rounded z.natAbs < 2 ^ 63 :=
    hinfinity.trans (by decide)
  rw [ofInt, hround, toNat_bits_ofMagnitude _ hlt]
  split
  · omega
  · omega

/-- The distance of a multiple of the last place, measured in last places. -/
theorem abs_mul_place_sub (k : Int) (n : Nat) :
    |(k : ℚ) * place n - n| = |(k : ℚ) - n / place n| * place n := by
  have hpos := place_pos n
  rw [← abs_of_pos hpos, ← abs_mul, abs_of_pos hpos, sub_mul, div_mul_cancel₀ _ hpos.ne']

/-- No multiple of the last place is nearer, and one that is as near is the same, or else the bits are
even. -/
theorem abs_value_sub_le_of_multiple (hz : z ≠ 0) (hlog : z.natAbs.log2 ≤ 1022) (k : Int) :
    |(ofInt z).value - z| ≤ |(k : ℚ) * place z.natAbs - z| ∧
      (|(k : ℚ) * place z.natAbs - z| = |(ofInt z).value - z| →
        (k : ℚ) * place z.natAbs = (ofInt z).value ∨ (ofInt z).bits.toNat % 2 = 0) := by
  have hpos := place_pos z.natAbs
  obtain ⟨hhalf, htie⟩ := abs_rounded_sub z.natAbs
  have hsquare : (z.sign : ℚ) * (z.sign * k) = k := by
    rw [← mul_assoc, ← abs_mul_abs_self, abs_sign hz, one_mul, one_mul]
  have hk : (k : ℚ) * place z.natAbs = z.sign * (((z.sign * k : Int) : ℚ) * place z.natAbs) := by
    rw [← mul_assoc, Int.cast_mul, hsquare]
  obtain ⟨hle, heven⟩ := abs_sub_le_of_abs_le_half (q := rounded z.natAbs) (k := z.sign * k) hhalf
  have hdistance : |(rounded z.natAbs : ℚ) * place z.natAbs - z.natAbs| =
      |(rounded z.natAbs : ℚ) - z.natAbs / place z.natAbs| * place z.natAbs :=
    abs_mul_place_sub (rounded z.natAbs) z.natAbs
  rw [hk, value_ofInt hz hlog, abs_sign_mul_sub hz, abs_sign_mul_sub hz, abs_mul_place_sub,
    hdistance]
  refine ⟨mul_le_mul_of_nonneg_right hle hpos.le, fun heq => ?_⟩
  rcases heven (mul_right_cancel₀ hpos.ne' heq) with hsame | hodd
  · exact .inl (by rw [hsame, Int.cast_natCast])
  · exact .inr (bits_ofInt_even hz hlog (htie hodd))

/-- Doubles with a smaller last place are farther off than the power of two that leads the number. -/
theorem abs_value_sub_lt_of_small (hz : z ≠ 0) (hlog : z.natAbs.log2 ≤ 1022) {x : ℚ}
    (hx : |x| < 2 ^ 52 * place z.natAbs) : |(ofInt z).value - z| < |x - z| := by
  have hlead : (2 : ℚ) ^ 52 * place z.natAbs ≤ z.natAbs :=
    (le_div_iff₀ (place_pos _)).1 (bounds_units (Int.natAbs_ne_zero.2 hz)).1
  have habs : |(z : ℚ)| = z.natAbs := by rw [Nat.cast_natAbs, Int.cast_abs]
  have hpower := (abs_value_sub_le_of_multiple hz hlog (z.sign * 2 ^ 52)).1
  have hsplit : ((z.sign * 2 ^ 52 : Int) : ℚ) * place z.natAbs =
      z.sign * (2 ^ 52 * place z.natAbs) := by
    push_cast
    ring
  have hdistance : |2 ^ 52 * place z.natAbs - z.natAbs| = z.natAbs - 2 ^ 52 * place z.natAbs := by
    rw [abs_sub_comm, abs_of_nonneg (by linarith)]
  rw [hsplit, abs_sign_mul_sub hz, hdistance] at hpower
  have htriangle := abs_sub_abs_le_abs_sub (z : ℚ) x
  rw [habs, abs_sub_comm] at htriangle
  linarith

/-- A whole number below the range of the doubles becomes the double nearest to it. -/
theorem isNearest_ofInt (hlog : z.natAbs.log2 ≤ 1022) : (ofInt z).IsNearest z := by
  by_cases hz : z = 0
  · subst hz
    exact_mod_cast isNearest_zero
  have hfinite : (ofInt z).isFinite = true := by
    obtain ⟨hround, hinfinity⟩ := roundRatio_one_of_le (Int.natAbs_ne_zero.2 hz) hlog
    rw [ofInt, hround]
    exact isFinite_ofMagnitude _ hinfinity
  refine ⟨hfinite, fun e _ => ?_, fun e _ heq => ?_⟩
  · rcases exists_value_eq_or_lt e ((z.natAbs.log2 : Int) - 52) with ⟨k, hk⟩ | hlt
    · rw [hk]
      exact (abs_value_sub_le_of_multiple hz hlog k).1
    · exact (abs_value_sub_lt_of_small hz hlog hlt).le
  · rcases exists_value_eq_or_lt e ((z.natAbs.log2 : Int) - 52) with ⟨k, hk⟩ | hlt
    · rw [hk] at heq ⊢
      exact (abs_value_sub_le_of_multiple hz hlog k).2 heq
    · exact absurd heq.symm (abs_value_sub_lt_of_small hz hlog hlt).ne

/-- Only negative numbers have a sign. -/
theorem isNegative_ofInt (z : Int) : (ofInt z).isNegative = true ↔ z < 0 := by
  have hlt : roundRatio z.natAbs 1 < 2 ^ 63 := by
    have hle : roundRatio z.natAbs 1 ≤ infinity := by
      unfold roundRatio
      split
      · exact Nat.zero_le _
      · exact min_le_right _ _
    exact hle.trans_lt (by decide)
  rw [ofInt, isNegative_ofMagnitude _ hlt, decide_eq_true_eq]

end OfInt

end FeatureToggle.Double
