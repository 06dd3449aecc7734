import FeatureToggle.Text.Integer
import Mathlib.Data.List.Induction
import Mathlib.Data.Nat.Digits.Defs

/-!
# Decimal numerals

What digits denote, by their places, and which integers a text writes out: those of its digits, with
a sign in front of them or without. Reading gives an integer of 64 bits exactly for the texts that
write one (`integer64?_eq_some_iff`), and no text writes two (`Writes.unique`).
-/
namespace FeatureToggle.Text

/-- The number that digits denote by their places: the last one counts ones, and each of the others
counts `base` times as much as the one after it. -/
def placeValue (base : Nat) (value : Char → Nat) (digits : List Char) : Nat :=
  Nat.ofDigits base (digits.reverse.map value)

section PlaceValue

variable {base : Nat} {value : Char → Nat}

theorem placeValue_append_singleton (digits : List Char) (c : Char) :
    placeValue base value (digits ++ [c]) = placeValue base value digits * base + value c := by
  rw [placeValue, List.reverse_append, List.reverse_singleton, List.singleton_append, List.map_cons,
    Nat.ofDigits_cons, placeValue, Nat.mul_comm, Nat.add_comm]

/-- Reading digits from the left gives the number that they denote. -/
theorem foldl_eq_placeValue (digits : List Char) :
    digits.foldl (fun n c => n * base + value c) 0 = placeValue base value digits := by
  induction digits using List.reverseRecOn with
  | nil => rfl
  | append_singleton digits c ih =>
    rw [List.foldl_append, ih, placeValue_append_singleton]
    rfl

theorem placeValue_congr {value' : Char → Nat} {digits : List Char}
    (h : ∀ c ∈ digits, value c = value' c) :
    placeValue base value digits = placeValue base value' digits := by
  have hmap : digits.reverse.map value = digits.reverse.map value' :=
    List.map_congr_left fun c hc => h c (List.mem_reverse.1 hc)
  rw [placeValue, hmap, placeValue]

theorem placeValue_lt (hbase : 1 < base) {digits : List Char} (h : ∀ c ∈ digits, value c < base) :
    placeValue base value digits < base ^ digits.length := by
  have hdigits : ∀ n ∈ digits.reverse.map value, n < base := by
    intro n hn
    obtain ⟨c, hc, rfl⟩ := List.mem_map.1 hn
    exact h c (List.mem_reverse.1 hc)
  simpa [placeValue] using Nat.ofDigits_lt_base_pow_length hbase hdigits

theorem placeValue_append (xs ys : List Char) :
    placeValue base value (xs ++ ys) =
      placeValue base value xs * base ^ ys.length + placeValue base value ys := by
  rw [placeValue, List.reverse_append, List.map_append, Nat.ofDigits_append, List.length_map,
    List.length_reverse, placeValue, placeValue, Nat.mul_comm, Nat.add_comm]

theorem placeValue_cons (c : Char) (digits : List Char) :
    placeValue base value (c :: digits) =
      value c * base ^ digits.length + placeValue base value digits := by
  have hsingle : placeValue base value [c] = value c := Nat.ofDigits_singleton
  rw [← List.singleton_append, placeValue_append, hsingle]

/-- The first digits denote what is left of the number when the places behind them are cut off. -/
theorem placeValue_take (hbase : 1 < base) {digits : List Char} (h : ∀ c ∈ digits, value c < base)
    (n : Nat) :
    placeValue base value (digits.take n) =
      placeValue base value digits / base ^ (digits.drop n).length := by
  have hlow : placeValue base value (digits.drop n) < base ^ (digits.drop n).length :=
    placeValue_lt hbase fun c hc => h c (List.mem_of_mem_drop hc)
  have hsplit : placeValue base value digits =
      placeValue base value (digits.drop n) +
        placeValue base value (digits.take n) * base ^ (digits.drop n).length := by
    rw [Nat.add_comm, ← placeValue_append, List.take_append_drop]
  rw [hsplit, Nat.add_mul_div_right _ _ (Nat.pow_pos (by omega)), Nat.div_eq_of_lt hlow,
    Nat.zero_add]

end PlaceValue

/-- The number that decimal digits denote. -/
def decimal (digits : List Char) : Nat := placeValue 10 digitValue digits

theorem bounds_of_isDigit {c : Char} (h : c.isDigit = true) : 0x30 ≤ c.toNat ∧ c.toNat ≤ 0x39 := by
  simp only [Char.isDigit, Bool.and_eq_true, decide_eq_true_eq, ge_iff_le,
    UInt32.le_iff_toNat_le] at h
  exact h

theorem digitValue_lt {c : Char} (h : c.isDigit = true) : digitValue c < 10 := by
  have hbounds := bounds_of_isDigit h
  change c.toNat - 0x30 < 10
  omega

theorem decimal_lt {digits : List Char} (h : ∀ c ∈ digits, c.isDigit = true) :
    decimal digits < 10 ^ digits.length :=
  placeValue_lt (by omega) fun c hc => digitValue_lt (h c hc)

/-- One or more ASCII digits. -/
structure IsNumeral (digits : List Char) : Prop where
  ne_nil : digits ≠ []
  ascii : ∀ c ∈ digits, c.isDigit = true

theorem natural?_eq_some_iff {cs : List Char} {n : Nat} :
    natural? cs = some n ↔ IsNumeral cs ∧ decimal cs = n := by
  rw [natural?, foldl_eq_placeValue, ← decimal]
  split
  · next h =>
    refine ⟨fun hnone => absurd hnone (by simp), fun ⟨hcs, _⟩ => ?_⟩
    have hempty : cs.isEmpty = false := by simpa using hcs.ne_nil
    have hall : cs.all Char.isDigit = true := List.all_eq_true.2 hcs.ascii
    simp [hempty, hall] at h
  · next h =>
    have hcs : cs ≠ [] ∧ ∀ c ∈ cs, c.isDigit = true := by simpa using h
    rw [Option.some.injEq]
    exact ⟨fun hn => ⟨⟨hcs.1, hcs.2⟩, hn⟩, And.right⟩

/-- A text writes an integer with a sign or without. -/
inductive Writes : List Char → Int → Prop where
  | unsigned {digits : List Char} : IsNumeral digits → Writes digits (decimal digits)
  | plus {digits : List Char} : IsNumeral digits → Writes ('+' :: digits) (decimal digits)
  | minus {digits : List Char} : IsNumeral digits → Writes ('-' :: digits) (-(decimal digits : Int))

theorem signed?_eq_some_iff {cs : List Char} {z : Int} : signed? cs = some z ↔ Writes cs z := by
  constructor
  · intro h
    unfold signed? at h
    split at h
    all_goals
      obtain ⟨z, hz, rfl⟩ := Option.map_eq_some_iff.1 h
      obtain ⟨n, hn, hcast⟩ := Option.bind_eq_some_iff.1 hz
      obtain rfl := Option.some.inj hcast
      obtain ⟨hdigits, rfl⟩ := natural?_eq_some_iff.1 hn
    · exact .minus hdigits
    · exact .plus hdigits
    · exact .unsigned hdigits
  · intro h
    cases h with
    | plus hdigits =>
      rw [signed?, natural?_eq_some_iff.2 ⟨hdigits, rfl⟩]
      rfl
    | minus hdigits =>
      rw [signed?, natural?_eq_some_iff.2 ⟨hdigits, rfl⟩]
      rfl
    | unsigned hdigits =>
      unfold signed?
      -- A sign is no digit, so that only the last case is left.
      split
      · exact absurd (hdigits.ascii '-' List.mem_cons_self) (by decide)
      · exact absurd (hdigits.ascii '+' List.mem_cons_self) (by decide)
      · rw [natural?_eq_some_iff.2 ⟨hdigits, rfl⟩]
        rfl

theorem Writes.unique {cs : List Char} {y z : Int} (hy : Writes cs y) (hz : Writes cs z) : y = z :=
  Option.some.inj ((signed?_eq_some_iff.2 hy).symm.trans (signed?_eq_some_iff.2 hz))

/-- The integers of 64 bits. -/
def FitsInt64 (z : Int) : Prop := -2 ^ 63 ≤ z ∧ z < 2 ^ 63

theorem integer64?_eq_some_iff {s : String} {z : Int} :
    integer64? s = some z ↔ Writes s.toList z ∧ FitsInt64 z := by
  rw [integer64?, Option.filter_eq_some_iff, signed?_eq_some_iff, FitsInt64]
  simp only [Bool.and_eq_true, decide_eq_true_eq]
  norm_num

end FeatureToggle.Text
