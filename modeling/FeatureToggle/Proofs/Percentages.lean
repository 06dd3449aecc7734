import FeatureToggle.Proofs.Entries
import FeatureToggle.Proofs.Matching
import FeatureToggle.Proofs.Rollouts

/-!
# Percentages that are taken for valid

The parameter of a rollout takes one to three decimal digits for valid, of whatever script
(`isValid_iff`). A rollout understands those that consist of ASCII digits, as the number that they
denote; any other valid value is logged and rolls out to nobody (`isActive_of_valid`).
-/
namespace FeatureToggle.Strategy

open Pattern Text

/-! ## Valid values -/

/-- The expression is what the source of the pattern says. -/
example : Pattern.ofText? .atHand percentagePattern.source = some percentagePattern := by decide +kernel

theorem accepts_percentagePattern (value : String) :
    percentagePattern.accepts value = true ↔
      1 ≤ value.toList.length ∧ value.toList.length ≤ 3 ∧
        ∀ c ∈ value.toList, CharClass.digit.contains c = true := by
  rw [Pattern.accepts, percentagePattern, Regex.isMatch_anchored, Regex.matches_times_one (by omega)]

/-- Valid are one to three decimal digits. -/
theorem isValid_iff {parameter : Parameter} (h : parameter ∈ gradual.parameters) (value : String) :
    parameter.isValid value = true ↔
      1 ≤ value.toList.length ∧ value.toList.length ≤ 3 ∧
        ∀ c ∈ value.toList, CharClass.digit.contains c = true := by
  obtain rfl := List.mem_singleton.1 h
  rw [← accepts_percentagePattern]
  rfl

/-! ## Decimal digits -/

theorem contains_digit_of_isDigit {c : Char} (h : c.isDigit = true) :
    CharClass.digit.contains c = true := by
  have hbounds := bounds_of_isDigit h
  apply covers_iff.2
  exact ⟨(0x30, 0x39), by decide, hbounds⟩

/-- No digit is blank. -/
theorem isBlank_of_contains_digit {c : Char} (h : CharClass.digit.contains c = true) :
    isBlank c = false := by
  have hapart : ∀ d ∈ decimalNumber, ∀ b ∈ blanks, d.2 < b.1 ∨ b.2 < d.1 := by decide
  exact covers_of_apart hapart h

theorem trim_of_digits {value : String} (h : ∀ c ∈ value.toList, CharClass.digit.contains c = true) :
    trim value = value := by
  have hblank : ∀ c ∈ value.toList, isBlank c = false := fun c hc =>
    isBlank_of_contains_digit (h c hc)
  rw [trim, trimChars_of_no_blank hblank, String.ofList_toList]

/-- Digits that write an integer are those of ASCII, for a sign is no digit. -/
theorem isNumeral_of_writes {cs : List Char} {z : Int}
    (h : ∀ c ∈ cs, CharClass.digit.contains c = true) (hz : Writes cs z) :
    IsNumeral cs ∧ z = decimal cs := by
  cases hz with
  | unsigned hdigits => exact ⟨hdigits, rfl⟩
  | plus hdigits => exact absurd (h '+' List.mem_cons_self) (by decide)
  | minus hdigits => exact absurd (h '-' List.mem_cons_self) (by decide)

section Values

variable {s : FeatureState} {value : String}

theorem setsPercentage_iff (hs : s.parameter percentageParameter = some value)
    (h : ∀ c ∈ value.toList, CharClass.digit.contains c = true) {p : Int} :
    SetsPercentage s p ↔ IsNumeral value.toList ∧ p = decimal value.toList ∧ FitsInt64 p := by
  rw [SetsPercentage]
  simp only [hs, Option.some.injEq, exists_eq_left', trim_of_digits h]
  constructor
  · rintro ⟨hp, hfits⟩
    obtain ⟨hdigits, hvalue⟩ := isNumeral_of_writes h hp
    exact ⟨hdigits, hvalue, hfits⟩
  · rintro ⟨hdigits, rfl, hfits⟩
    exact ⟨.unsigned hdigits, hfits⟩

/-- Up to three digits of ASCII are the number that they denote. -/
theorem setsPercentage_of_ascii (hs : s.parameter percentageParameter = some value)
    (h : IsNumeral value.toList) (hlength : value.toList.length ≤ 3) :
    decimal value.toList ≤ 999 ∧ SetsPercentage s (decimal value.toList) := by
  have hlt : decimal value.toList < 10 ^ value.toList.length := decimal_lt h.ascii
  have hpow : 10 ^ value.toList.length ≤ 10 ^ 3 := Nat.pow_le_pow_right (by omega) hlength
  have hle : decimal value.toList ≤ 999 := by omega
  refine ⟨hle, (setsPercentage_iff hs fun c hc => contains_digit_of_isDigit (h.ascii c hc)).2 ?_⟩
  refine ⟨h, rfl, ?_⟩
  rw [FitsInt64]
  omega

/-- With any other digit among them there is no number. -/
theorem isActive_of_other_digit (hs : s.parameter percentageParameter = some value)
    (h : ∀ c ∈ value.toList, CharClass.digit.contains c = true)
    (hother : ∃ c ∈ value.toList, c.isDigit = false) {u : User} (hu : u.Named) :
    gradual.isActive s (some u) = ⟨false, [.logged (.invalidPercentage s.feature value)]⟩ := by
  obtain ⟨c, hc, hfalse⟩ := hother
  have hnone : ∀ p, ¬ SetsPercentage s p := by
    intro p hp
    have hascii := ((setsPercentage_iff hs h).1 hp).1.ascii c hc
    rw [hfalse] at hascii
    cases hascii
  have htext : percentageText s = value := by rw [percentageText, hs, Option.getD_some]
  rw [isActive_gradual, isRolledOut_of_sets_none hu hnone, htext]

/-- What a rollout makes of a valid value: digits of ASCII are compared with the bucket, and any
other ones are logged as invalid. -/
theorem isActive_of_valid {parameter : Parameter} (hparameter : parameter ∈ gradual.parameters)
    (hvalid : parameter.isValid value = true) (hs : s.parameter percentageParameter = some value)
    {u : User} (hu : u.Named) :
    ((∀ c ∈ value.toList, c.isDigit = true) →
      decimal value.toList ≤ 999 ∧ (gradual.isActive s (some u)).events = [] ∧
        (RolledOut s (some u) ↔ bucket s.feature u.name < decimal value.toList)) ∧
    ((∃ c ∈ value.toList, c.isDigit = false) →
      (gradual.isActive s (some u)).events = [.logged (.invalidPercentage s.feature value)] ∧
        ¬ RolledOut s (some u)) := by
  obtain ⟨hlower, hupper, hdigit⟩ := (isValid_iff hparameter value).1 hvalid
  constructor
  · intro hascii
    have hne : value.toList ≠ [] := List.ne_nil_of_length_pos (by omega)
    obtain ⟨hle, hp⟩ := setsPercentage_of_ascii hs ⟨hne, hascii⟩ hupper
    rw [rolledOut_iff hu hp, Int.ofNat_lt, isActive_gradual, isRolledOut_of_sets hu hp]
    exact ⟨hle, rfl, Iff.rfl⟩
  · intro hother
    have hrun := isActive_of_other_digit hs hdigit hother hu
    rw [RolledOut, hrun]
    exact ⟨rfl, Bool.false_ne_true⟩

end Values

/-- A state that rolls the feature out to `value` percent. -/
def rollout (feature value : String) : FeatureState :=
  ((FeatureState.of feature true).setStrategy gradual.id).setParameter percentageParameter value

theorem parameter_rollout (feature value : String) :
    (rollout feature value).parameter percentageParameter = some value := by
  simp [rollout]

theorem bucket_bob : bucket "F1" "bob" = 1 := by decide +kernel

/-- Bob is in the first bucket but one, so that he is rolled out to at two percent. -/
theorem isActive_of_valid_two :
    let bob : User := .of "bob" false
    (∀ parameter ∈ gradual.parameters, parameter.isValid "002" = true) ∧ bob.Named ∧
      (gradual.isActive (rollout "F1" "002") (some bob)).events = [] ∧
      RolledOut (rollout "F1" "002") (some bob) := by
  intro bob
  have hvalid : ∀ parameter ∈ gradual.parameters, parameter.isValid "002" = true := by
    intro parameter hparameter
    have hdigit : ∀ c ∈ "002".toList, CharClass.digit.contains c = true := List.all_eq_true.1 rfl
    exact (isValid_iff hparameter "002").2 ⟨by decide, by decide, hdigit⟩
  have hbob : bob.Named := ⟨'b', by decide, by decide⟩
  obtain ⟨-, hevents, hiff⟩ := (isActive_of_valid List.mem_cons_self
    (hvalid _ List.mem_cons_self) (parameter_rollout "F1" "002") hbob).1 (List.all_eq_true.1 rfl)
  have hbucket : bucket (rollout "F1" "002").feature bob.name = 1 := bucket_bob
  have htwo : decimal "002".toList = 2 := by decide
  exact ⟨hvalid, hbob, hevents, hiff.2 (by omega)⟩

/-- The Arabic digit three is valid, but bob, whose bucket is below three, is not rolled out to. -/
theorem isActive_misses_valid :
    let s := rollout "F1" "٣"
    let bob : User := .of "bob" false
    (∀ parameter ∈ gradual.parameters, parameter.isValid "٣" = true) ∧ bob.Named ∧
      s.parameter percentageParameter = some "٣" ∧ bucket s.feature bob.name < 3 ∧
      (gradual.isActive s (some bob)).events = [.logged (.invalidPercentage "F1" "٣")] ∧
      ¬ RolledOut s (some bob) := by
  intro s bob
  have hdigit : ∀ c ∈ "٣".toList, CharClass.digit.contains c = true := List.all_eq_true.1 rfl
  have hvalid : ∀ parameter ∈ gradual.parameters, parameter.isValid "٣" = true := by
    intro parameter hparameter
    exact (isValid_iff hparameter "٣").2 ⟨by decide, by decide, hdigit⟩
  have hbob : bob.Named := ⟨'b', by decide, by decide⟩
  have hs : s.parameter percentageParameter = some "٣" := parameter_rollout "F1" "٣"
  have hbucket : bucket s.feature bob.name < 3 := by
    have hone : bucket s.feature bob.name = 1 := bucket_bob
    omega
  have hrun := isActive_of_other_digit hs hdigit ⟨'٣', by decide, by decide⟩ hbob
  rw [RolledOut, hrun]
  exact ⟨hvalid, hbob, hs, hbucket, rfl, Bool.false_ne_true⟩

end FeatureToggle.Strategy
