import FeatureToggle.Proofs.Numerals
import FeatureToggle.Strategy.Gradual

/-!
# Gradual rollouts

A rollout compares the bucket of a user with the percentage that the state sets. Every named user has
one bucket of each feature, so that the users who are rolled out to at a percentage stay so when it
grows (`threshold_bucket`). Texts that write no integer of 64 bits roll out to nobody.
-/
namespace FeatureToggle

/-- A user with a name: one that is not blank throughout. -/
def User.Named (u : User) : Prop := ∃ c ∈ u.name.toList, Text.isBlank c = false

theorem User.named_iff {u : User} : u.Named ↔ ¬ Text.isBlankText u.name = true := by
  have hblank : Text.isBlankText u.name = true ↔ Text.trimChars u.name.toList = [] := by
    rw [Text.isBlankText, Text.trim, String.isEmpty_iff, ← String.toList_inj]
    simp
  rw [hblank, Text.trimChars_eq_nil_iff, User.Named]
  simp

namespace Strategy

open Text

/-- The percentage that a state sets: its text, without the blanks around it, writes an integer of 64
bits. -/
def SetsPercentage (s : FeatureState) (p : Int) : Prop :=
  ∃ text, s.parameter percentageParameter = some text ∧ Writes (trim text).toList p ∧ FitsInt64 p

/-- The text of the percentage, empty if there is none. -/
def percentageText (s : FeatureState) : String := (s.parameter percentageParameter).getD ""

theorem percentage?_eq_some_iff {s : FeatureState} {p : Int} :
    percentage? (percentageText s) = some p ↔ SetsPercentage s p := by
  rw [percentageText, SetsPercentage]
  cases s.parameter percentageParameter with
  | none =>
    have hempty : percentage? "" = none := rfl
    simp [hempty]
  | some text => simp [percentage?, integer64?_eq_some_iff]

/-- A sign, leading zeros and the blanks around the number do not matter. -/
example : SetsPercentage ((FeatureState.of "F1" true).setParameter "percentage" " +0093\n") 93 :=
  percentage?_eq_some_iff.1 (by decide +kernel)

theorem percentage?_eq_none_iff {s : FeatureState} :
    percentage? (percentageText s) = none ↔ ∀ p, ¬ SetsPercentage s p := by
  rw [Option.eq_none_iff_forall_ne_some]
  simp only [ne_eq, percentage?_eq_some_iff]

/-! ## Buckets -/

theorem bucket_lt (feature name : String) : bucket feature name < 100 :=
  Nat.mod_lt _ (by omega)

/-- Only the trimmed name in lower case counts. -/
theorem bucket_congr (feature : String) {name name' : String}
    (h : lowercase (trim name) = lowercase (trim name')) :
    bucket feature name = bucket feature name' := by
  rw [bucket, bucket, bucketBy, bucketBy, bucketKey, bucketKey, h]

example : bucket "F1" "  Alice " = 92 := by decide +kernel

/-! ## Decisions -/

section Decisions

variable {s : FeatureState} {user : Option User} {u : User}

theorem isRolledOut_of_unnamed (h : ∀ u ∈ user, ¬ u.Named) : isRolledOut s user = ⟨false, []⟩ := by
  cases user with
  | none => rfl
  | some u =>
    have hblank : isBlankText u.name = true := by
      by_contra hname
      exact h u rfl (User.named_iff.2 hname)
    rw [isRolledOut, if_pos hblank]
    rfl

theorem isRolledOut_of_sets (hu : u.Named) {p : Int} (hp : SetsPercentage s p) :
    isRolledOut s (some u) = ⟨decide ((bucket s.feature u.name : Int) < p), []⟩ := by
  have hname := User.named_iff.1 hu
  have hpercentage := percentage?_eq_some_iff.2 hp
  rw [percentageText] at hpercentage
  -- A bucket below the percentage makes the percentage positive.
  have hpositive : (decide (0 < p) && decide ((bucket s.feature u.name : Int) < p)) =
      decide ((bucket s.feature u.name : Int) < p) := by
    rw [Bool.and_eq_right_iff_imp]
    simp only [decide_eq_true_eq]
    omega
  simp only [isRolledOut, if_neg hname, hpercentage, hpositive]
  rfl

theorem isRolledOut_of_sets_none (hu : u.Named) (h : ∀ p, ¬ SetsPercentage s p) :
    isRolledOut s (some u) =
      ⟨false, [.logged (.invalidPercentage s.feature (percentageText s))]⟩ := by
  have hname := User.named_iff.1 hu
  have hpercentage := percentage?_eq_none_iff.2 h
  rw [percentageText] at hpercentage
  simp only [isRolledOut, if_neg hname, hpercentage]
  rfl

end Decisions

theorem isActive_gradual (s : FeatureState) (user : Option User) :
    gradual.isActive s user = isRolledOut s user := rfl

/-- Whether the rollout of the state reaches the caller. -/
def RolledOut (s : FeatureState) (user : Option User) : Prop := (gradual.isActive s user).value = true

/-- The numbers of users by their names are thresholds for the percentages of a feature. -/
structure Threshold (feature : String) (number : String → Nat) : Prop where
  le : ∀ name, number name ≤ 99
  /-- A number depends on the trimmed name in lower case only. -/
  congr : ∀ name name', lowercase (trim name) = lowercase (trim name') → number name = number name'
  iff : ∀ s u p, s.feature = feature → u.Named → SetsPercentage s p →
    (RolledOut s (some u) ↔ (number u.name : Int) < p)
  nobody : ∀ s user p, s.feature = feature → SetsPercentage s p → p ≤ 0 → ¬ RolledOut s user
  everybody : ∀ s u p, s.feature = feature → SetsPercentage s p → 100 ≤ p → u.Named →
    RolledOut s (some u)
  /-- Whoever is rolled out to at a percentage is so at any that is at least as large. -/
  grows : ∀ s s' user p p', s.feature = feature → s'.feature = feature → SetsPercentage s p →
    SetsPercentage s' p' → p ≤ p' → RolledOut s user → RolledOut s' user
  /-- No percentage is set if the text is missing or blank, is no integer, or is one beyond 64
  bits. -/
  unset : ∀ s user, s.feature = feature → (∀ p, ¬ SetsPercentage s p) → ¬ RolledOut s user
  beyond : ∀ s user text z, s.feature = feature → s.parameter percentageParameter = some text →
    Writes (trim text).toList z → ¬ FitsInt64 z → ¬ RolledOut s user
  unnamed : ∀ s user, s.feature = feature → (∀ u ∈ user, ¬ u.Named) → ¬ RolledOut s user

theorem rolledOut_iff {s : FeatureState} {u : User} {p : Int} (hu : u.Named)
    (hp : SetsPercentage s p) :
    RolledOut s (some u) ↔ (bucket s.feature u.name : Int) < p := by
  rw [RolledOut, isActive_gradual, isRolledOut_of_sets hu hp, decide_eq_true_eq]

theorem not_rolledOut_of_unnamed {s : FeatureState} {user : Option User}
    (h : ∀ u ∈ user, ¬ u.Named) : ¬ RolledOut s user := by
  rw [RolledOut, isActive_gradual, isRolledOut_of_unnamed h]
  exact Bool.false_ne_true

theorem not_rolledOut_of_sets_none {s : FeatureState} (h : ∀ p, ¬ SetsPercentage s p)
    (user : Option User) : ¬ RolledOut s user := by
  by_cases hnamed : ∃ u ∈ user, u.Named
  · obtain ⟨u, rfl, hu⟩ := hnamed
    rw [RolledOut, isActive_gradual, isRolledOut_of_sets_none hu h]
    exact Bool.false_ne_true
  · apply not_rolledOut_of_unnamed
    intro u hu hname
    exact hnamed ⟨u, hu, hname⟩

/-- The callers who are rolled out to have a name. -/
theorem RolledOut.exists_named {s : FeatureState} {user : Option User} (h : RolledOut s user) :
    ∃ u, user = some u ∧ u.Named := by
  by_contra hnone
  apply not_rolledOut_of_unnamed (s := s) _ h
  intro u hu hname
  exact hnone ⟨u, hu, hname⟩

theorem threshold_bucket (feature : String) : Threshold feature (bucket feature) where
  le name := by
    have hlt := bucket_lt feature name
    omega
  congr name name' h := bucket_congr feature h
  iff s u p hs hu hp := by
    subst hs
    exact rolledOut_iff hu hp
  nobody s user p hs hp hle h := by
    obtain ⟨u, rfl, hu⟩ := h.exists_named
    have hlt := (rolledOut_iff hu hp).1 h
    omega
  everybody s u p hs hp hle hu := by
    rw [rolledOut_iff hu hp]
    have hlt := bucket_lt s.feature u.name
    omega
  grows s s' user p p' hs hs' hp hp' hle h := by
    obtain ⟨u, rfl, hu⟩ := h.exists_named
    have hlt := (rolledOut_iff hu hp).1 h
    rw [rolledOut_iff hu hp', hs', ← hs]
    omega
  unset s user hs h := not_rolledOut_of_sets_none h user
  beyond s user text z hs htext hz hfits := by
    apply not_rolledOut_of_sets_none
    rintro p ⟨text', htext', hp, hfits'⟩
    obtain rfl : text = text' := Option.some.inj (htext.symm.trans htext')
    rw [hz.unique hp] at hfits
    exact hfits hfits'
  unnamed s user hs h := not_rolledOut_of_unnamed h

end Strategy

end FeatureToggle
