/-!
# Character classes given by ranges

A class of characters is written down as a list of inclusive ranges of code points. The tables of
the library are ascending, but nothing below depends on it.
-/
namespace FeatureToggle.Text

/-- Whether the code point of `c` lies in one of the ranges. -/
def covers (ranges : List (Nat × Nat)) (c : Char) : Bool :=
  ranges.any fun r => r.1 ≤ c.toNat && c.toNat ≤ r.2

@[simp] theorem covers_nil (c : Char) : covers [] c = false := rfl

@[simp] theorem covers_cons (r : Nat × Nat) (ranges : List (Nat × Nat)) (c : Char) :
    covers (r :: ranges) c = ((r.1 ≤ c.toNat && c.toNat ≤ r.2) || covers ranges c) := rfl

@[simp] theorem covers_append (rs ss : List (Nat × Nat)) (c : Char) :
    covers (rs ++ ss) c = (covers rs c || covers ss c) := by simp [covers]

theorem covers_iff {ranges : List (Nat × Nat)} {c : Char} :
    covers ranges c = true ↔ ∃ r ∈ ranges, r.1 ≤ c.toNat ∧ c.toNat ≤ r.2 := by
  simp [covers]

/-- A character of one class is in no class whose ranges lie apart from those of the first. -/
theorem covers_of_apart {rs ss : List (Nat × Nat)}
    (hapart : ∀ r ∈ rs, ∀ s ∈ ss, r.2 < s.1 ∨ s.2 < r.1) {c : Char} (h : covers rs c = true) :
    covers ss c = false := by
  obtain ⟨r, hr, hin⟩ := covers_iff.1 h
  rw [← Bool.not_eq_true]
  intro hother
  obtain ⟨s, hs, hrange⟩ := covers_iff.1 hother
  have hdisjoint := hapart r hr s hs
  omega

end FeatureToggle.Text
