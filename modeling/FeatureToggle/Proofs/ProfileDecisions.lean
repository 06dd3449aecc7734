import FeatureToggle.Proofs.TokenDecisions

/-!
# Decisions by profiles

A list of profiles decides by its runs: it is enough that one of them names an active profile, or
that one names, behind an exclamation mark, a profile which is not active (`profile_decides`).

Runs are put in lower case before the mark is taken off, and names are looked up without a mark. That
comes to the same: the mark is its own lower case and that of no other character, and the context on
which the lower case of a sigma depends ends at it.
-/
namespace FeatureToggle

namespace Text

/-! ## Lower case around an exclamation mark -/

theorem lowerChar_bang : lowerChar '!' = ['!'] := by decide +kernel

/-- All lower-case characters of the table lie above the exclamation mark. -/
theorem bang_lt_target : ∀ run ∈ lowerRuns, '!'.toNat < run.target := by decide +kernel

theorem ofNat_ne_bang {n : Nat} (h : '!'.toNat < n) : Char.ofNat n ≠ '!' := by
  intro heq
  by_cases hvalid : n.isValidChar
  · have hnat : (Char.ofNat n).toNat = n := by
      rw [Char.ofNat, dif_pos hvalid]
      rfl
    rw [heq] at hnat
    omega
  · have hzero : Char.ofNat n = Char.ofNat 0 := by
      rw [Char.ofNat, dif_neg hvalid]
      rfl
    exact absurd (hzero ▸ heq) (by decide)

theorem exists_lowerChar_cons {c : Char} (h : c ≠ '!') :
    ∃ d rest, lowerChar c = d :: rest ∧ d ≠ '!' := by
  unfold lowerChar
  split
  · exact ⟨'i', _, rfl, by decide⟩
  · split
    · next run hrun =>
      have htarget : '!'.toNat < run.target := bang_lt_target run (List.mem_of_find?_eq_some hrun)
      have himage : run.target ≤ run.image c.toNat := Nat.le_add_right _ _
      exact ⟨_, [], rfl, ofNat_ne_bang (Nat.lt_of_lt_of_le htarget himage)⟩
    · exact ⟨c, [], rfl, h⟩

theorem lowerSigma_ne_bang (before after : List Char) : lowerSigma before after ≠ '!' := by
  unfold lowerSigma
  split
  · decide
  · decide

/-- A text begins with the mark if its lower case does. -/
theorem head?_lowercase {s : String} (h : s.toList.head? ≠ some '!') :
    (lowercase s).toList.head? ≠ some '!' := by
  rw [lowercase, String.toList_ofList]
  cases hchars : s.toList with
  | nil => simp [lowerAfter]
  | cons c cs =>
    have hc : c ≠ '!' := by simpa [hchars] using h
    rw [lowerAfter]
    split
    · simpa using lowerSigma_ne_bang [] cs
    · obtain ⟨d, rest, heq, hd⟩ := exists_lowerChar_cons hc
      simpa [heq] using hd

/-- The mark is neither a cased letter nor passed over, so that it counts like the end of the text. -/
theorem meetsCased_append_bang (cs : List Char) : meetsCased (cs ++ ['!']) = meetsCased cs := by
  induction cs with
  | nil => decide +kernel
  | cons c cs ih =>
    cases hc : isCaseIgnorable c with
    | true => simpa [meetsCased, hc] using ih
    | false => simp [meetsCased, hc]

theorem lowerAfter_append_bang (before cs : List Char) :
    lowerAfter (before ++ ['!']) cs = lowerAfter before cs := by
  induction cs generalizing before with
  | nil => rfl
  | cons c cs ih =>
    rw [lowerAfter, lowerAfter, lowerSigma, lowerSigma, meetsCased_append_bang, ← List.cons_append,
      ih]

theorem lowercase_bang (s : String) : lowercase ("!" ++ s) = "!" ++ lowercase s := by
  have hlower : lowerAfter [] ('!' :: s.toList) = '!' :: lowerAfter [] s.toList := by
    have hmark := lowerAfter_append_bang [] s.toList
    rw [List.nil_append] at hmark
    rw [lowerAfter, if_neg (by decide), lowerChar_bang, hmark, List.singleton_append]
  rw [lowercase, lowercase, ← String.toList_inj]
  simpa using hlower

end Text

namespace Strategy

open Text

/-! ## Profiles -/

/-- A name is that of an active profile if the two differ in nothing but case, and in the blanks
around the name of the profile. -/
theorem Profiles.isActive_iff (names : List String) (p : String) :
    (Profiles.of names).isActive p = true ↔
      lowercase p ≠ "" ∧ ∃ n ∈ names, lowercase (trim n) = lowercase p := by
  rw [Profiles.isActive, Profiles.of, List.contains_iff_mem, List.mem_filter, List.mem_map]
  simp [and_comm]

/-- The decision that the strategy takes. -/
def Profiles.tokenDriven (profiles : Profiles) : TokenDriven where
  parameter := profilesParameter
  transform := lowercase
  holds t _ _ := pure (profiles.active.contains t.value)

/-- A token decides as the run does from which it comes: a mark in front of the run turns the answer
of its name. -/
theorem Profiles.decides_iff (profiles : Profiles) (s : FeatureState) (user : Option User)
    (run : String) :
    profiles.tokenDriven.Decides s user (Token.ofChars (lowercase run).toList) ↔
      (run.toList.head? ≠ some '!' ∧ profiles.isActive run = true) ∨
        ∃ rest, run = "!" ++ rest ∧ profiles.isActive rest = false := by
  have hvalue (t : Token) : profiles.tokenDriven.Decides s user t ↔
      profiles.active.contains t.value ≠ t.negated := Iff.rfl
  rw [hvalue]
  by_cases hrun : run.toList.head? = some '!'
  · obtain ⟨rest, rfl⟩ := exists_eq_bang_append hrun
    rw [lowercase_bang, Token.ofChars_negated]
    simp [Profiles.isActive]
  · have hmark : ∀ rest, run ≠ "!" ++ rest := by
      rintro rest rfl
      simp at hrun
    rw [Token.ofChars_plain (head?_lowercase hrun)]
    simp [Profiles.isActive, hrun, hmark]

/-- A list of profiles makes a feature active if one of its runs names an active profile, or names
behind an exclamation mark a profile that is not active. -/
theorem profile_decides (names : List String) :
    (∀ p, (Profiles.of names).isActive p = true ↔
      lowercase p ≠ "" ∧ ∃ n ∈ names, lowercase (trim n) = lowercase p) ∧
    ∀ s user, ((profile (Profiles.of names)).isActive s user).value = true ↔
      ∃ text, s.parameter profilesParameter = some text ∧ ∃ run, HasRun text run ∧
        ((run.toList.head? ≠ some '!' ∧ (Profiles.of names).isActive run = true) ∨
          ∃ rest, run = "!" ++ rest ∧ (Profiles.of names).isActive rest = false) := by
  refine ⟨Profiles.isActive_iff names, fun s user => ?_⟩
  have hdriven : (profile (Profiles.of names)).isActive s user =
      (Profiles.of names).tokenDriven.isActive s user := rfl
  simp only [← Profiles.decides_iff _ s user]
  rw [hdriven]
  exact TokenDriven.value_isActive_iff _ s user

/-- Behind the mark a sigma is lower-cased as at the beginning of the name, and so is one at its end.
A mark alone stands for the empty name, which is never active. -/
example :
    let active := Profiles.of [" ΣΑΣ ", "prod"]
    let decision list := ((profile active).isActive
      ((FeatureState.of "F1" true).setParameter profilesParameter (some list)) none).value
    decision "!ΣΑΣ" = false ∧ decision "σας" = true ∧ decision "!prod,!" = true := by
  decide +kernel

end Strategy

end FeatureToggle
