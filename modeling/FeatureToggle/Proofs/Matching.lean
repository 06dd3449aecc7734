import FeatureToggle.Pattern.Regex
import Mathlib.Data.List.Nodup
import Mathlib.Data.List.Perm.Subperm
import Mathlib.Data.List.Range

/-!
# Matches

What it means for a regular expression to match a part of a text, by recursion on the expression. An
expression is run on all places at once, with repetitions that stop as soon as no new places come;
the places that it reaches are exactly the ends of its matches (`steps_reach`), so that a text
satisfies an expression if and only if some part of it is a match (`isMatch_iff`).
-/
namespace FeatureToggle.Pattern

/-! ## Rounds of a relation -/

/-- `n` steps of a relation, one after another. -/
def Rounds (step : Nat → Nat → Prop) : Nat → Nat → Nat → Prop
  | 0, i, j => i = j
  | n + 1, i, k => ∃ j, step i j ∧ Rounds step n j k

section Rounds

variable {step : Nat → Nat → Prop}

theorem rounds_add {m n i k : Nat} :
    Rounds step (m + n) i k ↔ ∃ j, Rounds step m i j ∧ Rounds step n j k := by
  induction m generalizing i with
  | zero => simp [Rounds]
  | succ m ih =>
    rw [Nat.add_right_comm]
    simp only [Rounds, ih]
    constructor
    · rintro ⟨i', hfirst, j, hm, hn⟩
      exact ⟨j, ⟨i', hfirst, hm⟩, hn⟩
    · rintro ⟨j, ⟨i', hfirst, hm⟩, hn⟩
      exact ⟨i', hfirst, j, hm, hn⟩

/-- Rounds do not leave places that are closed under a step. -/
theorem Rounds.mem {places : List Nat} (hclosed : ∀ i ∈ places, ∀ j, step i j → j ∈ places)
    {n i j : Nat} (hi : i ∈ places) (h : Rounds step n i j) : j ∈ places := by
  induction n generalizing i with
  | zero =>
    obtain rfl : i = j := h
    exact hi
  | succ n ih =>
    obtain ⟨i', hfirst, hrest⟩ := h
    exact ih (hclosed i hi i' hfirst) hrest

theorem Rounds.le {bound : Nat} (hstep : ∀ i j, step i j → i ≤ bound → j ≤ bound) {n i j : Nat}
    (h : Rounds step n i j) (hi : i ≤ bound) : j ≤ bound := by
  induction n generalizing i with
  | zero =>
    obtain rfl : i = j := h
    exact hi
  | succ n ih =>
    obtain ⟨i', hfirst, hrest⟩ := h
    exact ih hrest (hstep i i' hfirst hi)

end Rounds

/-! ## Lists of places -/

theorem nodup_eraseDups (places : List Nat) : places.eraseDups.Nodup := by
  induction hlength : places.length using Nat.strong_induction_on generalizing places with
  | _ n ih =>
    cases places with
    | nil => exact List.nodup_nil
    | cons i rest =>
      rw [List.eraseDups_cons, List.nodup_cons]
      constructor
      · simp
      · apply ih _ _ _ rfl
        have hle := List.length_filter_le (fun j => !j == i) rest
        simp only [List.length_cons] at hlength
        omega

@[simp] theorem mem_mergePlaces {as bs : List Nat} {i : Nat} :
    i ∈ mergePlaces as bs ↔ i ∈ as ∨ i ∈ bs := by
  rw [mergePlaces, List.mem_eraseDups, List.mem_append]

theorem nodup_mergePlaces (as bs : List Nat) : (mergePlaces as bs).Nodup := nodup_eraseDups _

/-- Places are all there are if none is missing by number. -/
theorem mem_of_length_le {places more : List Nat} (hnodup : places.Nodup) (hsub : places ⊆ more)
    (hlength : more.length ≤ places.length) {i : Nat} (hi : i ∈ more) : i ∈ places :=
  ((hnodup.subperm hsub).perm_of_length_le hlength).mem_iff.2 hi

section Steps

variable {f : List Nat → List Nat} {step : Nat → Nat → Prop} {bound : Nat}

/-- On places up to the bound, the function takes one step from each of them. -/
structure Steps (f : List Nat → List Nat) (step : Nat → Nat → Prop) (bound : Nat) : Prop where
  le : ∀ i j, step i j → i ≤ bound → j ≤ bound
  mem : ∀ places, (∀ i ∈ places, i ≤ bound) → ∀ j, j ∈ f places ↔ ∃ i ∈ places, step i j

theorem Steps.le_of_mem (h : Steps f step bound) {places : List Nat}
    (hplaces : ∀ i ∈ places, i ≤ bound) : ∀ j ∈ f places, j ≤ bound := by
  intro j hj
  obtain ⟨i, hi, hstep⟩ := (h.mem places hplaces j).1 hj
  exact h.le i j hstep (hplaces i hi)

theorem Steps.exists_rounds_succ (h : Steps f step bound) {places : List Nat}
    (hplaces : ∀ i ∈ places, i ≤ bound) (n k : Nat) :
    (∃ i ∈ places, Rounds step (n + 1) i k) ↔ ∃ j ∈ f places, Rounds step n j k := by
  constructor
  · rintro ⟨i, hi, j, hstep, hrounds⟩
    exact ⟨j, (h.mem places hplaces j).2 ⟨i, hi, hstep⟩, hrounds⟩
  · rintro ⟨j, hj, hrounds⟩
    obtain ⟨i, hi, hstep⟩ := (h.mem places hplaces j).1 hj
    exact ⟨i, hi, j, hstep, hrounds⟩

/-- Rounds stay at places that a step does not change. -/
theorem Steps.exists_rounds_of_fixed (h : Steps f step bound) {places : List Nat}
    (hplaces : ∀ i ∈ places, i ≤ bound) (hfixed : f places = places) (n k : Nat) :
    (∃ i ∈ places, Rounds step n i k) ↔ k ∈ places := by
  induction n with
  | zero => simp [Rounds]
  | succ n ih => rw [h.exists_rounds_succ hplaces, hfixed, ih]

theorem Steps.mem_repeatStep (h : Steps f step bound) (n : Nat) {places : List Nat}
    (hplaces : ∀ i ∈ places, i ≤ bound) (k : Nat) :
    k ∈ repeatStep f n places ↔ ∃ i ∈ places, Rounds step n i k := by
  induction n generalizing places with
  | zero => simp [repeatStep, Rounds]
  | succ n ih =>
    rw [repeatStep]
    split
    · next hfixed => exact (h.exists_rounds_of_fixed hplaces hfixed (n + 1) k).symm
    · rw [ih (h.le_of_mem hplaces), h.exists_rounds_succ hplaces]

theorem Steps.le_of_mem_mergePlaces (h : Steps f step bound) {places : List Nat}
    (hplaces : ∀ i ∈ places, i ≤ bound) : ∀ j ∈ mergePlaces places (f places), j ≤ bound := by
  intro j hj
  rcases mem_mergePlaces.1 hj with hold | hnew
  · exact hplaces j hold
  · exact h.le_of_mem hplaces j hnew

/-- Where the closure stops early, a step leads to no new place. -/
theorem Steps.closed_of_length_eq (h : Steps f step bound) {places : List Nat}
    (hplaces : ∀ i ∈ places, i ≤ bound) (hnodup : places.Nodup)
    (hlength : (mergePlaces places (f places)).length = places.length) :
    ∀ i ∈ places, ∀ j, step i j → j ∈ places := by
  intro i hi j hstep
  apply mem_of_length_le hnodup _ hlength.le
  · exact mem_mergePlaces.2 (.inr ((h.mem places hplaces j).2 ⟨i, hi, hstep⟩))
  · intro k hk
    exact mem_mergePlaces.2 (.inl hk)

theorem Steps.mem_closure (h : Steps f step bound) (n : Nat) {places : List Nat}
    (hplaces : ∀ i ∈ places, i ≤ bound) (hnodup : places.Nodup) (k : Nat) :
    k ∈ closure f n places ↔ ∃ m ≤ n, ∃ i ∈ places, Rounds step m i k := by
  induction n generalizing places with
  | zero => simp [closure, Rounds]
  | succ n ih =>
    rw [closure]
    split
    · next hlength =>
      constructor
      · intro hk
        exact ⟨0, Nat.zero_le _, k, hk, rfl⟩
      · rintro ⟨m, -, i, hi, hrounds⟩
        exact hrounds.mem (h.closed_of_length_eq hplaces hnodup hlength) hi
    · rw [ih (h.le_of_mem_mergePlaces hplaces) (nodup_mergePlaces _ _)]
      constructor
      · rintro ⟨m, hm, j, hj, hrounds⟩
        rcases mem_mergePlaces.1 hj with hold | hnew
        · exact ⟨m, by omega, j, hold, hrounds⟩
        · obtain ⟨i, hi, hstep⟩ := (h.mem places hplaces j).1 hnew
          exact ⟨m + 1, by omega, i, hi, j, hstep, hrounds⟩
      · rintro ⟨m, hm, i, hi, hrounds⟩
        cases m with
        | zero => exact ⟨0, Nat.zero_le _, i, mem_mergePlaces.2 (.inl hi), hrounds⟩
        | succ m =>
          obtain ⟨j, hstep, hrest⟩ := hrounds
          have hj := (h.mem places hplaces j).2 ⟨i, hi, hstep⟩
          exact ⟨m, by omega, j, mem_mergePlaces.2 (.inr hj), hrest⟩

/-- As many rounds as there are places lead to all that can be reached: each of them brings a new
place or is the last. -/
theorem Steps.closed_closure (h : Steps f step bound) (n : Nat) {places : List Nat}
    (hplaces : ∀ i ∈ places, i ≤ bound) (hnodup : places.Nodup)
    (hn : bound + 1 ≤ n + places.length) :
    ∀ i ∈ closure f n places, ∀ j, step i j → j ∈ closure f n places := by
  induction n generalizing places with
  | zero =>
    intro i hi j hstep
    rw [closure] at hi ⊢
    have hsub : places ⊆ List.range (bound + 1) := by
      intro k hk
      have hle := hplaces k hk
      rw [List.mem_range]
      omega
    apply mem_of_length_le hnodup hsub
    · rw [List.length_range]
      omega
    · have hle := h.le i j hstep (hplaces i hi)
      rw [List.mem_range]
      omega
  | succ n ih =>
    rw [closure]
    split
    · next hlength => exact h.closed_of_length_eq hplaces hnodup hlength
    · next hlength =>
      apply ih (h.le_of_mem_mergePlaces hplaces) (nodup_mergePlaces _ _)
      have hsub : places ⊆ mergePlaces places (f places) := fun k hk =>
        mem_mergePlaces.2 (.inl hk)
      have hle := (hnodup.subperm hsub).length_le
      omega

/-- Rounds without end are done with as many as there are places. -/
theorem Steps.mem_closure_of_le (h : Steps f step bound) {n : Nat} (hn : bound + 1 ≤ n)
    {places : List Nat} (hplaces : ∀ i ∈ places, i ≤ bound) (hnodup : places.Nodup) {m i k : Nat}
    (hi : i ∈ places) (hrounds : Rounds step m i k) : k ∈ closure f n places := by
  have hclosed := h.closed_closure n hplaces hnodup (by omega)
  have hmem : i ∈ closure f n places :=
    (h.mem_closure n hplaces hnodup i).2 ⟨0, Nat.zero_le _, i, hi, rfl⟩
  exact hrounds.mem hclosed hmem

/-- A first number of rounds, and then as many more as there may be: no more than places are ever of
use. -/
theorem Steps.mem_closure_repeatStep (h : Steps f step bound) (min : Nat) (max : Option Nat)
    {places : List Nat} (hplaces : ∀ i ∈ places, i ≤ bound) (k : Nat) :
    k ∈ closure f (max.elim (bound + 1) fun max => Nat.min (max - min) (bound + 1))
        (repeatStep f min places).eraseDups ↔
      ∃ i ∈ places, ∃ n, (∀ m ∈ max, n ≤ m - min) ∧ Rounds step (min + n) i k := by
  have hstart : ∀ j, j ∈ (repeatStep f min places).eraseDups ↔
      ∃ i ∈ places, Rounds step min i j := by
    intro j
    rw [List.mem_eraseDups, h.mem_repeatStep min hplaces]
  have hle : ∀ j ∈ (repeatStep f min places).eraseDups, j ≤ bound := by
    intro j hj
    obtain ⟨i, hi, hrounds⟩ := (hstart j).1 hj
    exact hrounds.le h.le (hplaces i hi)
  have hnodup := nodup_eraseDups (repeatStep f min places)
  obtain ⟨rounds, hrounds⟩ : ∃ rounds, rounds =
      max.elim (bound + 1) fun max => Nat.min (max - min) (bound + 1) := ⟨_, rfl⟩
  have hmost : ∀ m ∈ max, rounds ≤ m - min := by
    rintro m rfl
    rw [hrounds]
    exact Nat.min_le_left _ _
  have henough : ∀ n, (∀ m ∈ max, n ≤ m - min) → n ≤ rounds ∨ bound + 1 ≤ rounds := by
    intro n hn
    cases max with
    | none => exact .inr hrounds.ge
    | some m =>
      have hm := hn m rfl
      change rounds = (m - min) ⊓ (bound + 1) at hrounds
      omega
  rw [← hrounds]
  constructor
  · intro hk
    obtain ⟨n, hn, j, hj, hlast⟩ := (h.mem_closure rounds hle hnodup k).1 hk
    obtain ⟨i, hi, hfirst⟩ := (hstart j).1 hj
    refine ⟨i, hi, n, fun m hm => hn.trans (hmost m hm), rounds_add.2 ⟨j, hfirst, hlast⟩⟩
  · rintro ⟨i, hi, n, hn, hall⟩
    obtain ⟨j, hfirst, hlast⟩ := rounds_add.1 hall
    have hj := (hstart j).2 ⟨i, hi, hfirst⟩
    rcases henough n hn with hle' | hbound
    · exact (h.mem_closure rounds hle hnodup k).2 ⟨n, hle', j, hj, hlast⟩
    · exact h.mem_closure_of_le hbound hle hnodup hj hlast

end Steps

/-! ## Expressions -/

namespace Regex

/-- The expression matches what stands between two places of the text. -/
def Matches (text : Array Char) : Regex → Nat → Nat → Prop
  | empty, i, j => i = j
  | one a, i, j => (∃ c, text[i]? = some c ∧ a.contains c = true) ∧ i + 1 = j
  | assert a, i, j => a.holds (charBefore text i) text[i]? = true ∧ i = j
  | group r, i, j => Matches text r i j
  | cat r s, i, k => ∃ j, Matches text r i j ∧ Matches text s j k
  | alt r s, i, j => Matches text r i j ∨ Matches text s i j
  | times r min max, i, j =>
    ∃ n, (∀ m ∈ max, n ≤ m - min) ∧ Rounds (Matches text r) (min + n) i j

theorem Matches.le {text : Array Char} {r : Regex} {i j : Nat} (h : Matches text r i j)
    (hi : i ≤ text.size) : j ≤ text.size := by
  induction r generalizing i j with
  | empty => exact (show i = j from h) ▸ hi
  | one a =>
    obtain ⟨⟨c, hc, -⟩, rfl⟩ := h
    obtain ⟨hlt, -⟩ := Array.getElem?_eq_some_iff.1 hc
    omega
  | assert a => exact h.2 ▸ hi
  | group r ih => exact ih h hi
  | cat r s ihr ihs =>
    obtain ⟨k, hr, hs⟩ := h
    exact ihs hs (ihr hr hi)
  | alt r s ihr ihs => exact h.elim (fun hr => ihr hr hi) fun hs => ihs hs hi
  | times r min max ih =>
    obtain ⟨n, -, hrounds⟩ := h
    exact hrounds.le (fun i j hstep hi => ih hstep hi) hi

/-- The places that an expression reaches are the ends of its matches. -/
theorem steps_reach (text : Array Char) (r : Regex) :
    Steps (reach text r) (Matches text r) text.size where
  le i j h hi := h.le hi
  mem := by
    induction r with
    | empty => simp [reach, Matches]
    | one a =>
      intro places hplaces j
      simp only [reach, Matches, List.mem_map, List.mem_filter, Option.any_eq_true, and_assoc]
    | assert a =>
      intro places hplaces j
      simp only [reach, Matches, List.mem_filter]
      constructor
      · rintro ⟨hj, hholds⟩
        exact ⟨j, hj, hholds, rfl⟩
      · rintro ⟨i, hi, hholds, rfl⟩
        exact ⟨hi, hholds⟩
    | group r ih => exact ih
    | cat r s ihr ihs =>
      intro places hplaces k
      have hr : Steps (reach text r) (Matches text r) text.size := ⟨fun i j h hi => h.le hi, ihr⟩
      rw [reach, ihs _ (hr.le_of_mem hplaces)]
      simp only [ihr places hplaces, Matches]
      constructor
      · rintro ⟨j, ⟨i, hi, hfirst⟩, hlast⟩
        exact ⟨i, hi, j, hfirst, hlast⟩
      · rintro ⟨i, hi, j, hfirst, hlast⟩
        exact ⟨j, ⟨i, hi, hfirst⟩, hlast⟩
    | alt r s ihr ihs =>
      intro places hplaces j
      rw [reach, mem_mergePlaces, ihr places hplaces, ihs places hplaces]
      simp only [Matches, and_or_left, exists_or]
    | times r min max ih =>
      intro places hplaces k
      have hr : Steps (reach text r) (Matches text r) text.size := ⟨fun i j h hi => h.le hi, ih⟩
      have hrounds := hr.mem_closure_repeatStep min max hplaces k
      cases max with
      | none => exact hrounds
      | some m => exact hrounds

/-- A text satisfies an expression if some part of it is a match. -/
theorem isMatch_iff (r : Regex) (text : String) :
    r.isMatch text = true ↔
      ∃ i j, i ≤ text.toList.length ∧ Matches text.toList.toArray r i j := by
  have hplaces : ∀ i ∈ List.range (text.toList.length + 1), i ≤ text.toList.toArray.size := by
    intro i hi
    rw [List.mem_range] at hi
    rw [List.size_toArray]
    omega
  have hmem := (steps_reach text.toList.toArray r).mem _ hplaces
  rw [isMatch, Bool.not_eq_true', List.isEmpty_eq_false_iff_exists_mem, List.size_toArray]
  constructor
  · rintro ⟨j, hj⟩
    obtain ⟨i, hi, hmatch⟩ := (hmem j).1 hj
    rw [List.mem_range] at hi
    exact ⟨i, j, by omega, hmatch⟩
  · rintro ⟨i, j, hi, hmatch⟩
    exact ⟨j, (hmem j).2 ⟨i, List.mem_range.2 (by omega), hmatch⟩⟩

theorem matches_startOfText {text : Array Char} {i j : Nat} (hi : i ≤ text.size) :
    Matches text (.assert .startOfText) i j ↔ i = 0 ∧ j = 0 := by
  have hbefore : (charBefore text i).isNone = true ↔ i = 0 := by
    rw [charBefore]
    split
    · next h => simp [h]
    · next h =>
      have hlt : i - 1 < text.size := by omega
      simp [h, hlt]
  simp only [Matches, Assertion.holds, hbefore]
  omega

theorem matches_endOfText {text : Array Char} {i j : Nat} (hi : i ≤ text.size) :
    Matches text (.assert .endOfText) i j ↔ i = text.size ∧ j = text.size := by
  have hafter : text[i]?.isNone = true ↔ text.size ≤ i := by simp
  simp only [Matches, Assertion.holds, hafter]
  omega

/-- Between the two anchors an expression matches the text in full. -/
theorem isMatch_anchored (r : Regex) (text : String) :
    (cat (assert .startOfText) (cat r (assert .endOfText))).isMatch text = true ↔
      Matches text.toList.toArray r 0 text.toList.length := by
  rw [isMatch_iff, ← List.size_toArray]
  constructor
  · rintro ⟨i, k, hi, i', hstart, j, hmatch, hend⟩
    obtain ⟨rfl, rfl⟩ := (matches_startOfText hi).1 hstart
    obtain ⟨rfl, rfl⟩ := (matches_endOfText (hmatch.le hi)).1 hend
    exact hmatch
  · intro hmatch
    have hstart := (matches_startOfText (Nat.zero_le text.toList.toArray.size)).2 ⟨rfl, rfl⟩
    have hend := (matches_endOfText (le_refl text.toList.toArray.size)).2 ⟨rfl, rfl⟩
    exact ⟨0, _, Nat.zero_le _, 0, hstart, _, hmatch, hend⟩

theorem rounds_one {text : Array Char} {a : CharClass} {n i j : Nat} :
    Rounds (Matches text (.one a)) n i j ↔
      i + n = j ∧ ∀ k, i ≤ k → k < i + n → ∃ c, text[k]? = some c ∧ a.contains c = true := by
  induction n generalizing i with
  | zero =>
    constructor
    · intro h
      exact ⟨h, fun k hle hlt => by omega⟩
    · exact And.left
  | succ n ih =>
    simp only [Rounds, ih]
    constructor
    · rintro ⟨i', ⟨hfirst, rfl⟩, rfl, hrest⟩
      refine ⟨by omega, fun k hle hlt => ?_⟩
      by_cases hk : k = i
      · exact hk ▸ hfirst
      · exact hrest k (by omega) (by omega)
    · rintro ⟨rfl, hall⟩
      refine ⟨i + 1, ⟨hall i le_rfl (by omega), rfl⟩, by omega, fun k hle hlt => ?_⟩
      exact hall k (by omega) (by omega)

/-- A class repeated matches the texts of its characters that are neither too short nor too long. -/
theorem matches_times_one {cs : List Char} {a : CharClass} {min max : Nat} (h : min ≤ max) :
    Matches cs.toArray (.times (.one a) min (some max)) 0 cs.length ↔
      min ≤ cs.length ∧ cs.length ≤ max ∧ ∀ c ∈ cs, a.contains c = true := by
  rw [Matches]
  simp only [rounds_one, Option.mem_some_iff, forall_eq', Nat.zero_add, List.getElem?_toArray,
    Nat.zero_le, forall_const]
  constructor
  · rintro ⟨n, hn, hlength, hall⟩
    refine ⟨by omega, by omega, fun c hc => ?_⟩
    obtain ⟨k, hk, rfl⟩ := List.mem_iff_getElem.1 hc
    obtain ⟨d, hd, hcontains⟩ := hall k (by omega)
    rw [List.getElem?_eq_getElem hk, Option.some.injEq] at hd
    exact hd ▸ hcontains
  · rintro ⟨hmin, hmax, hall⟩
    refine ⟨cs.length - min, by omega, by omega, fun k hk => ?_⟩
    have hlt : k < cs.length := by omega
    exact ⟨cs[k], List.getElem?_eq_getElem hlt, hall _ (List.getElem_mem hlt)⟩

end Regex

end FeatureToggle.Pattern
