import FeatureToggle.Text.Split
import Mathlib.Data.List.Basic

/-!
# Pieces of a text

What splitting a text gives, said in terms of the text alone: a piece is a part without separators
that reaches from one separator, or from an end of the text, to the next. The pieces are listed in
the order in which they stand (`mem_excerpts`, `ordered_excerpts`), and the runs of a text are those
that are not empty, which is to say the maximal ones (`exists_runs`).
-/
namespace FeatureToggle.Text

/-- A part of a text, with what stands before and after it. -/
structure Excerpt where
  before : List Char
  letters : List Char
  after : List Char

namespace Excerpt

/-- A part without separators that a separator, or the end of the text, delimits on either side. -/
structure Piece (p : Char → Bool) (cs : List Char) (e : Excerpt) : Prop where
  eq_text : cs = e.before ++ e.letters ++ e.after
  inside : ∀ c ∈ e.letters, p c = false
  opened : ∀ c ∈ e.before.getLast?, p c = true
  closed : ∀ c ∈ e.after.head?, p c = true

/-- The same part when a character comes in front of the text. -/
def shift (c : Char) (e : Excerpt) : Excerpt := { e with before := c :: e.before }

/-- The part when a letter comes in front of the text: where the text begins, the letter belongs to
the part. -/
def absorb (c : Char) (e : Excerpt) : Excerpt :=
  if e.before = [] then ⟨[], c :: e.letters, e.after⟩ else e.shift c

@[simp] theorem before_shift (c : Char) (e : Excerpt) : (e.shift c).before = c :: e.before := rfl

@[simp] theorem letters_shift (c : Char) (e : Excerpt) : (e.shift c).letters = e.letters := rfl

theorem absorb_of_nil (c : Char) {e : Excerpt} (h : e.before = []) :
    e.absorb c = ⟨[], c :: e.letters, e.after⟩ := if_pos h

theorem absorb_of_ne_nil (c : Char) {e : Excerpt} (h : e.before ≠ []) : e.absorb c = e.shift c :=
  if_neg h

section Cons

variable {p : Char → Bool} {c : Char} {cs : List Char}

theorem piece_nil {e : Excerpt} : e.Piece p [] ↔ e = ⟨[], [], []⟩ := by
  obtain ⟨before, letters, after⟩ := e
  constructor
  · intro h
    have heq : before ++ letters ++ after = [] := h.eq_text.symm
    simpa [and_assoc] using heq
  · rintro ⟨rfl, rfl, rfl⟩
    exact ⟨rfl, by simp, by simp, by simp⟩

theorem piece_cons_of_separator (hc : p c = true) {e : Excerpt} :
    e.Piece p (c :: cs) ↔
      e = ⟨[], [], c :: cs⟩ ∨ ∃ e' : Excerpt, e'.Piece p cs ∧ e'.shift c = e := by
  constructor
  · obtain ⟨_ | ⟨d, before⟩, _ | ⟨d', letters⟩, after⟩ := e <;>
      rintro ⟨heq, hinside, hopened, hclosed⟩
    · exact .inl (by rw [heq]; rfl)
    · obtain ⟨rfl, -⟩ := List.cons.inj heq
      simp_all
    all_goals
      obtain ⟨rfl, hrest⟩ := List.cons.inj heq
      refine .inr ⟨⟨before, _, after⟩, ⟨hrest, hinside, fun b hb => hopened b ?_, hclosed⟩, rfl⟩
      simp_all [List.getLast?_cons]
  · rintro (rfl | ⟨⟨before, letters, after⟩, ⟨heq, hinside, hopened, hclosed⟩, rfl⟩)
    · exact ⟨rfl, by simp, by simp, by simpa using hc⟩
    · refine ⟨by rw [heq]; rfl, hinside, fun b hb => ?_, hclosed⟩
      cases before with
      | nil => simp_all
      | cons d before => exact hopened b (by simpa [List.getLast?_cons] using hb)

theorem piece_cons_of_letter (hc : p c = false) {e : Excerpt} :
    e.Piece p (c :: cs) ↔ ∃ e' : Excerpt, e'.Piece p cs ∧ e'.absorb c = e := by
  constructor
  · obtain ⟨_ | ⟨d, _ | ⟨d', before⟩⟩, letters, after⟩ := e <;>
      rintro ⟨heq, hinside, hopened, hclosed⟩
    · cases letters with
      | nil => cases heq; simp_all
      | cons d letters =>
        obtain ⟨rfl, hrest⟩ := List.cons.inj heq
        exact ⟨⟨[], letters, after⟩, ⟨hrest, by simp_all, by simp, hclosed⟩, rfl⟩
    · obtain ⟨rfl, -⟩ := List.cons.inj heq
      simp_all
    · obtain ⟨rfl, hrest⟩ := List.cons.inj heq
      exact ⟨⟨d' :: before, letters, after⟩, ⟨hrest, hinside, by simpa using hopened, hclosed⟩, rfl⟩
  · rintro ⟨⟨_ | ⟨d, before⟩, letters, after⟩, ⟨heq, hinside, hopened, hclosed⟩, rfl⟩
    · exact ⟨by rw [heq]; rfl, by simpa [absorb, hc] using hinside, by simp [absorb], hclosed⟩
    · exact ⟨by rw [heq]; rfl, hinside, by simpa [absorb] using hopened, hclosed⟩

end Cons

end Excerpt

open Excerpt

/-- The pieces of a text, from left to right. -/
def excerpts (p : Char → Bool) : List Char → List Excerpt
  | [] => [⟨[], [], []⟩]
  | c :: cs =>
    if p c then ⟨[], [], c :: cs⟩ :: (excerpts p cs).map (shift c)
    else (excerpts p cs).map (absorb c)

theorem mem_excerpts {p : Char → Bool} {cs : List Char} {e : Excerpt} :
    e ∈ excerpts p cs ↔ e.Piece p cs := by
  induction cs generalizing e with
  | nil => rw [piece_nil, excerpts, List.mem_singleton]
  | cons c cs ih =>
    cases hc : p c with
    | true =>
      rw [piece_cons_of_separator hc, excerpts, if_pos hc, List.mem_cons, List.mem_map]
      simp only [ih]
    | false =>
      rw [piece_cons_of_letter hc, excerpts, if_neg (by simp [hc]), List.mem_map]
      simp only [ih]

/-- The first piece begins with the text, and no other does. -/
theorem exists_excerpts_eq (p : Char → Bool) (cs : List Char) :
    ∃ first rest, excerpts p cs = first :: rest ∧ first.before = [] ∧
      ∀ e ∈ rest, e.before ≠ [] := by
  induction cs with
  | nil => exact ⟨_, [], rfl, rfl, by simp⟩
  | cons c cs ih =>
    obtain ⟨first, rest, heq, hfirst, hrest⟩ := ih
    cases hc : p c with
    | true =>
      refine ⟨⟨[], [], c :: cs⟩, _, by rw [excerpts, if_pos hc], rfl, fun e he => ?_⟩
      obtain ⟨e', -, rfl⟩ := List.mem_map.1 he
      exact List.cons_ne_nil _ _
    | false =>
      refine ⟨first.absorb c, rest.map (absorb c), ?_, ?_, fun e he => ?_⟩
      · rw [excerpts, if_neg (by simp [hc]), heq, List.map_cons]
      · rw [absorb_of_nil c hfirst]
      · obtain ⟨e', he', rfl⟩ := List.mem_map.1 he
        rw [absorb_of_ne_nil c (hrest e' he')]
        exact List.cons_ne_nil _ _

theorem ordered_excerpts (p : Char → Bool) (cs : List Char) :
    (excerpts p cs).Pairwise fun a b => a.before.length < b.before.length := by
  induction cs with
  | nil => exact List.pairwise_singleton _ _
  | cons c cs ih =>
    cases hc : p c with
    | true =>
      rw [excerpts, if_pos hc, List.pairwise_cons, List.pairwise_map]
      refine ⟨fun e he => ?_, ih.imp fun h => by simpa using h⟩
      obtain ⟨e', -, rfl⟩ := List.mem_map.1 he
      simp
    | false =>
      rw [excerpts, if_neg (by simp [hc]), List.pairwise_map]
      refine ih.imp fun {a b} h => ?_
      have hb : b.before ≠ [] := fun hnil => by simp [hnil] at h
      rw [absorb_of_ne_nil c hb]
      by_cases ha : a.before = []
      · simp [absorb_of_nil c ha]
      · simpa [absorb_of_ne_nil c ha] using h

/-- Splitting gives the letters of the pieces. -/
theorem map_letters_excerpts (p : Char → Bool) (cs : List Char) :
    (excerpts p cs).map letters = splitWhere p cs := by
  induction cs with
  | nil => rfl
  | cons c cs ih =>
    cases hc : p c with
    | true =>
      rw [excerpts, splitWhere, if_pos hc, if_pos hc, List.map_cons, List.map_map, ← ih]
      rfl
    | false =>
      obtain ⟨first, rest, heq, hfirst, hrest⟩ := exists_excerpts_eq p cs
      have hmap : rest.map (letters ∘ absorb c) = rest.map letters :=
        List.map_congr_left fun e he => by simp [absorb_of_ne_nil c (hrest e he)]
      rw [excerpts, splitWhere, if_neg (by simp [hc]), if_neg (by simp [hc]), List.map_map, ← ih,
        heq, List.map_cons, List.map_cons, hmap, Function.comp_apply, absorb_of_nil c hfirst]
      rfl

/-! ## At a separator -/

theorem splitWhere_eq (p : Char → Bool) (cs : List Char) : splitWhere p cs = cs.splitOnP p := by
  induction cs with
  | nil => exact List.splitOnP_nil.symm
  | cons c cs ih =>
    have hhead (pieces : List (List Char)) (h : pieces ≠ []) :
        consHead c pieces = pieces.modifyHead (List.cons c) := by
      cases pieces with
      | nil => exact absurd rfl h
      | cons piece pieces => rfl
    rw [splitWhere, List.splitOnP_cons_eq_if_modifyHead, ih, hhead _ (List.splitOnP_ne_nil p cs)]

/-- A separator parts the pieces on its left from those on its right. -/
theorem splitWhere_append_cons {p : Char → Bool} {c : Char} (hc : p c = true) (xs ys : List Char) :
    splitWhere p (xs ++ c :: ys) = splitWhere p xs ++ splitWhere p ys := by
  simp only [splitWhere_eq, List.splitOnP_append_cons xs ys hc]

/-- Letters at the end of a text belong to its last piece. -/
theorem exists_splitWhere_append {p : Char → Bool} {ys : List Char} (h : ∀ c ∈ ys, p c = false)
    (xs : List Char) :
    ∃ pieces last, splitWhere p xs = pieces ++ [last] ∧
      splitWhere p (xs ++ ys) = pieces ++ [last ++ ys] := by
  induction xs with
  | nil =>
    refine ⟨[], [], rfl, ?_⟩
    rw [List.nil_append, splitWhere_eq, List.splitOnP_eq_singleton h]
    rfl
  | cons c xs ih =>
    obtain ⟨pieces, last, hxs, happend⟩ := ih
    cases hc : p c with
    | true =>
      refine ⟨[] :: pieces, last, ?_, ?_⟩
      · rw [splitWhere, if_pos hc, hxs, List.cons_append]
      · rw [List.cons_append, splitWhere, if_pos hc, happend, List.cons_append]
    | false =>
      have hc' : ¬ p c = true := by simp [hc]
      rw [List.cons_append, splitWhere, splitWhere, if_neg hc', if_neg hc', hxs, happend]
      cases pieces with
      | nil => exact ⟨[], c :: last, rfl, rfl⟩
      | cons piece pieces => exact ⟨(c :: piece) :: pieces, last, rfl, rfl⟩

/-! ## Runs -/

/-- A maximal run of characters that are no separators. -/
structure Excerpt.IsRun (text : String) (e : Excerpt) : Prop extends
    e.Piece isSeparator text.toList where
  ne_nil : e.letters ≠ []

/-- The runs of a text are the maximal ones, each at its place. -/
theorem exists_runs (text : String) :
    ∃ places : List Excerpt, places.Pairwise (fun a b => a.before.length < b.before.length) ∧
      (∀ e, e ∈ places ↔ e.IsRun text) ∧
      runs text = places.map fun e => String.ofList e.letters := by
  refine ⟨(excerpts isSeparator text.toList).filter (!·.letters.isEmpty), ?_, fun e => ?_, ?_⟩
  · exact (ordered_excerpts isSeparator text.toList).filter _
  · rw [List.mem_filter, mem_excerpts]
    constructor
    · rintro ⟨hpiece, hne⟩
      exact ⟨hpiece, by simpa using hne⟩
    · rintro ⟨hpiece, hne⟩
      exact ⟨hpiece, by simpa using hne⟩
  · rw [runs, ← map_letters_excerpts, List.filter_map, List.map_map]
    rfl

theorem mem_runs {text run : String} :
    run ∈ runs text ↔ ∃ e : Excerpt, e.IsRun text ∧ String.ofList e.letters = run := by
  obtain ⟨places, -, hplaces, hruns⟩ := exists_runs text
  rw [hruns, List.mem_map]
  simp only [hplaces]

/-- A text of commas and blanks only. -/
def IsGap (text : String) : Prop := ∀ c ∈ text.toList, isSeparator c = true

theorem runs_append_cons {c : Char} (hc : isSeparator c = true) {text v w : String}
    (h : text.toList = v.toList ++ c :: w.toList) : runs text = runs v ++ runs w := by
  rw [runs, h, splitWhere_append_cons hc, List.filter_append, List.map_append]
  rfl

theorem runs_gap_append {gap : String} (h : IsGap gap) (v : String) : runs (gap ++ v) = runs v := by
  obtain ⟨cs, rfl⟩ : ∃ cs, String.ofList cs = gap := ⟨gap.toList, String.ofList_toList⟩
  induction cs with
  | nil => rw [String.ofList_nil, String.empty_append]
  | cons c cs ih =>
    have hc : isSeparator c = true := h c (by simp)
    have hcs : IsGap (String.ofList cs) := fun d hd => h d (by simp_all)
    rw [← ih hcs, runs_append_cons (v := "") (w := String.ofList cs ++ v) hc (by simp)]
    rfl

theorem runs_of_isGap {gap : String} (h : IsGap gap) : runs gap = [] := by
  have hempty := runs_gap_append h ""
  rwa [String.append_empty] at hempty

/-- A gap parts the runs on its left from those on its right. -/
theorem runs_append {gap : String} (h : IsGap gap) (hne : gap ≠ "") (v w : String) :
    runs (v ++ gap ++ w) = runs v ++ runs w := by
  obtain ⟨c, cs, hgap⟩ : ∃ c cs, gap.toList = c :: cs :=
    List.exists_cons_of_ne_nil (by simpa using hne)
  have hc : isSeparator c = true := h c (by simp [hgap])
  have hcs : IsGap (String.ofList cs) := fun d hd => h d (by simp_all)
  rw [runs_append_cons (v := v) (w := String.ofList cs ++ w) hc (by simp [hgap]),
    runs_gap_append hcs]

theorem runs_append_gap {gap : String} (h : IsGap gap) (v : String) : runs (v ++ gap) = runs v := by
  by_cases hne : gap = ""
  · rw [hne, String.append_empty]
  · have hempty := runs_append h hne v ""
    rw [String.append_empty] at hempty
    exact hempty.trans (List.append_nil _)

end FeatureToggle.Text
