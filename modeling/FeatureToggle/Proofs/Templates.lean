import FeatureToggle.Storage.Journal
import Mathlib.Data.List.Basic

/-!
# Filled templates

A template is filled faithfully if every placeholder that is written in it gives way to its text, and
nothing else does. A journal fills in the feature first, and what the feature is set to afterwards, in
the text that has come about. So a feature may bring a placeholder along, or form one with the letters
around it, and that is replaced as well. The text is the faithful one if and only if the second
placeholder begins at no more places than in the template (`journaled_write_logs`).
-/
namespace FeatureToggle

namespace Text

/-- A mark in braces. -/
def placeholder (mark : Char) : List Char := ['\x7b', mark, '\x7d']

/-- The number of places where `old` begins. -/
def occurrences (old : List Char) : List Char → Nat
  | [] => 0
  | c :: cs => (if old.isPrefixOf (c :: cs) then 1 else 0) + occurrences old cs

theorem isPrefixOf_placeholder {mark c : Char} {cs : List Char} :
    (placeholder mark).isPrefixOf (c :: cs) = true ↔
      c = '\x7b' ∧ ∃ rest, cs = mark :: '\x7d' :: rest := by
  rw [placeholder, List.isPrefixOf_iff_prefix, List.cons_prefix_cons, eq_comm]
  apply and_congr_right'
  constructor
  · rintro ⟨rest, hrest⟩
    exact ⟨rest, hrest.symm⟩
  · rintro ⟨rest, rfl⟩
    exact ⟨rest, rfl⟩

section Replace

variable {old new : List Char}

theorem replaceAfter_drop (skip : Nat) (cs : List Char) :
    replaceAfter old new skip cs = replaceAfter old new 0 (cs.drop skip) := by
  induction skip generalizing cs with
  | zero => rfl
  | succ skip ih =>
    cases cs with
    | nil => rfl
    | cons c cs => rw [replaceAfter, ih, List.drop_succ_cons]

theorem replaceAfter_cons {c : Char} {cs : List Char} (h : old.isPrefixOf (c :: cs) = false) :
    replaceAfter old new 0 (c :: cs) = c :: replaceAfter old new 0 cs := by
  rw [replaceAfter, h, if_neg Bool.false_ne_true]

theorem replaceAfter_placeholder (mark : Char) (cs : List Char) :
    replaceAfter (placeholder mark) new 0 ('\x7b' :: mark :: '\x7d' :: cs) =
      new ++ replaceAfter (placeholder mark) new 0 cs := by
  have hbegins : (placeholder mark).isPrefixOf ('\x7b' :: mark :: '\x7d' :: cs) = true :=
    isPrefixOf_placeholder.2 ⟨rfl, cs, rfl⟩
  rw [replaceAfter, if_pos hbegins, replaceAfter_drop]
  rfl

theorem occurrences_cons {c : Char} {cs : List Char} (h : old.isPrefixOf (c :: cs) = false) :
    occurrences old (c :: cs) = occurrences old cs := by
  rw [occurrences, h, if_neg Bool.false_ne_true, Nat.zero_add]

theorem occurrences_le_append (front cs : List Char) :
    occurrences old cs ≤ occurrences old (front ++ cs) := by
  induction front with
  | nil => exact Nat.le_refl _
  | cons c front ih =>
    rw [List.cons_append, occurrences]
    omega

/-- What stands in front of a text is left alone if nothing that is replaced begins there. -/
theorem replaceAfter_append {front cs : List Char}
    (h : occurrences old (front ++ cs) = occurrences old cs) :
    replaceAfter old new 0 (front ++ cs) = front ++ replaceAfter old new 0 cs := by
  induction front with
  | nil => rfl
  | cons c front ih =>
    have hle : occurrences old cs ≤ occurrences old (front ++ cs) := occurrences_le_append front cs
    rw [List.cons_append, occurrences] at h
    cases hbegins : old.isPrefixOf (c :: (front ++ cs)) with
    | true =>
      rw [hbegins, if_pos rfl] at h
      omega
    | false =>
      rw [hbegins, if_neg Bool.false_ne_true, Nat.zero_add] at h
      rw [List.cons_append, replaceAfter_cons hbegins, ih h, List.cons_append]

/-- Neither of two characters in a row begins a placeholder if the first is no brace. -/
theorem isPrefixOf_placeholder_of_ne {mark c : Char} (cs : List Char) (h : c ≠ '\x7b') :
    (placeholder mark).isPrefixOf (c :: cs) = false := by
  rw [← Bool.not_eq_true, isPrefixOf_placeholder]
  exact fun hbegins => h hbegins.1

theorem occurrences_placeholder {mark : Char} (hmark : mark ≠ '\x7b') (cs : List Char) :
    occurrences (placeholder mark) ('\x7b' :: mark :: '\x7d' :: cs) =
      occurrences (placeholder mark) cs + 1 := by
  have hbegins : (placeholder mark).isPrefixOf ('\x7b' :: mark :: '\x7d' :: cs) = true :=
    isPrefixOf_placeholder.2 ⟨rfl, cs, rfl⟩
  rw [occurrences, if_pos hbegins, occurrences_cons (isPrefixOf_placeholder_of_ne _ hmark),
    occurrences_cons (isPrefixOf_placeholder_of_ne _ (by decide)), Nat.add_comm]

theorem occurrences_append_of_not_mem {mark : Char} {front : List Char} (h : '\x7b' ∉ front)
    (cs : List Char) :
    occurrences (placeholder mark) (front ++ cs) = occurrences (placeholder mark) cs := by
  induction front with
  | nil => rfl
  | cons c front ih =>
    rw [List.mem_cons, not_or] at h
    rw [List.cons_append, occurrences_cons (isPrefixOf_placeholder_of_ne _ (Ne.symm h.1)), ih h.2]

/-- Each replacement takes one opening brace away. -/
theorem count_replaceAfter {mark : Char} (hmark : mark ≠ '\x7b') (hnew : '\x7b' ∉ new)
    (cs : List Char) :
    (replaceAfter (placeholder mark) new 0 cs).count '\x7b' + occurrences (placeholder mark) cs =
      cs.count '\x7b' := by
  induction hlength : cs.length using Nat.strongRecOn generalizing cs with
  | ind n ih =>
    cases cs with
    | nil => rfl
    | cons c cs =>
      cases hbegins : (placeholder mark).isPrefixOf (c :: cs) with
      | true =>
        obtain ⟨rfl, rest, rfl⟩ := isPrefixOf_placeholder.1 hbegins
        have hrest := ih rest.length (by simp at hlength; omega) rest rfl
        rw [replaceAfter_placeholder, occurrences_placeholder hmark, List.count_append,
          List.count_eq_zero_of_not_mem hnew, List.count_cons_self, List.count_cons_of_ne hmark,
          List.count_cons_of_ne (by decide)]
        omega
      | false =>
        have hrest := ih cs.length (by simp at hlength; omega) cs rfl
        rw [replaceAfter_cons hbegins, occurrences_cons hbegins, List.count_cons, List.count_cons]
        omega

end Replace

/-- A template in which the first placeholder gives way to one text and the second to another. -/
def fill (first second : List Char) : List Char → List Char
  | [] => []
  | '\x7b' :: '1' :: '\x7d' :: cs => first ++ fill first second cs
  | '\x7b' :: '2' :: '\x7d' :: cs => second ++ fill first second cs
  | c :: cs => c :: fill first second cs

section Fill

variable {first second : List Char}

/-- How filling goes on is decided by the placeholder at the start of the template, if there is one. -/
theorem fill_induction {P : List Char → Prop} (nil : P [])
    (one : ∀ cs, P cs → P ('\x7b' :: '1' :: '\x7d' :: cs))
    (two : ∀ cs, P cs → P ('\x7b' :: '2' :: '\x7d' :: cs))
    (letter : ∀ c cs, (placeholder '1').isPrefixOf (c :: cs) = false →
      (placeholder '2').isPrefixOf (c :: cs) = false → P cs → P (c :: cs))
    (cs : List Char) : P cs := by
  induction cs using fill.induct with
  | case1 => exact nil
  | case2 cs ih => exact one cs ih
  | case3 cs ih => exact two cs ih
  | case4 c cs hone htwo ih =>
    apply letter c cs _ _ ih
    · rw [← Bool.not_eq_true, isPrefixOf_placeholder]
      rintro ⟨hc, rest, hcs⟩
      exact hone rest hc hcs
    · rw [← Bool.not_eq_true, isPrefixOf_placeholder]
      rintro ⟨hc, rest, hcs⟩
      exact htwo rest hc hcs

theorem fill_cons {c : Char} {cs : List Char} (hone : (placeholder '1').isPrefixOf (c :: cs) = false)
    (htwo : (placeholder '2').isPrefixOf (c :: cs) = false) :
    fill first second (c :: cs) = c :: fill first second cs := by
  rw [← Bool.not_eq_true, isPrefixOf_placeholder] at hone htwo
  rw [fill]
  · rintro rest rfl rfl
    exact hone ⟨rfl, rest, rfl⟩
  · rintro rest rfl rfl
    exact htwo ⟨rfl, rest, rfl⟩

/-- The template after the first of two fillings. -/
theorem replaceAfter_status_first (cs : List Char) :
    replaceAfter (placeholder '1') first 0 ('\x7b' :: '2' :: '\x7d' :: cs) =
      '\x7b' :: '2' :: '\x7d' :: replaceAfter (placeholder '1') first 0 cs := by
  have hnot : (placeholder '1').isPrefixOf ('\x7b' :: '2' :: '\x7d' :: cs) = false := rfl
  rw [replaceAfter_cons hnot, replaceAfter_cons (isPrefixOf_placeholder_of_ne _ (by decide)),
    replaceAfter_cons (isPrefixOf_placeholder_of_ne _ (by decide))]

theorem occurrences_one (cs : List Char) :
    occurrences (placeholder '2') ('\x7b' :: '1' :: '\x7d' :: cs) =
      occurrences (placeholder '2') cs := by
  have hnot : (placeholder '2').isPrefixOf ('\x7b' :: '1' :: '\x7d' :: cs) = false := rfl
  rw [occurrences_cons hnot, occurrences_cons (isPrefixOf_placeholder_of_ne _ (by decide)),
    occurrences_cons (isPrefixOf_placeholder_of_ne _ (by decide))]

/-- Filling in the first text takes no second placeholder away. -/
theorem occurrences_le_replaceAfter (cs : List Char) :
    occurrences (placeholder '2') cs ≤
      occurrences (placeholder '2') (replaceAfter (placeholder '1') first 0 cs) := by
  induction cs using fill_induction with
  | nil => exact Nat.le_refl _
  | one cs ih =>
    rw [occurrences_one, replaceAfter_placeholder]
    exact Nat.le_trans ih (occurrences_le_append first _)
  | two cs ih =>
    rw [replaceAfter_status_first, occurrences_placeholder (by decide),
      occurrences_placeholder (by decide)]
    exact Nat.succ_le_succ ih
  | letter c cs hone htwo ih =>
    rw [replaceAfter_cons hone, occurrences_cons htwo]
    exact Nat.le_trans ih (occurrences_le_append [c] _)

/-- Where no second placeholder has come up, two fillings in a row are as good as one. -/
theorem replaceAfter_replaceAfter {cs : List Char}
    (h : occurrences (placeholder '2') (replaceAfter (placeholder '1') first 0 cs) =
      occurrences (placeholder '2') cs) :
    replaceAfter (placeholder '2') second 0 (replaceAfter (placeholder '1') first 0 cs) =
      fill first second cs := by
  induction cs using fill_induction with
  | nil => rfl
  | one cs ih =>
    have hle : occurrences (placeholder '2') cs ≤ occurrences (placeholder '2')
      (replaceAfter (placeholder '1') first 0 cs) := occurrences_le_replaceAfter cs
    have hge : occurrences (placeholder '2') (replaceAfter (placeholder '1') first 0 cs) ≤ _ :=
      occurrences_le_append first _
    rw [occurrences_one, replaceAfter_placeholder] at h
    rw [replaceAfter_placeholder, replaceAfter_append (by omega), ih (by omega), fill]
  | two cs ih =>
    rw [replaceAfter_status_first, occurrences_placeholder (by decide),
      occurrences_placeholder (by decide), Nat.add_right_cancel_iff] at h
    rw [replaceAfter_status_first, replaceAfter_placeholder, ih h, fill]
  | letter c cs hone htwo ih =>
    have hle : occurrences (placeholder '2') cs ≤ occurrences (placeholder '2')
      (replaceAfter (placeholder '1') first 0 cs) := occurrences_le_replaceAfter cs
    have hge : occurrences (placeholder '2') (replaceAfter (placeholder '1') first 0 cs) ≤ _ :=
      occurrences_le_append [c] _
    rw [replaceAfter_cons hone, occurrences_cons htwo] at h
    have hkept : replaceAfter (placeholder '2') second 0
        ([c] ++ replaceAfter (placeholder '1') first 0 cs) =
          [c] ++ replaceAfter (placeholder '2') second 0 (replaceAfter (placeholder '1') first 0 cs) :=
      replaceAfter_append (by rw [List.singleton_append] at hge ⊢; omega)
    rw [replaceAfter_cons hone, fill_cons hone htwo]
    rw [List.singleton_append, List.singleton_append, ih (by rw [List.singleton_append] at hge; omega)]
      at hkept
    exact hkept

/-- The faithful text has one opening brace less for each second placeholder of the template. -/
theorem count_fill (hsecond : '\x7b' ∉ second) (cs : List Char) :
    (fill first second cs).count '\x7b' + occurrences (placeholder '2') cs =
      (replaceAfter (placeholder '1') first 0 cs).count '\x7b' := by
  induction cs using fill_induction with
  | nil => rfl
  | one cs ih =>
    rw [fill, occurrences_one, replaceAfter_placeholder, List.count_append, List.count_append]
    omega
  | two cs ih =>
    rw [fill, replaceAfter_status_first, occurrences_placeholder (by decide), List.count_append,
      List.count_eq_zero_of_not_mem hsecond, List.count_cons_self, List.count_cons_of_ne (by decide),
      List.count_cons_of_ne (by decide)]
    omega
  | letter c cs hone htwo ih =>
    rw [fill_cons hone htwo, replaceAfter_cons hone, occurrences_cons htwo, List.count_cons,
      List.count_cons]
    omega

/-- Two fillings in a row give the faithful text if and only if no second placeholder has come up
between them. -/
theorem replaceAfter_replaceAfter_iff (hsecond : '\x7b' ∉ second) (cs : List Char) :
    replaceAfter (placeholder '2') second 0 (replaceAfter (placeholder '1') first 0 cs) =
        fill first second cs ↔
      occurrences (placeholder '2') (replaceAfter (placeholder '1') first 0 cs) =
        occurrences (placeholder '2') cs := by
  constructor
  · intro heq
    have hmark : '2' ≠ '\x7b' := by decide
    have htwice := count_replaceAfter hmark hsecond (replaceAfter (placeholder '1') first 0 cs)
    have honce : (fill first second cs).count '\x7b' + _ = _ := count_fill hsecond cs
    rw [heq] at htwice
    omega
  · exact replaceAfter_replaceAfter

/-- A character that the first text does not bring is one of the template. -/
theorem exists_of_replaceAfter_eq_cons (hfirst : first ≠ []) {x : Char} (hx : x ∉ first)
    {cs rest : List Char} (h : replaceAfter (placeholder '1') first 0 cs = x :: rest) :
    ∃ cs', cs = x :: cs' ∧ replaceAfter (placeholder '1') first 0 cs' = rest := by
  cases cs with
  | nil => cases h
  | cons c cs =>
    cases hbegins : (placeholder '1').isPrefixOf (c :: cs) with
    | true =>
      obtain ⟨rfl, cs, rfl⟩ := isPrefixOf_placeholder.1 hbegins
      obtain ⟨d, first, rfl⟩ := List.exists_cons_of_ne_nil hfirst
      rw [replaceAfter_placeholder, List.cons_append, List.cons.injEq] at h
      exact absurd (h.1 ▸ List.mem_cons_self) hx
    | false =>
      rw [replaceAfter_cons hbegins, List.cons.injEq] at h
      exact ⟨cs, by rw [h.1], h.2⟩

/-- A text that has no part of a placeholder makes no placeholder come up. -/
theorem occurrences_replaceAfter (hfirst : first ≠ []) (hplain : ∀ x ∈ placeholder '2', x ∉ first)
    (cs : List Char) :
    occurrences (placeholder '2') (replaceAfter (placeholder '1') first 0 cs) =
      occurrences (placeholder '2') cs := by
  induction cs using fill_induction with
  | nil => rfl
  | one cs ih =>
    rw [replaceAfter_placeholder, occurrences_one,
      occurrences_append_of_not_mem (hplain _ (by decide)), ih]
  | two cs ih =>
    rw [replaceAfter_status_first, occurrences_placeholder (by decide),
      occurrences_placeholder (by decide), ih]
  | letter c cs hone htwo ih =>
    rw [replaceAfter_cons hone, occurrences_cons htwo, ← ih]
    apply occurrences_cons
    -- A placeholder that began here would stand in the template.
    rw [← Bool.not_eq_true, isPrefixOf_placeholder] at htwo ⊢
    rintro ⟨hc, rest, hrest⟩
    obtain ⟨cs', hcs, hrest'⟩ := exists_of_replaceAfter_eq_cons hfirst (hplain _ (by decide)) hrest
    obtain ⟨cs'', hcs', -⟩ := exists_of_replaceAfter_eq_cons hfirst (hplain _ (by decide)) hrest'
    exact htwo ⟨hc, cs'', by rw [hcs, hcs']⟩

end Fill

end Text

namespace Journal

open Text

/-- The template with the placeholders that are written in it replaced, each by its own text. -/
def filled (journal : Journal) (state : FeatureState) : String :=
  String.ofList (fill state.feature.toList (word state.enabled).toList journal.template.toList)

/-- The template with the feature filled in. -/
def named (journal : Journal) (state : FeatureState) : String :=
  replace journal.template "\x7b1\x7d" state.feature

/-- How a text that is logged for a write relates to the template. -/
structure Renders (journal : Journal) (state : FeatureState) (text : String) : Prop where
  /-- The text is the faithful one exactly if the feature has not made a placeholder come up. -/
  faithful_iff : text = journal.filled state ↔
    occurrences (placeholder '2') (journal.named state).toList =
      occurrences (placeholder '2') journal.template.toList
  /-- It never does where it is not empty and has no part of a placeholder. -/
  faithful_of_plain : state.feature ≠ "" → (∀ x ∈ placeholder '2', x ∉ state.feature.toList) →
    text = journal.filled state
  /-- In the end every second placeholder is replaced, wherever it has come from. -/
  replaced : text = replace (journal.named state) "\x7b2\x7d" (word state.enabled)

theorem not_mem_word (enabled : Bool) : '\x7b' ∉ (word enabled).toList := by
  cases enabled with
  | true => decide
  | false => decide

theorem toList_named (journal : Journal) (state : FeatureState) :
    (journal.named state).toList =
      replaceAfter (placeholder '1') state.feature.toList 0 journal.template.toList :=
  String.toList_ofList

theorem render_eq_filled_iff (journal : Journal) (state : FeatureState) :
    journal.render state = journal.filled state ↔
      occurrences (placeholder '2') (journal.named state).toList =
        occurrences (placeholder '2') journal.template.toList := by
  rw [toList_named, ← replaceAfter_replaceAfter_iff (not_mem_word state.enabled)]
  rw [filled, render, replace, String.ofList_inj, ← toList_named]
  rfl

theorem renders_render (journal : Journal) (state : FeatureState) :
    journal.Renders state (journal.render state) where
  faithful_iff := journal.render_eq_filled_iff state
  faithful_of_plain hne hplain := by
    rw [render_eq_filled_iff, toList_named]
    apply occurrences_replaceAfter _ hplain
    rwa [ne_eq, String.toList_eq_nil_iff]
  replaced := rfl

/-- Before a write is passed on a text is logged that is the template, faithfully filled, unless the
feature has made a placeholder come up in it. -/
theorem journaled_write_logs {σ : Type} (journal : Journal) (inner : Repository σ)
    (state : FeatureState) (w : σ) :
    ∃ record : LogRecord, ((inner.journaled journal).write state).events w =
        .logged record :: (inner.write state).events w ∧
      record.level = journal.level ∧ journal.Renders state record.text :=
  ⟨.custom journal.level (journal.render state), rfl, rfl, journal.renders_render state⟩

/-- A feature that is named like a placeholder is taken for one, and so is one that becomes one
between the braces of the template. -/
theorem render_ne_filled :
    standard.render (.of "\x7b2\x7d" true) = "Setting feature \"enabled\" to \"enabled\"" ∧
      standard.filled (.of "\x7b2\x7d" true) =
        "Setting feature \"\x7b2\x7d\" to \"enabled\"" ∧
      let bracketed : Journal := ⟨"\x7b\x7b1\x7d\x7d", .info⟩
      bracketed.render (.of "2" false) = "disabled" ∧
        bracketed.filled (.of "2" false) = "\x7b2\x7d" := by
  decide +kernel

end Journal

end FeatureToggle
