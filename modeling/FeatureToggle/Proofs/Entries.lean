import FeatureToggle.Proofs.Pieces
import Mathlib.Data.List.Induction
import Mathlib.Data.List.TakeWhile

/-!
# Entries of a list

The entries of a text that lists them with commas: the pieces between the commas, trimmed, without
the blank ones (`mem_entries`). Texts that are put together with commas list the entries of all of
them (`entries_append`, `entries_join`), and commas and blanks at the ends of a text do not count.
-/
namespace FeatureToggle.Text

/-! ## Trimming -/

/-- What is trimmed off is blank. -/
theorem exists_trimChars_eq (cs : List Char) :
    ∃ front back, cs = front ++ trimChars cs ++ back ∧ (∀ c ∈ front, isBlank c = true) ∧
      ∀ c ∈ back, isBlank c = true := by
  refine ⟨cs.takeWhile isBlank, ((dropBlanks cs).reverse.takeWhile isBlank).reverse, ?_,
    fun c hc => List.mem_takeWhile_imp hc,
    fun c hc => List.mem_takeWhile_imp (List.mem_reverse.1 hc)⟩
  have hfront : cs.takeWhile isBlank ++ dropBlanks cs = cs := List.takeWhile_append_dropWhile
  have hback : (dropBlanks cs).reverse.takeWhile isBlank ++ dropBlanks (dropBlanks cs).reverse =
      (dropBlanks cs).reverse := List.takeWhile_append_dropWhile
  rw [trimChars, List.append_assoc, ← List.reverse_append, hback, List.reverse_reverse, hfront]

theorem dropBlanks_append_left {front : List Char} (h : ∀ c ∈ front, isBlank c = true)
    (cs : List Char) : dropBlanks (front ++ cs) = dropBlanks cs :=
  List.dropWhile_append_of_pos h

theorem trimChars_append_left {front : List Char} (h : ∀ c ∈ front, isBlank c = true)
    (cs : List Char) : trimChars (front ++ cs) = trimChars cs := by
  rw [trimChars, dropBlanks_append_left h, trimChars]

theorem trimChars_append_right {back : List Char} (h : ∀ c ∈ back, isBlank c = true)
    (cs : List Char) : trimChars (cs ++ back) = trimChars cs := by
  by_cases hcs : ∀ c ∈ cs, isBlank c = true
  · rw [trimChars_append_left hcs, trimChars_eq_nil_iff.2 h, trimChars_eq_nil_iff.2 hcs]
  · have hdrop : dropBlanks (cs ++ back) = dropBlanks cs ++ back := by
      have hne : ¬ (cs.dropWhile isBlank).isEmpty := by
        rwa [List.isEmpty_iff, List.dropWhile_eq_nil_iff]
      rw [dropBlanks, List.dropWhile_append, if_neg hne, dropBlanks]
    have hback : ∀ c ∈ back.reverse, isBlank c = true := fun c hc => h c (List.mem_reverse.1 hc)
    rw [trimChars, hdrop, List.reverse_append, dropBlanks_append_left hback, trimChars]

theorem trimChars_trimChars (cs : List Char) : trimChars (trimChars cs) = trimChars cs := by
  obtain ⟨front, back, heq, hfront, hback⟩ := exists_trimChars_eq cs
  conv_rhs => rw [heq, trimChars_append_right hback, trimChars_append_left hfront]

theorem trimChars_of_no_blank {cs : List Char} (h : ∀ c ∈ cs, isBlank c = false) :
    trimChars cs = cs := by
  obtain ⟨front, back, heq, hfront, hback⟩ := exists_trimChars_eq cs
  have hnil {part : List Char} (hblank : ∀ c ∈ part, isBlank c = true) (hsub : part ⊆ cs) :
      part = [] := by
    rw [List.eq_nil_iff_forall_not_mem]
    intro c hc
    exact absurd (hblank c hc) (by simp [h c (hsub hc)])
  have hfront' : front = [] := hnil hfront (by rw [heq]; simp)
  have hback' : back = [] := hnil hback (by rw [heq]; simp)
  rw [hfront', hback', List.nil_append, List.append_nil] at heq
  exact heq.symm

theorem mem_of_mem_trimChars {c : Char} {cs : List Char} (h : c ∈ trimChars cs) : c ∈ cs := by
  obtain ⟨front, back, heq, -, -⟩ := exists_trimChars_eq cs
  rw [heq]
  simp [h]

@[simp] theorem trim_trim (s : String) : trim (trim s) = trim s := by
  rw [trim, toList_trim, trimChars_trimChars, trim]

/-! ## Entries -/

theorem splitOn_comma (cs : List Char) : splitOn [','] cs = splitWhere (· == ',') cs := by
  have hafter : splitAfter [','] 0 cs = splitWhere (· == ',') cs := by
    induction cs with
    | nil => rfl
    | cons c cs ih =>
      by_cases hc : c = ','
      · subst hc
        simpa [splitAfter, splitWhere] using ih
      · have hc' : ¬ ',' = c := fun h => hc h.symm
        simp [splitAfter, splitWhere, hc, hc', ih]
  exact hafter

theorem entries_comma (value : String) :
    entries "," value =
      (((splitWhere (· == ',') value.toList).map trimChars).filter (!·.isEmpty)).map
        String.ofList := by
  rw [entries, ← splitOn_comma]
  rfl

/-- A text lists the entry if one of its pieces between commas is the entry, up to blanks around
it. -/
def Lists (value entry : String) : Prop :=
  entry ≠ "" ∧ ∃ e : Excerpt, e.Piece (· == ',') value.toList ∧
    trim (String.ofList e.letters) = entry

theorem mem_entries {value entry : String} : entry ∈ entries "," value ↔ Lists value entry := by
  rw [entries_comma, ← map_letters_excerpts]
  simp only [List.mem_map, List.mem_filter, Lists]
  constructor
  · rintro ⟨cs, ⟨⟨_, ⟨e, he, rfl⟩, rfl⟩, hne⟩, rfl⟩
    refine ⟨?_, e, mem_excerpts.1 he, by rw [trim, String.toList_ofList]⟩
    simpa using hne
  · rintro ⟨hne, e, he, rfl⟩
    refine ⟨trimChars e.letters, ⟨⟨e.letters, ⟨e, mem_excerpts.2 he, rfl⟩, rfl⟩, ?_⟩,
      by simp [trim]⟩
    simpa [trim] using hne

theorem trim_of_mem_entries {value entry : String} (h : entry ∈ entries "," value) :
    trim entry = entry := by
  obtain ⟨-, e, -, rfl⟩ := mem_entries.1 h
  exact trim_trim _

theorem comma_not_mem_of_mem_entries {value entry : String} (h : entry ∈ entries "," value) :
    ',' ∉ entry.toList := by
  obtain ⟨-, e, he, rfl⟩ := mem_entries.1 h
  intro hmem
  rw [toList_trim, String.toList_ofList] at hmem
  simpa using he.inside _ (mem_of_mem_trimChars hmem)

theorem entries_append_cons {text v w : String} (h : text.toList = v.toList ++ ',' :: w.toList) :
    entries "," text = entries "," v ++ entries "," w := by
  simp only [entries_comma]
  rw [h, splitWhere_append_cons (by simp), List.map_append, List.filter_append, List.map_append]

theorem isBlank_of_isSeparator {c : Char} (h : isSeparator c = true) (hc : c ≠ ',') :
    isBlank c = true := by
  simpa [isSeparator, hc] using h

/-- A gap at the beginning of a text does not count. -/
theorem entries_gap_append {gap : String} (h : IsGap gap) (v : String) :
    entries "," (gap ++ v) = entries "," v := by
  obtain ⟨cs, rfl⟩ : ∃ cs, String.ofList cs = gap := ⟨gap.toList, String.ofList_toList⟩
  induction cs with
  | nil => rw [String.ofList_nil, String.empty_append]
  | cons c cs ih =>
    rw [← ih fun d hd => h d (by simp_all)]
    by_cases hc : c = ','
    · rw [entries_append_cons (v := "") (w := String.ofList cs ++ v) (by simp [hc])]
      rfl
    · -- A blank joins the first piece, from which it is trimmed.
      have hblank : ∀ d ∈ [c], isBlank d = true := by
        simpa using isBlank_of_isSeparator (h c (by simp)) hc
      simp only [entries_comma, String.toList_append, String.toList_ofList, List.cons_append]
      rw [splitWhere, if_neg (by simpa using hc)]
      cases splitWhere (· == ',') (cs ++ v.toList) with
      | nil => simp [consHead, trimChars_eq_nil_iff.2 hblank]
      | cons piece pieces =>
        have htrim : trimChars (c :: piece) = trimChars piece := trimChars_append_left hblank piece
        rw [consHead, List.map_cons, htrim, List.map_cons]

theorem entries_of_isGap {gap : String} (h : IsGap gap) : entries "," gap = [] := by
  have hempty := entries_gap_append h ""
  rwa [String.append_empty] at hempty

/-- Nor does a gap at its end. -/
theorem entries_append_gap {gap : String} (h : IsGap gap) (v : String) :
    entries "," (v ++ gap) = entries "," v := by
  obtain ⟨cs, rfl⟩ : ∃ cs, String.ofList cs = gap := ⟨gap.toList, String.ofList_toList⟩
  induction cs using List.reverseRecOn with
  | nil => rw [String.ofList_nil, String.append_empty]
  | append_singleton cs c ih =>
    rw [← ih fun d hd => h d (by simp_all)]
    by_cases hc : c = ','
    · rw [entries_append_cons (v := v ++ String.ofList cs) (w := "") (by simp [hc])]
      exact List.append_nil _
    · have hblank : ∀ d ∈ [c], isBlank d = true := by
        simpa using isBlank_of_isSeparator (h c (by simp)) hc
      have hletter : ∀ d ∈ [c], (d == ',') = false := by simpa using hc
      obtain ⟨pieces, last, hsplit, happend⟩ := exists_splitWhere_append hletter (v.toList ++ cs)
      simp only [entries_comma, String.toList_append, String.toList_ofList, ← List.append_assoc]
      rw [hsplit, happend, List.map_append, List.map_append, List.map_singleton,
        List.map_singleton, trimChars_append_right hblank]

/-- A gap with a comma in it parts the entries on its left from those on its right. -/
theorem entries_append {gap : String} (h : IsGap gap) (hcomma : ',' ∈ gap.toList) (v w : String) :
    entries "," (v ++ gap ++ w) = entries "," v ++ entries "," w := by
  obtain ⟨front, back, hgap⟩ := List.append_of_mem hcomma
  have hfront : IsGap (String.ofList front) := fun c hc => h c (by simp_all)
  have hback : IsGap (String.ofList back) := fun c hc => h c (by simp_all)
  rw [entries_append_cons (v := v ++ String.ofList front) (w := String.ofList back ++ w)
    (by simp [hgap]), entries_append_gap hfront, entries_gap_append hback]

theorem entries_join (values : List String) :
    entries "," (join "," values) = values.flatMap (entries ",") := by
  induction values with
  | nil => rfl
  | cons v rest ih =>
    cases rest with
    | nil => simp [join]
    | cons w rest =>
      have hjoin : (join "," (v :: w :: rest)).toList =
          v.toList ++ ',' :: (join "," (w :: rest)).toList := by
        simp [join, String.intercalate_cons_cons]
      rw [entries_append_cons hjoin, ih]
      rfl

/-- A text is made of a gap, what trimming leaves of it, and another gap. -/
theorem exists_trim_eq (value : String) :
    ∃ front back, IsGap front ∧ IsGap back ∧ front ++ trim value ++ back = value := by
  obtain ⟨front, back, heq, hfront, hback⟩ := exists_trimChars_eq value.toList
  have hgap {cs : List Char} (h : ∀ c ∈ cs, isBlank c = true) : IsGap (String.ofList cs) := by
    intro c hc
    rw [isSeparator, h c (by simpa using hc), Bool.or_true]
  refine ⟨String.ofList front, String.ofList back, hgap hfront, hgap hback, ?_⟩
  rw [← String.toList_inj]
  simpa using heq.symm

/-- The blanks around a list do not count. -/
theorem entries_trim (value : String) : entries "," (trim value) = entries "," value := by
  obtain ⟨front, back, hfront, hback, heq⟩ := exists_trim_eq value
  conv_rhs => rw [← heq, entries_append_gap hback, entries_gap_append hfront]

/-- A text without commas lists itself, unless it is blank. -/
theorem entries_of_comma_not_mem {value : String} (h : ',' ∉ value.toList) :
    entries "," value = if trim value = "" then [] else [trim value] := by
  have hcs : ∀ c ∈ value.toList, (c == ',') = false := by
    intro c hc
    have hne : c ≠ ',' := fun heq => h (heq ▸ hc)
    simpa using hne
  rw [entries_comma, splitWhere_eq, List.splitOnP_eq_singleton hcs, List.map_singleton, trim]
  by_cases htrim : trimChars value.toList = []
  · simp [htrim]
  · simp [htrim]

theorem mem_entries_of_comma_not_mem {value entry : String} (h : ',' ∉ value.toList) :
    entry ∈ entries "," value ↔ entry ≠ "" ∧ trim value = entry := by
  rw [entries_of_comma_not_mem h]
  split
  · next hblank =>
    rw [hblank]
    exact ⟨fun hmem => absurd hmem List.not_mem_nil, fun hentry => absurd hentry.2.symm hentry.1⟩
  · next hne =>
    rw [List.mem_singleton]
    exact ⟨fun heq => ⟨heq ▸ hne, heq.symm⟩, fun hentry => hentry.2.symm⟩

end FeatureToggle.Text
