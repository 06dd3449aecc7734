import FeatureToggle.Proofs.PatternParts
import FeatureToggle.Proofs.ProlongedClasses

/-!
# Reading on in expressions

Groups, repetitions and whole expressions are read in step with what they are before the closing
(`inStep_expressions`).
-/
namespace FeatureToggle.Pattern

open Remains (rest)
open Prolongable (Prolongs)

variable {lost : Prop} {cs cs' : List Char}

section Groups

variable (f : Setting)

theorem inStep_readFlags (h : Prolonged lost cs cs') (seen : List Char) :
    InStep lost (readFlags seen f cs) (readFlags seen f cs') := by
  induction h generalizing seen f with
  | eaten => exact .neither
  | pasted =>
    apply InStep.of_tails
    change Tails ['$'] (if _ then if _ then _ else _ else _)
    rw [if_pos (.inr rfl)]
    split
    · exact .none
    · exact .some List.suffix_rfl
  | @cons c cs cs' hash h ih =>
    unfold readFlags
    split
    · split
      · exact .neither
      · exact .both ⟨rfl, rfl, h⟩
    · split
      · exact .neither
      · split
        · exact ih _ _
        · exact .bind_value fun f => ih _ _

theorem inStep_readGroupName (h : Prolonged lost cs cs') :
    InStep lost (readGroupName f cs) (readGroupName f cs') := by
  rw [readGroupName_eq, readGroupName_eq]
  rcases h.dropWhile_cases (p := (· != '>')) rfl with
    ⟨hnil, hnil'⟩ | ⟨hname, d, rest, rest', hd, hdrop, hdrop', hrest⟩
  · rw [hnil, hnil']
    exact .neither
  · obtain rfl : d = '>' := by simpa using hd
    rw [hdrop, hdrop', ← hname]
    change InStep lost (if isGroupName f.tables (cs.takeWhile (· != '>')) then some _ else none)
      (if isGroupName f.tables (cs.takeWhile (· != '>')) then some _ else none)
    split
    · exact .both ⟨rfl, hrest⟩
    · exact .neither

/-- The flags at the start of a group, or in a group of their own. -/
def readGroupFlags (cs : List Char) : Option (GroupStart × List Char) := do
  let (flags, stop, rest) ← readFlags [] f cs
  return (if stop = ')' then .setFlags flags else .group flags none, rest)

theorem inStep_readGroupFlags (h : Prolonged lost cs cs') :
    InStep lost (readGroupFlags f cs) (readGroupFlags f cs') := by
  refine (inStep_readFlags f h []).bind ?_ fun b => .some List.suffix_rfl
  rintro ⟨flags, stop, rest⟩ ⟨flags', stop', rest'⟩ ⟨rfl, rfl, hrest⟩
  exact .both ⟨rfl, hrest⟩

/-- A question mark is followed by a name or by flags. -/
theorem readGroupStart_mark {d : Char} {ds : List Char} (h : skip f cs = '?' :: d :: ds) :
    readGroupStart f cs =
      if d = '=' ∨ d = '!' ∨ d = ')' then none
      else if d = '<' then
        if ds.head? = some '=' ∨ ds.head? = some '!' then none else readGroupName f ds
      else if d = 'P' ∧ ds.head? = some '<' then readGroupName f (ds.drop 1)
      else readGroupFlags f (d :: ds) := by
  unfold readGroupStart
  rw [h]
  split
  case h_1 heq | h_2 heq | h_3 heq | h_4 heq | h_5 heq | h_7 heq =>
    obtain ⟨rfl, rfl⟩ : d = _ ∧ ds = _ := by simpa using heq
    simp
  case h_6 rest hequal hbang heq =>
    obtain ⟨rfl, rfl⟩ : d = _ ∧ ds = _ := by simpa using heq
    have hnone : ¬(ds.head? = some '=' ∨ ds.head? = some '!') := by
      rintro (hhead | hhead)
      · obtain ⟨tail, rfl⟩ := List.head?_eq_some_iff.1 hhead
        exact hequal tail rfl
      · obtain ⟨tail, rfl⟩ := List.head?_eq_some_iff.1 hhead
        exact hbang tail rfl
    rw [if_neg (by decide), if_pos rfl, if_neg hnone]
  case h_8 rest hequal hbang _ _ hname hangle hparenthesis heq =>
    obtain rfl : d :: ds = rest := (List.cons.inj heq).2
    have hnone : ¬(d = '=' ∨ d = '!' ∨ d = ')') := by
      rintro (rfl | rfl | rfl)
      · exact hequal ds rfl
      · exact hbang ds rfl
      · exact hparenthesis ds rfl
    have hnamed : ¬(d = 'P' ∧ ds.head? = some '<') := by
      rintro ⟨rfl, hhead⟩
      obtain ⟨tail, rfl⟩ := List.head?_eq_some_iff.1 hhead
      exact hname tail rfl
    rw [if_neg hnone, if_neg fun hd => hangle ds (by rw [hd]), if_neg hnamed]
    rfl
  case h_9 hmark => exact absurd rfl (hmark (d :: ds))

theorem readGroupStart_single (h : skip f cs = ['?']) : readGroupStart f cs = none := by
  unfold readGroupStart
  rw [h]
  rfl

theorem readGroupStart_of_ne (h : ∀ ds, skip f cs ≠ '?' :: ds) :
    readGroupStart f cs = some (.group f none, skip f cs) := by
  unfold readGroupStart
  split
  case h_9 => rfl
  all_goals next heq => exact absurd heq (h _)

theorem inStep_readGroupStart (h : Prolonged lost cs cs') :
    InStep lost (readGroupStart f cs) (readGroupStart f cs') := by
  have hskip := h.skip f
  rcases hskip.first_cases (c := '?') (by decide) with
    ⟨ds, ds', hds, hds', hrest⟩ | ⟨hne, hne'⟩
  · cases hrest with
    | eaten =>
      rw [readGroupStart_single f hds, readGroupStart_single f hds']
      exact .neither
    | pasted =>
      rw [readGroupStart_single f hds, readGroupStart_mark f hds', if_pos (.inr (.inr rfl))]
      exact .neither
    | @cons d ds ds' hash hrest =>
      rw [readGroupStart_mark f hds, readGroupStart_mark f hds']
      simp only [hrest.head?_eq_iff (show ')' ≠ '=' by decide),
        hrest.head?_eq_iff (show ')' ≠ '!' by decide), hrest.head?_eq_iff (show ')' ≠ '<' by decide)]
      split_ifs with _ _ _ hnamed
      · exact .neither
      · exact .neither
      · exact inStep_readGroupName f hrest
      · obtain ⟨tail, rfl⟩ := List.head?_eq_some_iff.1 hnamed.2
        cases hrest with
        | cons _ hrest => exact inStep_readGroupName f hrest
      · exact inStep_readGroupFlags f (.cons hash hrest)
  · rw [readGroupStart_of_ne f hne, readGroupStart_of_ne f hne']
    exact .both ⟨rfl, hskip⟩

theorem prolonged_skipLazy (h : Prolonged lost cs cs') :
    Prolonged lost (skipLazy cs) (skipLazy cs') := by
  rcases h.first_cases (c := '?') (by decide) with ⟨ds, ds', rfl, rfl, hds⟩ | ⟨hne, hne'⟩
  · exact hds
  · rw [skipLazy_of_ne hne, skipLazy_of_ne hne']
    exact h

theorem inStep_readBrace (h : Prolonged lost cs cs') (min max : Nat) :
    InStep lost (readBrace f min max cs) (readBrace f min max cs') := by
  rcases h.first_cases (c := '\x7d') (by decide) with ⟨ds, ds', rfl, rfl, hds⟩ | ⟨hne, hne'⟩
  · rw [readBrace, readBrace]
    split
    · exact .both ⟨rfl, rfl, prolonged_skipLazy (hds.skip f)⟩
    · exact .neither
  · rw [readBrace_of_ne f min max hne, readBrace_of_ne f min max hne']
    exact .neither

theorem inStep_readUpperBound (h : Prolonged lost cs cs') (min : Nat) :
    InStep lost (readUpperBound f min cs) (readUpperBound f min cs') := by
  have hskip := h.skip f
  rcases hskip.first_cases (c := '\x7d') (by decide) with
    ⟨ds, ds', hds, hds', hrest⟩ | ⟨hne, hne'⟩
  · rw [readUpperBound_brace f min hds, readUpperBound_brace f min hds']
    exact .both ⟨rfl, rfl, prolonged_skipLazy (hrest.skip f)⟩
  · rw [readUpperBound_of_ne f min hne, readUpperBound_of_ne f min hne']
    refine (inStep_readNumber f hskip).bind ?_ fun p => tails_readBrace f min _ _
    rintro ⟨max, rest⟩ ⟨max', rest'⟩ ⟨rfl, hrest⟩
    exact inStep_readBrace f hrest min max

theorem inStep_readBoundsAfter (h : Prolonged lost cs cs') (min : Nat) :
    InStep lost (readBoundsAfter f min cs) (readBoundsAfter f min cs') := by
  rcases h.first_cases (c := '\x7d') (by decide) with ⟨ds, ds', rfl, rfl, hds⟩ | ⟨hbrace, hbrace'⟩
  · exact .both ⟨rfl, rfl, prolonged_skipLazy (hds.skip f)⟩
  · rcases h.first_cases (c := ',') (by decide) with ⟨ds, ds', rfl, rfl, hds⟩ | ⟨hcomma, hcomma'⟩
    · exact inStep_readUpperBound f hds min
    · rw [readBoundsAfter_of_ne f min hbrace hcomma, readBoundsAfter_of_ne f min hbrace' hcomma']
      exact .neither

theorem inStep_readBounds (h : Prolonged lost cs cs') :
    InStep lost (readBounds f cs) (readBounds f cs') := by
  rw [readBounds_eq, readBounds_eq]
  refine (inStep_readNumber f (h.skip f)).bind ?_ fun p => tails_readBoundsAfter f _ _
  rintro ⟨min, rest⟩ ⟨min', rest'⟩ ⟨rfl, hrest⟩
  exact inStep_readBoundsAfter f hrest min

end Groups

section Expressions

/-- Parts are read in step with the fuel `n`, and enough fuel for the prolonged text. -/
def PartsInStep (lost : Prop) (n : Nat) : Prop :=
  ∀ m parts s s', Prolongs lost s s' → 2 * s.rest.length + 1 ≤ n → 2 * s'.rest.length + 1 ≤ m →
    InStep lost (readParts n parts s) (readParts m parts s')

/-- The same for alternatives. -/
def AlternativesInStep (lost : Prop) (n : Nat) : Prop :=
  ∀ m s s', Prolongs lost s s' → 2 * s.rest.length + 2 ≤ n → 2 * s'.rest.length + 2 ≤ m →
    InStep lost (readAlternatives n s) (readAlternatives m s')

theorem tails_readParts (fuel : Nat) (parts : List Part) (s : Reader) :
    Tails s.rest (readParts fuel parts s) := (tails_expressions fuel).2 parts s

theorem tails_readAlternatives (fuel : Nat) (s : Reader) :
    Tails s.rest (readAlternatives fuel s) := (tails_expressions fuel).1 s

variable {n m : Nat} {s s' : Reader} (parts : List Part)

theorem inStep_readBar (halternatives : AlternativesInStep lost n) (hs : Prolongs lost s s')
    (hn : 2 * s.rest.length ≤ n) (hm : 2 * s'.rest.length ≤ m) (r : Regex) :
    InStep lost (readBar n r s) (readBar m r s') := by
  obtain ⟨rest, flags, names⟩ := s
  obtain ⟨rest', flags', names'⟩ := s'
  obtain ⟨rfl, rfl, hrest⟩ : flags = flags' ∧ names = names' ∧ Prolonged lost rest rest' := hs
  rcases hrest.first_cases (c := '|') (by decide) with ⟨cs, cs', rfl, rfl, h⟩ | ⟨hne, hne'⟩
  · simp only [List.length_cons] at hn hm
    have hstep := halternatives m ⟨cs, flags, names⟩ ⟨cs', flags, names⟩ ⟨rfl, rfl, h⟩
      (by dsimp only; omega) (by dsimp only; omega)
    refine hstep.bind ?_ fun p => .some List.suffix_rfl
    rintro ⟨r, s⟩ ⟨r', s'⟩ ⟨rfl, hs⟩
    exact .both ⟨rfl, hs⟩
  · rw [readBar_of_ne n _ r hne, readBar_of_ne m _ r hne']
    exact .both ⟨rfl, rfl, rfl, hrest⟩

theorem inStep_readOn (hparts : PartsInStep lost n) (hs : Prolongs lost s s')
    (h : Prolonged lost cs cs') (hn : 2 * cs.length + 1 ≤ n) (hm : 2 * cs'.length + 1 ≤ m)
    (r? : Option Regex) : InStep lost (readOn n parts s r? cs) (readOn m parts s' r? cs') :=
  .bind_value fun _ => hparts m _ _ _ ⟨hs.1, hs.2.1, h⟩ hn hm

theorem inStep_readRepeated (hparts : PartsInStep lost n) (hs : Prolongs lost s s')
    (h : Prolonged lost cs cs') (hn : 2 * cs.length + 1 ≤ n) (hm : 2 * cs'.length + 1 ≤ m)
    (min : Nat) (max : Option Nat) :
    InStep lost (readRepeated n parts s min max cs) (readRepeated m parts s' min max cs') :=
  .bind_value fun _ => hparts m _ _ _ ⟨hs.1, hs.2.1, h⟩ hn hm

/-- A group that is not closed before the closing is closed by it, and then there is too little
left. -/
theorem inStep_readGroupEnd (hparts : PartsInStep lost n) (hs : Prolongs lost s s')
    (hn : 2 * s.rest.length ≤ n) (hm : 2 * s'.rest.length ≤ m) (f : Setting) (r : Regex) :
    InStep lost (readGroupEnd n parts f r s) (readGroupEnd m parts f r s') := by
  obtain ⟨rest, flags, names⟩ := s
  obtain ⟨rest', flags', names'⟩ := s'
  obtain ⟨rfl, rfl, hrest⟩ : flags = flags' ∧ names = names' ∧ Prolonged lost rest rest' := hs
  cases hrest with
  | eaten => exact .neither
  | pasted => exact .of_tails (tails_readParts m _ _)
  | @cons c cs cs' hash h =>
    simp only [List.length_cons] at hn hm
    by_cases hc : c = ')'
    · subst hc
      exact hparts m _ ⟨cs, f, names⟩ ⟨cs', f, names⟩ ⟨rfl, rfl, h⟩ (by dsimp only; omega)
        (by dsimp only; omega)
    · rw [readGroupEnd_of_ne n parts _ f r fun _ heq => hc (List.cons.inj heq).1,
        readGroupEnd_of_ne m parts _ f r fun _ heq => hc (List.cons.inj heq).1]
      exact .neither

theorem inStep_readGroup (hparts : PartsInStep lost n) (halternatives : AlternativesInStep lost n)
    (hs : Prolongs lost s s') (h : Prolonged lost cs cs') (hn : 2 * cs.length + 2 ≤ n)
    (hm : 2 * cs'.length + 2 ≤ m) (start : GroupStart) :
    InStep lost (readGroup n parts s start cs) (readGroup m parts s' start cs') := by
  obtain ⟨hflags, hnames, -⟩ := hs
  cases start with
  | setFlags flags =>
    exact hparts m _ ⟨cs, flags, s.names⟩ ⟨cs', flags, s'.names⟩ ⟨rfl, hnames, h⟩
      (by dsimp only; omega) (by dsimp only; omega)
  | group flags name =>
    rw [readGroup, readGroup, hnames, hflags]
    split
    · exact .neither
    · refine (halternatives m ⟨cs, flags, _⟩ ⟨cs', flags, _⟩ ⟨rfl, rfl, h⟩ hn hm).bind_of_tails
        (tails_readAlternatives n _) (tails_readAlternatives m _) ?_ fun p =>
        tails_readGroupEnd parts p.2 (tails_readParts m) _ _
      rintro ⟨r, t⟩ ⟨r', t'⟩ ⟨rfl, ht⟩ hsuffix hsuffix'
      have hlength : t.rest.length ≤ cs.length := hsuffix.length_le
      have hlength' : t'.rest.length ≤ cs'.length := hsuffix'.length_le
      exact inStep_readGroupEnd parts hparts ht (by dsimp only; omega) (by dsimp only; omega) _ r

theorem skip_brace (f : Setting) (cs : List Char) : skip f ('\x7b' :: cs) = '\x7b' :: cs := by
  rw [skip]
  split
  · rfl
  · rfl

/-- The brace of a boundary that seems to be repeated leads nowhere. -/
theorem readOn_dangling {a : Assertion} (h : Dangling s.flags a cs) (r? : Option Regex) :
    readOn m parts s r? cs = none := by
  obtain ⟨-, inner, rfl, hinner⟩ := h
  have hbounds : readBounds s.flags inner = none := by
    rw [readBounds_eq, hinner]
    rfl
  cases r? with
  | none => rfl
  | some r =>
    cases m with
    | zero => rfl
    | succ m =>
      change readParts (m + 1) (.expr r :: parts) _ = none
      rw [readParts_succ]
      dsimp only
      rw [skip_brace]
      change readBounds s.flags inner >>= _ = none
      rw [hbounds]
      rfl

theorem inStep_readPart (hparts : PartsInStep lost n) (halternatives : AlternativesInStep lost n)
    (hs : Prolongs lost s s') (h : Prolonged lost cs cs') (hn : 2 * cs.length ≤ n)
    (hm : 2 * cs'.length ≤ m) :
    InStep lost (readPart n parts s cs) (readPart m parts s' cs') := by
  obtain ⟨front, f, names⟩ := s
  obtain ⟨front', f', names'⟩ := s'
  obtain ⟨rfl, rfl⟩ : f = f' ∧ names = names' := ⟨hs.1, hs.2.1⟩
  cases h with
  | eaten h => exact .both ⟨rfl, rfl, rfl, .eaten h⟩
  | pasted => exact .both ⟨rfl, rfl, rfl, .pasted⟩
  | @cons c cs cs' hash h =>
    simp only [List.length_cons] at hn hm
    have hlt : 2 * cs.length + 1 ≤ n := by omega
    have hlt' : 2 * cs'.length + 1 ≤ m := by omega
    have hlazy := (skipLazy_suffix cs).length_le
    have hlazy' := (skipLazy_suffix cs').length_le
    unfold readPart
    split
    case h_1 heq => cases heq
    case h_2 heq | h_3 heq =>
      obtain ⟨rfl, rfl⟩ := List.cons.inj heq
      exact .both ⟨rfl, rfl, rfl, .cons hash h⟩
    case h_4 heq =>
      obtain ⟨rfl, rfl⟩ := List.cons.inj heq
      change InStep lost _ (readGroupStart f cs' >>= fun p => readGroup m parts _ p.1 p.2)
      refine (inStep_readGroupStart f h).bind_read (tails_readGroupStart f cs)
        (tails_readGroupStart f cs') ?_ fun p =>
        tails_readGroup parts _ (tails_readParts m) (tails_readAlternatives m) _ _
      intro start rest rest' hrest hlength hlength'
      dsimp only
      exact inStep_readGroup parts hparts halternatives hs hrest (by omega) (by omega) start
    case h_5 heq =>
      obtain ⟨rfl, rfl⟩ := List.cons.inj heq
      change InStep lost _ (readClass f m cs' >>= fun p => readOn m parts _ (some (.one p.1)) p.2)
      refine ((inStep_classes f n).1 m cs cs' h (by omega) (by omega)).bind_read
        ((tails_classes f n).1 cs) ((tails_classes f m).1 cs') ?_ fun p =>
        tails_readOn parts _ (tails_readParts m) _ _
      intro a rest rest' hrest hlength hlength'
      dsimp only
      exact inStep_readOn parts hparts hs hrest (by omega) (by omega) _
    case h_6 heq | h_7 heq | h_8 heq =>
      obtain ⟨rfl, rfl⟩ := List.cons.inj heq
      exact inStep_readRepeated parts hparts hs (prolonged_skipLazy h) (by omega) (by omega) _ _
    case h_9 heq =>
      obtain ⟨rfl, rfl⟩ := List.cons.inj heq
      change InStep lost _ (readBounds f cs' >>= fun p => readRepeated m parts _ p.1 p.2.1 p.2.2)
      refine (inStep_readBounds f h).bind_of_tails (tails_readBounds f cs)
        (tails_readBounds f cs') ?_ fun p => tails_readRepeated parts _ (tails_readParts m) _ _ _
      rintro ⟨min, max, rest⟩ ⟨min', max', rest'⟩ ⟨rfl, rfl, hrest⟩ hsuffix hsuffix'
      have hlength : rest.length ≤ cs.length := hsuffix.length_le
      have hlength' : rest'.length ≤ cs'.length := hsuffix'.length_le
      dsimp only at hrest ⊢
      exact inStep_readRepeated parts hparts hs hrest (by omega) (by omega) _ _
    case h_10 heq =>
      obtain ⟨rfl, rfl⟩ := List.cons.inj heq
      change InStep lost _ (readEscape f cs' >>= fun p => readOn m parts _ (p.1.regex? f) p.2)
      rcases inStep_readEscape f h with hstep | ⟨hnone, a, rest, hsome, hdangling⟩
      · refine hstep.bind_read (tails_readEscape f cs) (tails_readEscape f cs') ?_ fun p =>
          tails_readOn parts _ (tails_readParts m) _ _
        intro p rest rest' hrest hlength hlength'
        dsimp only
        exact inStep_readOn parts hparts hs hrest (by omega) (by omega) _
      · rw [hnone, hsome]
        change InStep lost none (readOn m parts ⟨front', f, names⟩ (some (.assert a)) rest)
        rw [readOn_dangling parts hdangling]
        exact .neither
    case h_11 heq | h_12 heq | h_13 heq =>
      obtain ⟨rfl, rfl⟩ := List.cons.inj heq
      exact inStep_readOn parts hparts hs h hlt hlt' _
    case h_14 heq =>
      obtain ⟨rfl, rfl⟩ := List.cons.inj heq
      split
      case h_14 heq =>
        obtain ⟨rfl, rfl⟩ := List.cons.inj heq
        exact inStep_readOn parts hparts hs h hlt hlt' _
      all_goals next heq => simp_all

/-- Alternatives and the parts of one, with enough fuel for either on both sides. -/
theorem inStep_expressions (lost : Prop) (n : Nat) :
    AlternativesInStep lost n ∧ PartsInStep lost n := by
  -- The prolonged text takes more fuel, of which no more is known than that it is enough.
  induction n with
  | zero => exact ⟨fun _ _ _ _ hn => by omega, fun _ _ _ _ _ hn => by omega⟩
  | succ n ih =>
    obtain ⟨halternatives, hparts⟩ := ih
    constructor
    · intro m s s' hs hn hm
      obtain ⟨m, rfl⟩ := Nat.exists_eq_add_one_of_ne_zero (Nat.ne_zero_of_lt hm)
      rw [readAlternatives_succ, readAlternatives_succ]
      refine (hparts m [] s s' hs (by omega) (by omega)).bind_of_tails (tails_readParts n [] s)
        (tails_readParts m [] s') ?_ fun p => tails_readBar p.2 (tails_readAlternatives m) p.1
      rintro ⟨r, t⟩ ⟨r', t'⟩ ⟨rfl, ht⟩ hsuffix hsuffix'
      have hlength : t.rest.length ≤ s.rest.length := hsuffix.length_le
      have hlength' : t'.rest.length ≤ s'.rest.length := hsuffix'.length_le
      exact inStep_readBar halternatives ht (by dsimp only; omega) (by dsimp only; omega) r
    · intro m parts s s' hs hn hm
      obtain ⟨m, rfl⟩ := Nat.exists_eq_add_one_of_ne_zero (Nat.ne_zero_of_lt hm)
      have hle := (skip_suffix s.flags s.rest).length_le
      have hle' := (skip_suffix s'.flags s'.rest).length_le
      rw [readParts_succ, readParts_succ]
      have hskip : Prolonged lost (skip s.flags s.rest) (skip s'.flags s'.rest) :=
        hs.1 ▸ Prolonged.skip hs.2.2 s.flags
      exact inStep_readPart parts hparts halternatives hs hskip (by omega) (by omega)

end Expressions

end FeatureToggle.Pattern
