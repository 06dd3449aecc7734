import FeatureToggle.Proofs.Remainders

/-!
# Reading on

A pattern is pasted before a closing parenthesis and an anchor. Readers that come upon the pasted end
go on in step with readers of the pattern alone, or run into it and leave less than all of it. Only
a comment without an end takes the pasted end in unnoticed.
-/
namespace FeatureToggle.Pattern

open Remains (rest)

/-- What is pasted behind a pattern. -/
def closing : List Char := [')', '$']

/-- A text and the same one with the closing behind it, which may be lost if there is a hash. -/
inductive Prolonged (lost : Prop) : List Char → List Char → Prop where
  | eaten (h : lost) : Prolonged lost [] []
  | pasted : Prolonged lost [] closing
  | cons {c : Char} {cs cs' : List Char} (hash : c = '#' → lost) (h : Prolonged lost cs cs') :
      Prolonged lost (c :: cs) (c :: cs')

/-- Readings whose remainders can be compared. -/
class Prolongable (β : Type) extends Remains β where
  Prolongs : Prop → β → β → Prop

open Prolongable (Prolongs)

instance : Prolongable (List Char) := ⟨Prolonged⟩

instance {α β : Type} [Prolongable β] : Prolongable (α × β) :=
  ⟨fun lost a b => a.1 = b.1 ∧ Prolongs lost a.2 b.2⟩

instance : Prolongable Reader :=
  ⟨fun lost s t => s.flags = t.flags ∧ s.names = t.names ∧ Prolonged lost s.rest t.rest⟩

/-- The reading of a text and that of the prolonged one: both give the same and leave the one text
and the prolonged one; or there is none of the text, and if there is one of the prolonged text it has
run into the closing. -/
inductive InStep {β : Type} [Prolongable β] (lost : Prop) : Option β → Option β → Prop where
  | both {a b : β} (h : Prolongs lost a b) : InStep lost (some a) (some b)
  | neither : InStep lost none none
  | astray {b : β} (h : ¬closing <:+ rest b) : InStep lost none (some b)

namespace InStep

variable {β γ : Type} [Prolongable β] [Prolongable γ] {lost : Prop}

/-- Behind the first character of the closing there is no more of it. -/
theorem of_tails {y : Option β} (h : Tails ['$'] y) : InStep lost none y := by
  cases y with
  | none => exact .neither
  | some b =>
    refine .astray fun hclosing => ?_
    have hlength := (hclosing.trans (h b rfl)).length_le
    exact absurd hlength (by decide)

/-- Who has run into the closing does not come back. -/
theorem of_astray {b : β} {y : Option γ} (h : ¬closing <:+ rest b) (htails : Tails (rest b) y) :
    InStep lost none y := by
  cases y with
  | none => exact .neither
  | some c => exact .astray fun hclosing => h (hclosing.trans (htails c rfl))

theorem bind_of_tails {cs cs' : List Char} {x y : Option β} {k k' : β → Option γ}
    (h : InStep lost x y) (hx : Tails cs x) (hy : Tails cs' y)
    (hk : ∀ a b, Prolongs lost a b → rest a <:+ cs → rest b <:+ cs' → InStep lost (k a) (k' b))
    (htails : ∀ b, Tails (rest b) (k' b)) : InStep lost (x >>= k) (y >>= k') := by
  cases h with
  | both h => exact hk _ _ h (hx _ rfl) (hy _ rfl)
  | neither => exact .neither
  | astray hstray => exact .of_astray hstray (htails _)

/-- The same for a value with the characters that are left. -/
theorem bind_read {α : Type} {cs cs' : List Char} {x y : Option (α × List Char)}
    {k k' : α × List Char → Option γ} (h : InStep lost x y) (hx : Tails cs x) (hy : Tails cs' y)
    (hk : ∀ a ds ds', Prolonged lost ds ds' → ds.length ≤ cs.length → ds'.length ≤ cs'.length →
      InStep lost (k (a, ds)) (k' (a, ds')))
    (htails : ∀ b, Tails (rest b) (k' b)) : InStep lost (x >>= k) (y >>= k') := by
  refine h.bind_of_tails hx hy ?_ htails
  rintro ⟨a, ds⟩ ⟨a', ds'⟩ ⟨rfl, hds⟩ hsuffix hsuffix'
  exact hk a ds ds' hds hsuffix.length_le hsuffix'.length_le

theorem bind {x y : Option β} {k k' : β → Option γ} (h : InStep lost x y)
    (hk : ∀ a b, Prolongs lost a b → InStep lost (k a) (k' b))
    (htails : ∀ b, Tails (rest b) (k' b)) : InStep lost (x >>= k) (y >>= k') := by
  cases h with
  | both h => exact hk _ _ h
  | neither => exact .neither
  | astray hstray => exact .of_astray hstray (htails _)

theorem bind_value {α : Type} {x : Option α} {k k' : α → Option γ}
    (hk : ∀ a, InStep lost (k a) (k' a)) : InStep lost (x >>= k) (x >>= k') := by
  cases x with
  | none => exact .neither
  | some a => exact hk a

theorem map_fst {α α' : Type} {x y : Option (α × β)} (h : InStep lost x y) (g : α → α') :
    InStep lost (x.map fun a => (g a.1, a.2)) (y.map fun a => (g a.1, a.2)) := by
  cases h with
  | both h => exact .both ⟨congrArg g h.1, h.2⟩
  | neither => exact .neither
  | astray hstray => exact .astray hstray

theorem map_value {α α' : Type} {x : Option α} (g : α → α') {a b : β} (h : Prolongs lost a b) :
    InStep lost (x.map fun v => (g v, a)) (x.map fun v => (g v, b)) := by
  cases x with
  | none => exact .neither
  | some v => exact .both ⟨rfl, h⟩

end InStep

namespace Prolonged

variable {lost : Prop} {cs cs' : List Char}

theorem skipVerbose (h : Prolonged lost cs cs') (comment : Bool) (hcomment : comment = true → lost) :
    Prolonged lost (skipVerbose comment cs) (skipVerbose comment cs') := by
  induction h generalizing comment with
  | eaten h => cases comment <;> exact .eaten h
  | pasted =>
    cases comment with
    | false => exact .pasted
    | true => exact .eaten (hcomment rfl)
  | @cons c cs cs' hash h ih =>
    cases comment with
    | false =>
      rw [Pattern.skipVerbose, Pattern.skipVerbose]
      split
      · exact ih false hcomment
      · split
        · next hc => exact ih true fun _ => hash hc
        · exact .cons hash h
    | true =>
      rw [Pattern.skipVerbose, Pattern.skipVerbose]
      split
      · exact ih false (by simp)
      · exact ih true hcomment

theorem skip (h : Prolonged lost cs cs') (f : Setting) : Prolonged lost (skip f cs) (skip f cs') := by
  rw [Pattern.skip, Pattern.skip]
  split
  · exact h.skipVerbose false (by simp)
  · exact h

/-- Characters are dropped alike if none of the closing are. -/
theorem dropWhile (h : Prolonged lost cs cs') {p : Char → Bool} (hp : p ')' = false) :
    Prolonged lost (cs.dropWhile p) (cs'.dropWhile p) := by
  induction h with
  | eaten h => exact .eaten h
  | pasted =>
    rw [Pattern.closing, List.dropWhile_cons_of_neg (by simp [hp])]
    exact .pasted
  | @cons c cs cs' hash h ih =>
    cases hc : p c with
    | true => rwa [List.dropWhile_cons_of_pos hc, List.dropWhile_cons_of_pos hc]
    | false =>
      rw [List.dropWhile_cons_of_neg (by simp [hc]), List.dropWhile_cons_of_neg (by simp [hc])]
      exact .cons hash h

/-- If all of the closing is dropped, a character that stops it stands in the text. -/
theorem dropWhile_cases (h : Prolonged lost cs cs') {p : Char → Bool}
    (hp : List.dropWhile p Pattern.closing = []) :
    cs.dropWhile p = [] ∧ cs'.dropWhile p = [] ∨
      cs.takeWhile p = cs'.takeWhile p ∧ ∃ c rest rest', p c = false ∧ cs.dropWhile p = c :: rest ∧
        cs'.dropWhile p = c :: rest' ∧ Prolonged lost rest rest' := by
  induction h with
  | eaten => exact .inl ⟨rfl, rfl⟩
  | pasted => exact .inl ⟨rfl, hp⟩
  | @cons c cs cs' hash h ih =>
    cases hc : p c with
    | true =>
      simp only [List.dropWhile_cons_of_pos hc, List.takeWhile_cons_of_pos hc, List.cons.injEq,
        true_and]
      exact ih
    | false =>
      have hneg : ¬p c = true := by simp [hc]
      rw [List.dropWhile_cons_of_neg hneg, List.dropWhile_cons_of_neg hneg,
        List.takeWhile_cons_of_neg hneg, List.takeWhile_cons_of_neg hneg]
      exact .inr ⟨rfl, c, cs, cs', hc, rfl, rfl, h⟩

/-- A character that is none of the closing begins both texts or neither of them. -/
theorem first_cases (h : Prolonged lost cs cs') {c : Char} (hc : c ≠ ')') :
    (∃ ds ds', cs = c :: ds ∧ cs' = c :: ds' ∧ Prolonged lost ds ds') ∨
      (∀ ds, cs ≠ c :: ds) ∧ ∀ ds, cs' ≠ c :: ds := by
  cases h with
  | eaten => exact .inr ⟨nofun, nofun⟩
  | pasted => exact .inr ⟨nofun, fun _ heq => hc (List.cons.inj heq).1.symm⟩
  | @cons d ds ds' hash h =>
    by_cases hd : d = c
    · exact .inl ⟨ds, ds', by rw [hd], by rw [hd], h⟩
    · exact .inr ⟨fun _ heq => hd (List.cons.inj heq).1, fun _ heq => hd (List.cons.inj heq).1⟩

theorem head?_any (h : Prolonged lost cs cs') {p : Char → Bool} (hp : p ')' = false) :
    cs'.head?.any p = cs.head?.any p := by
  cases h with
  | eaten => rfl
  | pasted => exact hp
  | cons => rfl

theorem head?_eq_iff (h : Prolonged lost cs cs') {c : Char} (hc : ')' ≠ c) :
    cs'.head? = some c ↔ cs.head? = some c := by
  cases h with
  | eaten => rfl
  | pasted => simp [Pattern.closing, hc]
  | cons => rfl

end Prolonged

section Lexical

variable {lost : Prop} {cs cs' : List Char} (f : Setting)

theorem inStep_readHexDigits (h : Prolonged lost cs cs') (digits acc : Nat) :
    InStep lost (readHexDigits f digits acc cs) (readHexDigits f digits acc cs') := by
  induction digits generalizing cs cs' acc with
  | zero => exact .both ⟨rfl, h⟩
  | succ digits ih =>
    cases h with
    | eaten => exact .neither
    | pasted => exact .neither
    | cons hash h => exact .bind_value fun n => ih (h.skip f) _

theorem inStep_readHexBrace (h : Prolonged lost cs cs') {n m : Nat} (hn : cs.length < n)
    (hm : cs'.length < m) (acc : Nat) :
    InStep lost (readHexBrace f n acc cs) (readHexBrace f m acc cs') := by
  induction n generalizing m cs cs' acc with
  | zero => omega
  | succ n ih =>
    obtain ⟨m, rfl⟩ := Nat.exists_eq_add_one_of_ne_zero (Nat.ne_zero_of_lt hm)
    cases h with
    | eaten => exact .neither
    | pasted => exact .neither
    | @cons c cs cs' hash h =>
      rw [readHexBrace, readHexBrace]
      split
      · exact .both ⟨rfl, h.skip f⟩
      · have hlt := (skip_suffix f cs).length_le
        have hlt' := (skip_suffix f cs').length_le
        rw [List.length_cons] at hn hm
        exact .bind_value fun d => ih (h.skip f) (by omega) (by omega) _

theorem prolongs_digits (h : Prolonged lost cs cs') {n m : Nat} (hn : cs.length ≤ n)
    (hm : cs'.length ≤ m) (acc : List Char) :
    Prolongs lost (readNumber.digits f n acc cs) (readNumber.digits f m acc cs') := by
  induction n generalizing m cs cs' acc with
  | zero =>
    obtain rfl := List.length_eq_zero_iff.1 (Nat.le_zero.1 hn)
    cases h with
    | eaten h => cases m <;> exact ⟨rfl, .eaten h⟩
    | pasted => cases m <;> exact ⟨rfl, .pasted⟩
  | succ n ih =>
    cases h with
    | eaten h => cases m <;> exact ⟨rfl, .eaten h⟩
    | pasted => cases m <;> exact ⟨rfl, .pasted⟩
    | @cons c cs cs' hash h =>
      cases m with
      | zero => cases hm
      | succ m =>
        rw [readNumber.digits, readNumber.digits]
        split
        · have hle := (skip_suffix f cs).length_le
          have hle' := (skip_suffix f cs').length_le
          rw [List.length_cons] at hn hm
          exact ih (h.skip f) (by omega) (by omega) _
        · exact ⟨rfl, .cons hash h⟩

theorem inStep_readNumber (h : Prolonged lost cs cs') :
    InStep lost (readNumber f cs) (readNumber f cs') := by
  have hblank : Text.isBlank ')' = false := rfl
  have hlength (cs : List Char) : (Text.dropBlanks cs).length ≤ cs.length :=
    (List.dropWhile_suffix _).length_le
  have hdigits := prolongs_digits f (h.dropWhile hblank) (hlength cs) (hlength cs') []
  unfold readNumber Text.dropBlanks
  generalize readNumber.digits f cs.length [] _ = read at hdigits ⊢
  generalize readNumber.digits f cs'.length [] _ = read' at hdigits ⊢
  obtain ⟨ds, rest⟩ := read
  obtain ⟨ds', rest'⟩ := read'
  obtain ⟨hds, hrest⟩ := hdigits
  dsimp only at hds hrest ⊢
  subst hds
  split
  · exact .neither
  · refine .both ⟨rfl, ?_⟩
    change Prolonged lost (if _ then _ else _) (if _ then _ else _)
    rw [Prolonged.head?_any hrest hblank]
    split
    · exact (Prolonged.dropWhile hrest hblank).skip f
    · exact hrest

theorem inStep_readBraced (h : Prolonged lost cs cs') {n m : Nat} (hn : cs.length < n)
    (hm : cs'.length < m) : InStep lost (readBraced f n cs) (readBraced f m cs') := by
  induction n generalizing m cs cs' with
  | zero => omega
  | succ n ih =>
    obtain ⟨m, rfl⟩ := Nat.exists_eq_add_one_of_ne_zero (Nat.ne_zero_of_lt hm)
    cases h with
    | eaten => exact .neither
    | pasted =>
      exact .of_tails (((tails_readBraced f m _).mono (skip_suffix f _)).bind
        fun b => .some List.suffix_rfl)
    | @cons c cs cs' hash h =>
      rw [readBraced, readBraced]
      split
      · exact .both ⟨rfl, h⟩
      · have hle := (skip_suffix f cs).length_le
        have hle' := (skip_suffix f cs').length_le
        rw [List.length_cons] at hn hm
        refine (ih (h.skip f) (by omega) (by omega)).bind ?_ fun b => .some List.suffix_rfl
        rintro ⟨name, rest⟩ ⟨name', rest'⟩ ⟨hname, hrest⟩
        exact .both ⟨congrArg (c :: ·) hname, hrest⟩

theorem inStep_readPropertyName (h : Prolonged lost cs cs') :
    InStep lost (readPropertyName f cs) (readPropertyName f cs') := by
  have hskip := h.skip f
  unfold readPropertyName
  generalize skip f cs = ds at hskip ⊢
  generalize skip f cs' = ds' at hskip ⊢
  cases hskip with
  | eaten => exact .neither
  | pasted => exact .of_tails (.map_value fun a => skip_suffix f _)
  | @cons c cs cs' hash h =>
    split
    · next inner heq =>
      obtain ⟨rfl, rfl⟩ := List.cons.inj heq
      refine (inStep_readBraced f (h.skip f) ?_ ?_).bind ?_ ?_
      · exact Nat.lt_succ_of_le (skip_suffix f cs).length_le
      · exact Nat.lt_succ_of_le (skip_suffix f cs').length_le
      · rintro ⟨name, rest⟩ ⟨name', rest'⟩ ⟨rfl, hrest⟩
        exact .bind_value fun a => .both ⟨rfl, hrest⟩
      · exact fun b => .bind_value fun a => .some List.suffix_rfl
    · next heq =>
      obtain ⟨rfl, rfl⟩ := List.cons.inj heq
      exact .neither
    · next hbrace hslash heq =>
      obtain ⟨rfl, rfl⟩ := List.cons.inj heq
      split
      · next heq => exact absurd (List.cons.inj heq).1 hbrace
      · next heq => exact absurd (List.cons.inj heq).1 hslash
      · next heq =>
        obtain ⟨rfl, rfl⟩ := List.cons.inj heq
        exact .map_value (fun a => (false, a)) (h.skip f)
      · next heq => cases heq
    · next heq => cases heq

theorem inStep_readPropertyClass (h : Prolonged lost cs cs') (negated : Bool) :
    InStep lost (readPropertyClass f negated cs) (readPropertyClass f negated cs') := by
  unfold readPropertyClass
  split
  · exact .neither
  · refine (inStep_readPropertyName f h).bind ?_ fun b => .bind_value fun a => .some List.suffix_rfl
    rintro ⟨⟨inverted, a⟩, rest⟩ ⟨-, rest'⟩ ⟨rfl, hrest⟩
    exact .bind_value fun a => .both ⟨rfl, hrest⟩

theorem prolongs_readWordName (h : Prolonged lost cs cs') {n m : Nat} (hn : cs.length ≤ n)
    (hm : cs'.length ≤ m) : Prolongs lost (readWordName f n cs) (readWordName f m cs') := by
  induction n generalizing m cs cs' with
  | zero =>
    obtain rfl := List.length_eq_zero_iff.1 (Nat.le_zero.1 hn)
    cases h with
    | eaten h => cases m <;> exact ⟨rfl, .eaten h⟩
    | pasted => cases m <;> exact ⟨rfl, .pasted⟩
  | succ n ih =>
    cases h with
    | eaten h => cases m <;> exact ⟨rfl, .eaten h⟩
    | pasted => cases m <;> exact ⟨rfl, .pasted⟩
    | @cons c cs cs' hash h =>
      cases m with
      | zero => cases hm
      | succ m =>
        rw [readWordName, readWordName]
        split
        · have hle := (skip_suffix f cs).length_le
          have hle' := (skip_suffix f cs').length_le
          rw [List.length_cons] at hn hm
          obtain ⟨hname, hrest⟩ := ih (m := m) (h.skip f) (by omega) (by omega)
          exact ⟨congrArg (c :: ·) hname, hrest⟩
        · exact ⟨rfl, .cons hash h⟩

theorem InStep.codeLiteral {x y : Option (Nat × List Char)} (h : InStep lost x y) (byte : Bool) :
    InStep lost (x >>= codeLiteral byte) (y >>= codeLiteral byte) := by
  refine h.bind ?_ (tails_codeLiteral byte)
  rintro ⟨n, rest⟩ ⟨n', rest'⟩ ⟨rfl, hrest⟩
  exact .bind_value fun c => .both ⟨rfl, hrest⟩

theorem inStep_readCode (h : Prolonged lost cs cs') (digits : Nat) :
    InStep lost (readCode f digits cs) (readCode f digits cs') := by
  have hskip := h.skip f
  rcases hskip.first_cases (c := '\x7b') (by decide) with
    ⟨inner, inner', hinner, hinner', hbraced⟩ | ⟨hne, hne'⟩
  · have hskip := hbraced.skip f
    rw [readCode_brace f digits hinner, readCode_brace f digits hinner']
    simp only [hskip.head?_eq_iff (show ')' ≠ '\x7d' by decide)]
    split
    · exact .neither
    · exact (inStep_readHexBrace f hskip (Nat.lt_succ_self _) (Nat.lt_succ_self _) 0).codeLiteral _
  · rw [readCode_of_ne f digits hne, readCode_of_ne f digits hne']
    exact (inStep_readHexDigits f hskip digits 0).codeLiteral _

/-- A word boundary with a brace behind it, which before the closing is taken for a repetition. -/
def Dangling (f : Setting) (a : Assertion) (rest : List Char) : Prop :=
  a = .wordBoundary f.word ∧ ∃ inner, rest = '\x7b' :: inner ∧ skip f inner = closing

theorem inStep_boundarySide (h : Prolonged lost cs cs') (name : List Char) :
    InStep lost (boundarySide f name cs) (boundarySide f name cs') := by
  unfold boundarySide
  split_ifs
  case neg => exact .neither
  all_goals exact .both ⟨rfl, h⟩

theorem inStep_readBoundarySide (h : Prolonged lost cs cs') {n m : Nat} (hn : cs.length ≤ n)
    (hm : cs'.length ≤ m) : InStep lost (readBoundarySide f n cs) (readBoundarySide f m cs') := by
  obtain ⟨hname, hrest⟩ : (readWordName f n cs).1 = (readWordName f m cs').1 ∧
    Prolonged lost (readWordName f n cs).2 (readWordName f m cs').2 := prolongs_readWordName f h hn hm
  rcases hrest.first_cases (c := '\x7d') (by decide) with
    ⟨rest, rest', hread, hread', hrest⟩ | ⟨hne, hne'⟩
  · rw [readBoundarySide_brace f hread, readBoundarySide_brace f hread', hname]
    exact inStep_boundarySide f hrest _
  · rw [readBoundarySide_of_ne f hne, readBoundarySide_of_ne f hne']
    exact .neither

theorem inStep_readBoundary (h : Prolonged lost cs cs') :
    InStep lost (readBoundary f cs) (readBoundary f cs') ∨
      readBoundary f cs = none ∧
        ∃ a rest, readBoundary f cs' = some (a, rest) ∧ Dangling f a rest := by
  rcases h.first_cases (c := '\x7b') (by decide) with
    ⟨inner, inner', rfl, rfl, hinner⟩ | ⟨hne, hne'⟩
  · have hskip := hinner.skip f
    have hle := (skip_suffix f inner).length_le
    have hle' := (skip_suffix f inner').length_le
    rw [readBoundary_brace, readBoundary_brace]
    generalize heq : skip f inner = ds at hskip hle ⊢
    generalize heq' : skip f inner' = ds' at hskip hle' ⊢
    cases hskip with
    | eaten => exact .inl .neither
    | pasted => exact .inr ⟨rfl, _, _, rfl, rfl, inner', rfl, heq'⟩
    | @cons d ds ds' hash hds =>
      dsimp only
      split
      · exact .inl (.both ⟨rfl, h⟩)
      · refine .inl (inStep_readBoundarySide f (.cons hash hds) ?_ ?_)
        · omega
        · omega
  · rw [readBoundary_of_ne f hne, readBoundary_of_ne f hne']
    exact .inl (.both ⟨rfl, h⟩)

/-- Escapes keep in step but for a boundary that seems to be repeated. -/
theorem inStep_readEscape (h : Prolonged lost cs cs') :
    InStep lost (readEscape f cs) (readEscape f cs') ∨
      readEscape f cs = none ∧
        ∃ a rest, readEscape f cs' = some (.assertion a, rest) ∧ Dangling f a rest := by
  cases h with
  | eaten => exact .inl .neither
  | pasted => exact .inl (.of_tails (.some List.suffix_rfl))
  | @cons c cs cs' hash h =>
    unfold readEscape
    dsimp only
    split
    · exact .inl (.both ⟨rfl, h⟩)
    · split
      case h_12 =>
        rcases inStep_readBoundary f h with hstep | ⟨hnone, a, rest, hsome, hdangling⟩
        · exact .inl (hstep.map_fst Primitive.assertion)
        · exact .inr ⟨by rw [hnone]; rfl, a, rest, by rw [hsome]; rfl, hdangling⟩
      all_goals left
      all_goals first
        | exact .both ⟨rfl, h⟩
        | exact inStep_readCode f h _
        | exact (inStep_readPropertyClass f h _).map_fst Primitive.set
        | exact .map_value Primitive.set h

end Lexical

end FeatureToggle.Pattern
