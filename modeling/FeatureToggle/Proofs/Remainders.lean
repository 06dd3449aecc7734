import FeatureToggle.Pattern.Reader
import Mathlib.Data.List.Infix
import Mathlib.Tactic.SplitIfs

/-!
# What readers of patterns leave

Every reader takes what it reads from the front of the text, so that what it leaves is an end of what
it was given.
-/
namespace FeatureToggle.Pattern

/-- Readings that leave a part of the text. -/
class Remains (β : Type) where
  rest : β → List Char

instance : Remains (List Char) := ⟨id⟩

instance {α β : Type} [Remains β] : Remains (α × β) := ⟨fun b => Remains.rest b.2⟩

instance : Remains Reader := ⟨Reader.rest⟩

open Remains (rest)

/-- What is left, if the reading succeeds, is an end of the text. -/
def Tails {β : Type} [Remains β] (cs : List Char) (x : Option β) : Prop :=
  ∀ b, x = some b → rest b <:+ cs

namespace Tails

variable {β γ : Type} [Remains β] [Remains γ] {cs cs' : List Char}

theorem none : Tails cs (none : Option β) := fun _ h => nomatch h

theorem some {b : β} (h : rest b <:+ cs) : Tails cs (some b) := by
  rintro _ ⟨⟩
  exact h

theorem mono {x : Option β} (h : Tails cs x) (hcs : cs <:+ cs') : Tails cs' x :=
  fun b hb => (h b hb).trans hcs

theorem cons {x : Option β} (h : Tails cs x) (c : Char) : Tails (c :: cs) x :=
  h.mono (List.suffix_cons c cs)

theorem bind {x : Option β} {k : β → Option γ} (h : Tails cs x)
    (hk : ∀ b, Tails (rest b) (k b)) : Tails cs (x >>= k) := by
  cases x with
  | none => exact none
  | some b => exact (hk b).mono (h b rfl)

/-- A value that is computed without reading. -/
theorem bind_value {α : Type} {x : Option α} {k : α → Option γ} (hk : ∀ a, Tails cs (k a)) :
    Tails cs (x >>= k) := by
  cases x with
  | none => exact none
  | some a => exact hk a

theorem map {x : Option β} {g : β → γ} (h : Tails cs x) (hg : ∀ b, rest (g b) = rest b) :
    Tails cs (x.map g) := by
  cases x with
  | none => exact none
  | some b => exact some (hg b ▸ h b rfl)

theorem map_value {α : Type} {x : Option α} {g : α → γ} (hg : ∀ a, rest (g a) <:+ cs) :
    Tails cs (x.map g) := by
  cases x with
  | none => exact none
  | some a => exact some (hg a)

end Tails

section Lexical

variable (f : Setting)

theorem skipVerbose_suffix (comment : Bool) (cs : List Char) : skipVerbose comment cs <:+ cs := by
  induction cs generalizing comment with
  | nil => cases comment <;> exact List.suffix_rfl
  | cons c cs ih =>
    have htail (comment : Bool) : skipVerbose comment cs <:+ c :: cs :=
      (ih comment).trans (List.suffix_cons c cs)
    cases comment with
    | true =>
      rw [skipVerbose]
      split
      · exact htail false
      · exact htail true
    | false =>
      rw [skipVerbose]
      split
      · exact htail false
      · split
        · exact htail true
        · exact List.suffix_rfl

theorem skip_suffix (cs : List Char) : skip f cs <:+ cs := by
  rw [skip]
  split
  · exact skipVerbose_suffix false cs
  · exact List.suffix_rfl

theorem skip_suffix_cons (c : Char) (cs : List Char) : skip f cs <:+ c :: cs :=
  (skip_suffix f cs).trans (List.suffix_cons c cs)

theorem suffix_of_skip_eq (front : List Char) {rest cs : List Char} (h : skip f cs = front ++ rest) :
    rest <:+ cs :=
  (List.suffix_append front rest).trans (h ▸ skip_suffix f cs)

theorem tails_readHexDigits (digits acc : Nat) (cs : List Char) :
    Tails cs (readHexDigits f digits acc cs) := by
  fun_induction readHexDigits f digits acc cs with
  | case1 => exact .some List.suffix_rfl
  | case2 => exact .none
  | case3 acc digits c cs ih => exact .bind_value fun n => (ih n).mono (skip_suffix_cons f c cs)

theorem tails_readHexBrace (fuel acc : Nat) (cs : List Char) :
    Tails cs (readHexBrace f fuel acc cs) := by
  fun_induction readHexBrace f fuel acc cs with
  | case1 => exact .none
  | case2 => exact .none
  | case3 acc fuel cs => exact .some (skip_suffix_cons f _ cs)
  | case4 acc fuel c cs _ ih => exact .bind_value fun n => (ih n).mono (skip_suffix_cons f c cs)

theorem digits_suffix (fuel : Nat) (acc cs : List Char) :
    (readNumber.digits f fuel acc cs).2 <:+ cs := by
  induction fuel generalizing acc cs with
  | zero => exact List.suffix_rfl
  | succ fuel ih =>
    cases cs with
    | nil => exact List.suffix_rfl
    | cons c cs =>
      rw [readNumber.digits]
      split
      · exact (ih _ _).trans (skip_suffix_cons f c cs)
      · exact List.suffix_rfl

theorem tails_readNumber (cs : List Char) : Tails cs (readNumber f cs) := by
  have hdigits := digits_suffix f cs.length [] (Text.dropBlanks cs)
  unfold readNumber
  dsimp only
  split
  · exact .none
  · refine .some (List.IsSuffix.trans ?_ (hdigits.trans (List.dropWhile_suffix _)))
    change (if _ then _ else _) <:+ _
    split
    · exact (skip_suffix f _).trans (List.dropWhile_suffix _)
    · exact List.suffix_rfl

theorem tails_readBraced (fuel : Nat) (cs : List Char) : Tails cs (readBraced f fuel cs) := by
  induction fuel generalizing cs with
  | zero => exact .none
  | succ fuel ih =>
    cases cs with
    | nil => exact .none
    | cons c cs =>
      rw [readBraced]
      split
      · exact .some (List.suffix_cons c cs)
      · exact ((ih _).mono (skip_suffix_cons f c cs)).bind fun b => .some List.suffix_rfl

theorem tails_readPropertyName (cs : List Char) : Tails cs (readPropertyName f cs) := by
  have hskip := skip_suffix f cs
  unfold readPropertyName
  split
  · next inner heq =>
    rw [heq] at hskip
    have hinner := (skip_suffix_cons f '\x7b' inner).trans hskip
    exact ((tails_readBraced f _ _).mono hinner).bind fun b =>
      .bind_value fun a => .some List.suffix_rfl
  · exact .none
  · next c inner _ _ heq =>
    rw [heq] at hskip
    exact .map_value fun a => (skip_suffix_cons f c inner).trans hskip
  · exact .none

theorem tails_readPropertyClass (negated : Bool) (cs : List Char) :
    Tails cs (readPropertyClass f negated cs) := by
  unfold readPropertyClass
  split
  · exact .none
  · exact (tails_readPropertyName f cs).bind fun b => .bind_value fun a => .some List.suffix_rfl

theorem readWordName_suffix (fuel : Nat) (cs : List Char) : (readWordName f fuel cs).2 <:+ cs := by
  induction fuel generalizing cs with
  | zero => exact List.suffix_rfl
  | succ fuel ih =>
    cases cs with
    | nil => exact List.suffix_rfl
    | cons c cs =>
      rw [readWordName]
      split
      · exact (ih _).trans (skip_suffix_cons f c cs)
      · exact List.suffix_rfl

/-- One side of a word boundary by its name. -/
def boundarySide (name rest : List Char) : Option (Assertion × List Char) :=
  if name = "start".toList then some (.wordStart f.word, rest)
  else if name = "end".toList then some (.wordEnd f.word, rest)
  else if name = "start-half".toList then some (.wordStartHalf f.word, rest)
  else if name = "end-half".toList then some (.wordEndHalf f.word, rest)
  else none

/-- The name of one side, up to the closing brace. -/
def readBoundarySide (fuel : Nat) (cs : List Char) : Option (Assertion × List Char) :=
  match readWordName f fuel cs with
  | (name, '\x7d' :: rest) => boundarySide f name rest
  | _ => none

theorem readBoundarySide_brace {fuel : Nat} {cs rest : List Char}
    (h : (readWordName f fuel cs).2 = '\x7d' :: rest) :
    readBoundarySide f fuel cs = boundarySide f (readWordName f fuel cs).1 rest := by
  unfold readBoundarySide
  generalize readWordName f fuel cs = read at h ⊢
  obtain ⟨name, ds⟩ := read
  obtain rfl : ds = '\x7d' :: rest := h
  rfl

theorem readBoundarySide_of_ne {fuel : Nat} {cs : List Char}
    (h : ∀ rest, (readWordName f fuel cs).2 ≠ '\x7d' :: rest) :
    readBoundarySide f fuel cs = none := by
  unfold readBoundarySide
  split
  · next heq => exact absurd (congrArg Prod.snd heq) (h _)
  · rfl

theorem readBoundary_brace (cs : List Char) :
    readBoundary f ('\x7b' :: cs) = match skip f cs with
      | [] => none
      | c :: ds =>
        if !isWordName c then some (.wordBoundary f.word, '\x7b' :: cs)
        else readBoundarySide f (cs.length + 1) (c :: ds) := by
  unfold readBoundary
  split
  · next inner heq =>
    obtain rfl := (List.cons.inj heq).2
    cases skip f cs with
    | nil => rfl
    | cons c ds => rfl
  · next hbrace => exact absurd rfl (hbrace cs)

theorem readBoundary_of_ne {cs : List Char} (h : ∀ inner, cs ≠ '\x7b' :: inner) :
    readBoundary f cs = some (.wordBoundary f.word, cs) := by
  unfold readBoundary
  split
  · exact absurd rfl (h _)
  · rfl

theorem tails_boundarySide (name rest : List Char) : Tails rest (boundarySide f name rest) := by
  unfold boundarySide
  split_ifs
  case neg => exact .none
  all_goals exact .some List.suffix_rfl

theorem tails_readBoundarySide (fuel : Nat) (cs : List Char) :
    Tails cs (readBoundarySide f fuel cs) := by
  have hname := readWordName_suffix f fuel cs
  unfold readBoundarySide
  split
  · next name rest heq =>
    rw [heq] at hname
    exact (tails_boundarySide f name rest).mono ((List.suffix_cons '\x7d' rest).trans hname)
  · exact .none

theorem tails_readBoundary (cs : List Char) : Tails cs (readBoundary f cs) := by
  by_cases hbrace : ∃ inner, cs = '\x7b' :: inner
  · obtain ⟨inner, rfl⟩ := hbrace
    rw [readBoundary_brace]
    split
    · exact .none
    · next heq =>
      split
      · exact .some List.suffix_rfl
      · exact (tails_readBoundarySide f _ _).mono (heq ▸ skip_suffix_cons f _ inner)
  · rw [readBoundary_of_ne f (not_exists.1 hbrace)]
    exact .some List.suffix_rfl

/-- The character with the code that has been read. -/
def codeLiteral (byte : Bool) (p : Nat × List Char) : Option (Primitive × List Char) :=
  charOfCode? p.1 >>= fun c => some (.literal c byte, p.2)

theorem tails_codeLiteral (byte : Bool) (p : Nat × List Char) : Tails p.2 (codeLiteral byte p) :=
  .bind_value fun _ => .some List.suffix_rfl

theorem readCode_brace (digits : Nat) {cs inner : List Char} (h : skip f cs = '\x7b' :: inner) :
    readCode f digits cs =
      if (skip f inner).head? = some '\x7d' then none
      else readHexBrace f ((skip f inner).length + 1) 0 (skip f inner) >>= codeLiteral false := by
  simp only [readCode, h]
  split
  · rfl
  · rfl

theorem readCode_of_ne (digits : Nat) {cs : List Char} (h : ∀ inner, skip f cs ≠ '\x7b' :: inner) :
    readCode f digits cs =
      readHexDigits f digits 0 (skip f cs) >>= codeLiteral (digits == 2) := by
  unfold readCode
  split
  · next heq => exact absurd heq (h _)
  · rfl

theorem tails_readCode (digits : Nat) (cs : List Char) : Tails cs (readCode f digits cs) := by
  have hskip := skip_suffix f cs
  by_cases hbrace : ∃ inner, skip f cs = '\x7b' :: inner
  · obtain ⟨inner, hinner⟩ := hbrace
    rw [readCode_brace f digits hinner]
    split
    · exact .none
    · rw [hinner] at hskip
      exact ((tails_readHexBrace f _ _ _).bind (tails_codeLiteral _)).mono
        ((skip_suffix_cons f '\x7b' inner).trans hskip)
  · rw [readCode_of_ne f digits (not_exists.1 hbrace)]
    exact ((tails_readHexDigits f _ _ _).bind (tails_codeLiteral _)).mono hskip

theorem tails_readEscape (cs : List Char) : Tails cs (readEscape f cs) := by
  cases cs with
  | nil => exact .none
  | cons c cs =>
    apply Tails.cons
    unfold readEscape
    dsimp only
    split
    · exact .some List.suffix_rfl
    · split
      all_goals first
        | exact .some List.suffix_rfl
        | exact tails_readCode f _ cs
        | exact (tails_readBoundary f cs).map fun _ => rfl
        | exact (tails_readPropertyClass f _ cs).map fun _ => rfl
        | exact .map_value fun a => List.suffix_rfl

end Lexical

section Classes

variable (f : Setting)

/-- Whether a class is negated, and what is read after the sign. -/
def negation (after : List Char → List Char) : List Char → Bool × List Char
  | '^' :: cs => (true, after cs)
  | cs => (false, cs)

theorem negation_suffix (after : List Char → List Char) (h : ∀ cs, after cs <:+ cs)
    (cs : List Char) : (negation after cs).2 <:+ cs := by
  unfold negation
  split
  · exact (h _).trans (List.suffix_cons _ _)
  · exact List.suffix_rfl

theorem negation_of_ne (after : List Char → List Char) {cs : List Char}
    (h : ∀ ds, cs ≠ '^' :: ds) : negation after cs = (false, cs) := by
  unfold negation
  split
  · exact absurd rfl (h _)
  · rfl

/-- The name of a class up to the colon and the bracket behind it. -/
def readNamed (negated : Bool) (cs : List Char) : Option ((Bool × CharClass) × List Char) :=
  match cs.dropWhile (· != ':') with
  | ':' :: ']' :: rest =>
    (CharClass.asciiNamed? (String.ofList (cs.takeWhile (· != ':')))).map fun a =>
      ((negated, a), rest)
  | _ => none

theorem readNamed_bracket (negated : Bool) {cs rest : List Char}
    (h : cs.dropWhile (· != ':') = ':' :: ']' :: rest) :
    readNamed negated cs =
      (CharClass.asciiNamed? (String.ofList (cs.takeWhile (· != ':')))).map fun a =>
        ((negated, a), rest) := by
  simp only [readNamed, h]

theorem readNamed_of_ne (negated : Bool) {cs : List Char}
    (h : ∀ rest, cs.dropWhile (· != ':') ≠ ':' :: ']' :: rest) : readNamed negated cs = none := by
  unfold readNamed
  split
  · next heq => exact absurd heq (h _)
  · rfl

theorem readAsciiName_colon (cs : List Char) :
    readAsciiName (':' :: cs) = readNamed (negation id cs).1 (negation id cs).2 := rfl

theorem readAsciiName_of_ne {cs : List Char} (h : ∀ ds, cs ≠ ':' :: ds) :
    readAsciiName cs = none := by
  unfold readAsciiName
  split
  · exact absurd rfl (h _)
  · rfl

theorem tails_readAsciiName (cs : List Char) : Tails cs (readAsciiName cs) := by
  by_cases hcolon : ∃ ds, cs = ':' :: ds
  · obtain ⟨ds, rfl⟩ := hcolon
    rw [readAsciiName_colon, readNamed]
    split
    · next rest heq =>
      have hdrop := (List.dropWhile_suffix (· != ':')).trans
        (negation_suffix id (fun _ => List.suffix_rfl) ds)
      rw [heq] at hdrop
      exact .map_value fun a => ((List.suffix_append [':', ']'] rest).trans hdrop).trans
        (List.suffix_cons ':' ds)
    · exact .none
  · rw [readAsciiName_of_ne (not_exists.1 hcolon)]
    exact .none

theorem tails_readClassPrimitive_cons (c : Char) (cs : List Char) :
    Tails cs (readClassPrimitive f (c :: cs)) := by
  unfold readClassPrimitive
  split
  · exact .none
  · next heq =>
    obtain ⟨rfl, rfl⟩ := List.cons.inj heq
    exact tails_readEscape f cs
  · next heq =>
    obtain ⟨rfl, rfl⟩ := List.cons.inj heq
    exact .some List.suffix_rfl

theorem tails_readClassPrimitive (cs : List Char) : Tails cs (readClassPrimitive f cs) := by
  cases cs with
  | nil => exact .none
  | cons c cs => exact (tails_readClassPrimitive_cons f c cs).cons c

/-- What an item is that begins with a primitive: a range up to another one, or the member alone. -/
def readClassItemAfter (first : Primitive) (cs : List Char) : Option (CharClass × List Char) := do
  let cs := skip f cs
  if startsRange f cs then
    let (last, cs) ← readClassPrimitive f (skip f (cs.drop 1))
    let a ← classLiteral? f first
    let b ← classLiteral? f last
    if b < a then none
    return (.ranges [(a.toNat, b.toNat)], cs)
  else return (← classItem? f first, cs)

theorem readClassItem_eq (cs : List Char) :
    readClassItem f cs =
      readClassPrimitive f cs >>= fun p => readClassItemAfter f p.1 p.2 := rfl

theorem tails_readClassItemAfter (first : Primitive) (cs : List Char) :
    Tails cs (readClassItemAfter f first cs) := by
  unfold readClassItemAfter
  dsimp only
  split
  · have hdrop := (skip_suffix f _).trans ((List.drop_suffix 1 _).trans (skip_suffix f cs))
    refine ((tails_readClassPrimitive f _).mono hdrop).bind fun ⟨last, rest⟩ => ?_
    refine .bind_value fun a => .bind_value fun b => ?_
    dsimp only
    split
    · exact .none
    · exact .some List.suffix_rfl
  · exact .bind_value fun a => .some (skip_suffix f cs)

theorem tails_readClassItem_cons (c : Char) (cs : List Char) :
    Tails cs (readClassItem f (c :: cs)) := by
  rw [readClassItem_eq]
  exact (tails_readClassPrimitive_cons f c cs).bind fun p => tails_readClassItemAfter f _ _

theorem tails_readClassItem (cs : List Char) : Tails cs (readClassItem f cs) := by
  cases cs with
  | nil => exact .none
  | cons c cs => exact (tails_readClassItem_cons f c cs).cons c

theorem readHyphens_suffix (fuel : Nat) (o : OpenClass) (cs : List Char) :
    (readHyphens f fuel o cs).2 <:+ cs := by
  induction fuel generalizing o cs with
  | zero => exact List.suffix_rfl
  | succ fuel ih =>
    unfold readHyphens
    split
    · next heq =>
      obtain rfl := Nat.succ.inj heq
      exact (ih _ _).trans (skip_suffix_cons f _ _)
    · exact List.suffix_rfl

/-- A bracket at the start of a class stands for itself. -/
def readBracket (hyphen : Prop) [Decidable hyphen] (o : OpenClass) (cs : List Char) :
    OpenClass × List Char :=
  match cs with
  | ']' :: rest => if hyphen then (o, cs) else (o.add (.single ']'), skip f rest)
  | cs => (o, cs)

theorem readBracket_of_ne (hyphen : Prop) [Decidable hyphen] (o : OpenClass) {cs : List Char}
    (h : ∀ ds, cs ≠ ']' :: ds) : readBracket f hyphen o cs = (o, cs) := by
  unfold readBracket
  split
  · exact absurd rfl (h _)
  · rfl

theorem readBracket_suffix (hyphen : Prop) [Decidable hyphen] (o : OpenClass) (cs : List Char) :
    (readBracket f hyphen o cs).2 <:+ cs := by
  unfold readBracket
  split
  · split
    · exact List.suffix_rfl
    · exact skip_suffix_cons f _ _
  · exact List.suffix_rfl

/-- The start of a class: a sign of negation, hyphens and a bracket that stand for themselves. -/
def readClassStart (cs : List Char) : Bool × OpenClass × List Char :=
  let (negated, cs) := negation (skip f) (skip f cs)
  let (o, rest) := readHyphens f cs.length ⟨none, .none⟩ cs
  (negated, readBracket f (cs.head? = some '-') o rest)

theorem readClassStart_suffix (cs : List Char) : (readClassStart f cs).2.2 <:+ cs :=
  (readBracket_suffix f _ _ _).trans ((readHyphens_suffix f _ _ _).trans
    ((negation_suffix _ (skip_suffix f) _).trans (skip_suffix f cs)))

theorem readClass_succ (fuel : Nat) (cs : List Char) :
    readClass f (fuel + 1) cs = (do
      let (a, rest) ← readClassItems f fuel (readClassStart f cs).2.1 (readClassStart f cs).2.2
      return (← f.negateIf? (readClassStart f cs).1 (f.fold a), rest)) := by
  rw [readClass]
  rfl

/-- A class and its items, with fuel for either. -/
theorem tails_classes (fuel : Nat) :
    (∀ cs, Tails cs (readClass f fuel cs)) ∧ ∀ o cs, Tails cs (readClassItems f fuel o cs) := by
  induction fuel with
  | zero => exact ⟨fun _ => .none, fun _ _ => .none⟩
  | succ fuel ih =>
    obtain ⟨ihclass, ihitems⟩ := ih
    constructor
    · intro cs
      rw [readClass_succ]
      exact ((ihitems _ _).mono (readClassStart_suffix f cs)).bind fun b =>
        .bind_value fun a => .some List.suffix_rfl
    · intro o cs
      unfold readClassItems
      split
      · exact .none
      · next rest heq => exact .some (suffix_of_skip_eq f [']'] heq)
      · next rest heq =>
        have hrest := suffix_of_skip_eq f ['['] heq
        split
        · next negated a rest' hname =>
          exact .bind_value fun a =>
            (ihitems _ _).mono ((tails_readAsciiName rest _ hname).trans hrest)
        · exact ((ihclass _).mono hrest).bind fun b => ihitems _ _
      · next rest heq => exact (ihitems _ _).mono (suffix_of_skip_eq f ['&', '&'] heq)
      · next rest heq => exact (ihitems _ _).mono (suffix_of_skip_eq f ['-', '-'] heq)
      · next rest heq => exact (ihitems _ _).mono (suffix_of_skip_eq f ['~', '~'] heq)
      · exact ((tails_readClassItem f _).mono (skip_suffix f cs)).bind fun b => ihitems _ _

end Classes

section Groups

variable (f : Setting)

theorem tails_readFlags (seen : List Char) (cs : List Char) : Tails cs (readFlags seen f cs) := by
  induction cs generalizing seen f with
  | nil => exact .none
  | cons c cs ih =>
    unfold readFlags
    split
    · split
      · exact .none
      · exact .some (List.suffix_cons c cs)
    · split
      · exact .none
      · split
        · exact (ih _ _).cons c
        · exact .bind_value fun f => (ih _ _).cons c

theorem readGroupName_eq (cs : List Char) :
    readGroupName f cs = match cs.dropWhile (· != '>') with
      | '>' :: rest =>
        if isGroupName f.tables (cs.takeWhile (· != '>')) then
          some (.group f (some (cs.takeWhile (· != '>'))), rest)
        else none
      | _ => none := by
  have hdrop : cs.drop (cs.takeWhile (· != '>')).length = cs.dropWhile (· != '>') :=
    (congrArg (List.drop _) List.takeWhile_append_dropWhile.symm).trans List.drop_left
  rw [readGroupName]
  exact hdrop ▸ rfl

theorem tails_readGroupName (cs : List Char) : Tails cs (readGroupName f cs) := by
  rw [readGroupName_eq]
  split
  · next rest heq =>
    split
    · exact .some ((List.suffix_cons '>' rest).trans (heq ▸ List.dropWhile_suffix _))
    · exact .none
  · exact .none

theorem tails_readGroupStart (cs : List Char) : Tails cs (readGroupStart f cs) := by
  unfold readGroupStart
  split
  case h_5 rest heq =>
    exact (tails_readGroupName f rest).mono (suffix_of_skip_eq f ['?', 'P', '<'] heq)
  case h_6 rest _ _ heq =>
    exact (tails_readGroupName f rest).mono (suffix_of_skip_eq f ['?', '<'] heq)
  case h_8 rest _ _ _ _ _ _ _ heq =>
    exact ((tails_readFlags f [] rest).mono (suffix_of_skip_eq f ['?'] heq)).bind
      fun b => .some List.suffix_rfl
  case h_9 => exact .some (skip_suffix f cs)
  all_goals exact .none

theorem skipLazy_of_ne {cs : List Char} (h : ∀ ds, cs ≠ '?' :: ds) : skipLazy cs = cs := by
  unfold skipLazy
  split
  · exact absurd rfl (h _)
  · rfl

theorem skipLazy_suffix (cs : List Char) : skipLazy cs <:+ cs := by
  unfold skipLazy
  split
  · exact List.suffix_cons _ _
  · exact List.suffix_rfl

/-- What is left behind the brace that ends a repetition. -/
theorem skipLazy_skip_suffix {rest cs : List Char} (h : '\x7d' :: rest <:+ cs) :
    skipLazy (skip f rest) <:+ cs :=
  (skipLazy_suffix _).trans ((skip_suffix f rest).trans ((List.suffix_cons _ rest).trans h))

/-- The brace after the upper bound. -/
def readBrace (min max : Nat) : List Char → Option (Nat × Option Nat × List Char)
  | '\x7d' :: cs => if min ≤ max then some (min, some max, skipLazy (skip f cs)) else none
  | _ => none

theorem readBrace_of_ne (min max : Nat) {cs : List Char} (h : ∀ ds, cs ≠ '\x7d' :: ds) :
    readBrace f min max cs = none := by
  unfold readBrace
  split
  · exact absurd rfl (h _)
  · rfl

/-- What follows the comma of a repetition: nothing, or the upper bound. -/
def readUpperBound (min : Nat) (cs : List Char) : Option (Nat × Option Nat × List Char) :=
  match skip f cs with
  | '\x7d' :: cs => some (min, none, skipLazy (skip f cs))
  | cs => readNumber f cs >>= fun p => readBrace f min p.1 p.2

theorem readUpperBound_brace (min : Nat) {cs ds : List Char} (h : skip f cs = '\x7d' :: ds) :
    readUpperBound f min cs = some (min, none, skipLazy (skip f ds)) := by
  simp only [readUpperBound, h]

theorem readUpperBound_of_ne (min : Nat) {cs : List Char} (h : ∀ ds, skip f cs ≠ '\x7d' :: ds) :
    readUpperBound f min cs =
      readNumber f (skip f cs) >>= fun p => readBrace f min p.1 p.2 := by
  unfold readUpperBound
  split
  · next heq => exact absurd heq (h _)
  · rfl

/-- What follows the lower bound. -/
def readBoundsAfter (min : Nat) : List Char → Option (Nat × Option Nat × List Char)
  | '\x7d' :: cs => some (min, some min, skipLazy (skip f cs))
  | ',' :: cs => readUpperBound f min cs
  | _ => none

theorem readBoundsAfter_of_ne (min : Nat) {cs : List Char} (hbrace : ∀ ds, cs ≠ '\x7d' :: ds)
    (hcomma : ∀ ds, cs ≠ ',' :: ds) : readBoundsAfter f min cs = none := by
  unfold readBoundsAfter
  split
  · exact absurd rfl (hbrace _)
  · exact absurd rfl (hcomma _)
  · rfl

theorem readBounds_eq (cs : List Char) :
    readBounds f cs = readNumber f (skip f cs) >>= fun p => readBoundsAfter f p.1 p.2 := rfl

theorem tails_readBrace (min max : Nat) (cs : List Char) : Tails cs (readBrace f min max cs) := by
  unfold readBrace
  split
  · split
    · exact .some (skipLazy_skip_suffix f List.suffix_rfl)
    · exact .none
  · exact .none

theorem tails_readBoundsAfter (min : Nat) (cs : List Char) :
    Tails cs (readBoundsAfter f min cs) := by
  unfold readBoundsAfter
  split
  · exact .some (skipLazy_skip_suffix f List.suffix_rfl)
  · next rest =>
    have hskip := skip_suffix_cons f ',' rest
    unfold readUpperBound
    split
    · next heq => exact .some (skipLazy_skip_suffix f (heq ▸ hskip))
    · exact ((tails_readNumber f _).mono hskip).bind fun p => tails_readBrace f min _ _
  · exact .none

theorem tails_readBounds (cs : List Char) : Tails cs (readBounds f cs) := by
  rw [readBounds_eq]
  exact ((tails_readNumber f _).mono (skip_suffix f cs)).bind fun p => tails_readBoundsAfter f _ _

end Groups

end FeatureToggle.Pattern
