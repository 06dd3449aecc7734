import FeatureToggle.Proofs.Remainders

/-!
# Parts of expressions

The readers of alternatives and of parts call each other. What they do with each kind of part is given
a name here. They leave an end of the text, and alternatives leave nothing or a closing parenthesis
with what is behind it.
-/
namespace FeatureToggle.Pattern

variable (fuel : Nat) (parts : List Part) (s : Reader)

/-- The bar, and the alternatives behind it. -/
def readBar (r : Regex) (s : Reader) : Option (Regex × Reader) :=
  match s.rest with
  | '|' :: rest => readAlternatives fuel { s with rest } >>= fun p => some (.alt r p.1, p.2)
  | _ => some (r, s)

theorem readBar_of_ne (r : Regex) (h : ∀ cs, s.rest ≠ '|' :: cs) :
    readBar fuel r s = some (r, s) := by
  unfold readBar
  split
  · next heq => exact absurd heq (h _)
  · rfl

theorem readAlternatives_succ :
    readAlternatives (fuel + 1) s = readParts fuel [] s >>= fun p => readBar fuel p.1 p.2 := rfl

/-- A part that is read already, and those behind it. -/
def readOn (r? : Option Regex) (rest : List Char) : Option (Regex × Reader) :=
  r? >>= fun r => readParts fuel (.expr r :: parts) { s with rest }

/-- The repetition of the last part, and the parts behind it. -/
def readRepeated (min : Nat) (max : Option Nat) (rest : List Char) : Option (Regex × Reader) :=
  repeatLast min max parts >>= fun parts => readParts fuel parts { s with rest }

/-- The closing parenthesis of a group, and the parts behind it. -/
def readGroupEnd (f : Setting) (r : Regex) (s : Reader) : Option (Regex × Reader) :=
  match s.rest with
  | ')' :: rest => readParts fuel (.expr (.group r) :: parts) { s with rest, flags := f }
  | _ => none

theorem readGroupEnd_of_ne (f : Setting) (r : Regex) (h : ∀ cs, s.rest ≠ ')' :: cs) :
    readGroupEnd fuel parts f r s = none := by
  unfold readGroupEnd
  split
  · next heq => exact absurd heq (h _)
  · rfl

/-- A group whose start is read already. -/
def readGroup : GroupStart → List Char → Option (Regex × Reader)
  | .setFlags flags, rest => readParts fuel (.flags :: parts) { s with rest, flags }
  | .group flags name, rest =>
    if name.any s.names.contains then none
    else readAlternatives fuel ⟨rest, flags, name.toList ++ s.names⟩ >>= fun p =>
      readGroupEnd fuel parts s.flags p.1 p.2

/-- The parts from the first character that counts. -/
def readPart : List Char → Option (Regex × Reader)
  | [] => some (concat parts, { s with rest := [] })
  | '|' :: cs => some (concat parts, { s with rest := '|' :: cs })
  | ')' :: cs => some (concat parts, { s with rest := ')' :: cs })
  | '(' :: cs => readGroupStart s.flags cs >>= fun p => readGroup fuel parts s p.1 p.2
  | '[' :: cs => readClass s.flags fuel cs >>= fun p => readOn fuel parts s (some (.one p.1)) p.2
  | '?' :: cs => readRepeated fuel parts s 0 (some 1) (skipLazy cs)
  | '*' :: cs => readRepeated fuel parts s 0 none (skipLazy cs)
  | '+' :: cs => readRepeated fuel parts s 1 none (skipLazy cs)
  | '\x7b' :: cs => readBounds s.flags cs >>= fun p => readRepeated fuel parts s p.1 p.2.1 p.2.2
  | '\\' :: cs => readEscape s.flags cs >>= fun p => readOn fuel parts s (p.1.regex? s.flags) p.2
  | '.' :: rest => readOn fuel parts s (dot? s.flags) rest
  | '^' :: rest => readOn fuel parts s (some (.assert (startAnchor s.flags))) rest
  | '$' :: rest => readOn fuel parts s (some (.assert (endAnchor s.flags))) rest
  | c :: rest => readOn fuel parts s (literal? s.flags c false) rest

theorem readParts_succ :
    readParts (fuel + 1) parts s = readPart fuel parts s (skip s.flags s.rest) := by
  rw [readParts]
  dsimp only
  generalize skip s.flags s.rest = cs
  split
  case h_4 cs =>
    change _ = readGroupStart s.flags cs >>= fun p => readGroup fuel parts s p.1 p.2
    apply bind_congr
    rintro ⟨start, rest⟩
    cases start with
    | group flags name => rfl
    | setFlags flags => rfl
  case h_14 =>
    -- The equation of the last case asks that the character be none of the others.
    rw [readPart]
    · rfl
    all_goals assumption
  all_goals rfl

/-! ## What expressions leave -/

variable {fuel} (hparts : ∀ parts s, Tails s.rest (readParts fuel parts s))
  (halternatives : ∀ s, Tails s.rest (readAlternatives fuel s))

include halternatives in
theorem tails_readBar (r : Regex) : Tails s.rest (readBar fuel r s) := by
  unfold readBar
  split
  · next rest heq =>
    have hrest : rest <:+ s.rest := heq ▸ List.suffix_cons '|' rest
    exact ((halternatives _).mono hrest).bind fun p => .some List.suffix_rfl
  · exact .some List.suffix_rfl

include hparts in
theorem tails_readOn (r? : Option Regex) (rest : List Char) :
    Tails rest (readOn fuel parts s r? rest) :=
  .bind_value fun _ => hparts _ _

include hparts in
theorem tails_readRepeated (min : Nat) (max : Option Nat) (rest : List Char) :
    Tails rest (readRepeated fuel parts s min max rest) :=
  .bind_value fun _ => hparts _ _

include hparts in
theorem tails_readGroupEnd (f : Setting) (r : Regex) :
    Tails s.rest (readGroupEnd fuel parts f r s) := by
  unfold readGroupEnd
  split
  · next rest heq => exact (hparts _ _).mono (heq ▸ List.suffix_cons ')' rest)
  · exact .none

include hparts halternatives in
theorem tails_readGroup (start : GroupStart) (rest : List Char) :
    Tails rest (readGroup fuel parts s start rest) := by
  cases start with
  | setFlags flags => exact hparts _ _
  | group flags name =>
    rw [readGroup]
    split
    · exact .none
    · exact (halternatives _).bind fun p => tails_readGroupEnd parts p.2 hparts s.flags p.1

include hparts halternatives in
theorem tails_readPart (cs : List Char) : Tails cs (readPart fuel parts s cs) := by
  unfold readPart
  split
  case h_1 => exact .some List.suffix_rfl
  case h_2 | h_3 => exact .some List.suffix_rfl
  case h_4 cs =>
    exact ((tails_readGroupStart s.flags cs).bind fun p =>
      tails_readGroup parts s hparts halternatives p.1 p.2).cons _
  case h_5 cs =>
    exact (((tails_classes s.flags fuel).1 cs).bind fun p => tails_readOn parts s hparts _ p.2).cons _
  case h_6 cs | h_7 cs | h_8 cs =>
    exact ((tails_readRepeated parts s hparts _ _ _).mono (skipLazy_suffix cs)).cons _
  case h_9 cs =>
    exact ((tails_readBounds s.flags cs).bind fun p =>
      tails_readRepeated parts s hparts _ _ p.2.2).cons _
  case h_10 cs =>
    exact ((tails_readEscape s.flags cs).bind fun p => tails_readOn parts s hparts _ p.2).cons _
  case h_11 | h_12 | h_13 | h_14 => exact (tails_readOn parts s hparts _ _).cons _

/-- Alternatives and the parts of one, with fuel for either. -/
theorem tails_expressions (fuel : Nat) :
    (∀ s, Tails s.rest (readAlternatives fuel s)) ∧
      ∀ parts s, Tails s.rest (readParts fuel parts s) := by
  induction fuel with
  | zero => exact ⟨fun _ => .none, fun _ _ => .none⟩
  | succ fuel ih =>
    obtain ⟨halternatives, hparts⟩ := ih
    constructor
    · intro s
      rw [readAlternatives_succ]
      exact (hparts [] s).bind fun p => tails_readBar p.2 halternatives p.1
    · intro parts s
      rw [readParts_succ]
      exact (tails_readPart parts s hparts halternatives _).mono (skip_suffix s.flags s.rest)

/-! ## Where expressions end -/

/-- If anything is left, it begins with one of the characters. -/
def EndsAt (stops : List Char) (x : Option (Regex × Reader)) : Prop :=
  ∀ p, x = some p → ∀ c cs, p.2.rest = c :: cs → c ∈ stops

theorem EndsAt.none {stops : List Char} : EndsAt stops none := fun _ h => nomatch h

theorem EndsAt.some {stops : List Char} {p : Regex × Reader}
    (h : ∀ c cs, p.2.rest = c :: cs → c ∈ stops) : EndsAt stops (some p) := by
  rintro _ ⟨⟩
  exact h

theorem EndsAt.bind {α : Type} {stops : List Char} {x : Option α} {k : α → Option (Regex × Reader)}
    (hk : ∀ a, x = Option.some a → EndsAt stops (k a)) : EndsAt stops (x >>= k) := by
  cases x with
  | none => exact .none
  | some a => exact hk a rfl

end FeatureToggle.Pattern
