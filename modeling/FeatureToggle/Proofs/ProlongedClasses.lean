import FeatureToggle.Proofs.Prolongation

/-!
# Reading on in classes

Classes in brackets, with classes inside them, are read in step with what they are before the closing
(`inStep_classes`).
-/
namespace FeatureToggle.Pattern

open Remains (rest)
open Prolongable (Prolongs)

variable {lost : Prop} {cs cs' : List Char}

/-- A character of the prolonged text that is none of the closing is one of the text. -/
theorem Prolonged.exists_cons {d : Char} {ds : List Char} (h : Prolonged lost cs (d :: ds))
    (hd : d ≠ ')') : ∃ rest, cs = d :: rest ∧ Prolonged lost rest ds := by
  cases h with
  | pasted => exact absurd rfl hd
  | cons hash h => exact ⟨_, rfl, h⟩

section Classes

variable (f : Setting)

theorem Prolonged.negation (h : Prolonged lost cs cs') (after : List Char → List Char)
    (hafter : ∀ cs cs', Prolonged lost cs cs' → Prolonged lost (after cs) (after cs')) :
    Prolongs lost (negation after cs) (negation after cs') := by
  rcases h.first_cases (c := '^') (by decide) with ⟨ds, ds', rfl, rfl, hds⟩ | ⟨hne, hne'⟩
  · exact ⟨rfl, hafter _ _ hds⟩
  · rw [negation_of_ne after hne, negation_of_ne after hne']
    exact ⟨rfl, h⟩

/-- A class with a name is there for both texts or for neither. -/
theorem readAsciiName_cases (h : Prolonged lost cs cs') :
    readAsciiName cs = none ∧ readAsciiName cs' = none ∨
      ∃ a rest rest', readAsciiName cs = some (a, rest) ∧ readAsciiName cs' = some (a, rest') ∧
        Prolonged lost rest rest' := by
  rcases h.first_cases (c := ':') (by decide) with ⟨ds, ds', rfl, rfl, hds⟩ | ⟨hne, hne'⟩
  · rw [readAsciiName_colon, readAsciiName_colon]
    obtain ⟨hnegated, hname⟩ := hds.negation id fun _ _ => id
    rw [hnegated]
    rcases Prolonged.dropWhile_cases hname (p := (· != ':')) rfl with
      ⟨hnil, hnil'⟩ | ⟨hname, d, rest, rest', hd, hdrop, hdrop', hrest⟩
    · rw [readNamed_of_ne _ (by rw [hnil]; nofun), readNamed_of_ne _ (by rw [hnil']; nofun)]
      exact .inl ⟨rfl, rfl⟩
    · obtain rfl : d = ':' := by simpa using hd
      rcases hrest.first_cases (c := ']') (by decide) with
        ⟨tail, tail', rfl, rfl, htail⟩ | ⟨hne, hne'⟩
      · rw [readNamed_bracket _ hdrop, readNamed_bracket _ hdrop', hname]
        cases CharClass.asciiNamed? (String.ofList _) with
        | none => exact .inl ⟨rfl, rfl⟩
        | some a => exact .inr ⟨_, _, _, rfl, rfl, htail⟩
      · have hends {ds rest : List Char} (hdrop : ds.dropWhile (· != ':') = ':' :: rest)
            (hne : ∀ tail, rest ≠ ']' :: tail) (tail : List Char) :
            ds.dropWhile (· != ':') ≠ ':' :: ']' :: tail := by
          rw [hdrop]
          exact fun heq => hne tail (List.cons.inj heq).2
        rw [readNamed_of_ne _ (hends hdrop hne), readNamed_of_ne _ (hends hdrop' hne')]
        exact .inl ⟨rfl, rfl⟩
  · rw [readAsciiName_of_ne hne, readAsciiName_of_ne hne']
    exact .inl ⟨rfl, rfl⟩

/-- Members of classes keep in step but for a boundary that seems to be repeated. -/
theorem inStep_readClassPrimitive (h : Prolonged lost cs cs') :
    InStep lost (readClassPrimitive f cs) (readClassPrimitive f cs') ∨
      readClassPrimitive f cs = none ∧
        ∃ a rest, readClassPrimitive f cs' = some (.assertion a, rest) := by
  cases h with
  | eaten => exact .inl .neither
  | pasted => exact .inl (.of_tails (.some List.suffix_rfl))
  | @cons c cs cs' hash h =>
    by_cases hc : c = '\\'
    · subst hc
      rcases inStep_readEscape f h with hstep | ⟨hnone, a, rest, hsome, -⟩
      · exact .inl hstep
      · exact .inr ⟨hnone, a, rest, hsome⟩
    · unfold readClassPrimitive
      split
      · next heq => cases heq
      · next heq => exact absurd (List.cons.inj heq).1 hc
      · next heq =>
        obtain ⟨rfl, rfl⟩ := List.cons.inj heq
        exact .inl (.both ⟨rfl, h⟩)

theorem startsRange_hyphen (cs : List Char) :
    startsRange f ('-' :: cs) = !(skip f cs).head?.any fun c => c == ']' || c == '-' := by
  rw [startsRange]
  split
  · next heq => rw [heq]; rfl
  · next heq => rw [heq]; rfl
  · next hbracket hhyphen =>
    cases hds : skip f cs with
    | nil => rfl
    | cons d ds =>
      have hd : d ≠ ']' := fun hd => hbracket ds (by rw [hds, hd])
      have hd' : d ≠ '-' := fun hd => hhyphen ds (by rw [hds, hd])
      simp [hd, hd']

theorem startsRange_of_ne (h : ∀ ds, cs ≠ '-' :: ds) : startsRange f cs = false := by
  unfold startsRange
  split
  · exact absurd rfl (h _)
  · rfl

theorem Prolonged.startsRange (h : Prolonged lost cs cs') :
    startsRange f cs' = startsRange f cs := by
  rcases h.first_cases (c := '-') (by decide) with ⟨ds, ds', rfl, rfl, hds⟩ | ⟨hne, hne'⟩
  · rw [startsRange_hyphen, startsRange_hyphen, (hds.skip f).head?_any rfl]
  · rw [startsRange_of_ne f hne, startsRange_of_ne f hne']

/-- An assertion is no item of a class. -/
theorem readClassItemAfter_assertion (a : Assertion) (cs : List Char) :
    readClassItemAfter f (.assertion a) cs = none := by
  unfold readClassItemAfter
  dsimp only
  split
  · cases readClassPrimitive f (skip f ((skip f cs).drop 1)) with
    | none => rfl
    | some last => rfl
  · rfl

theorem inStep_readClassItemAfter (h : Prolonged lost cs cs') (first : Primitive) :
    InStep lost (readClassItemAfter f first cs) (readClassItemAfter f first cs') := by
  have hskip := h.skip f
  unfold readClassItemAfter
  generalize skip f cs = ds at hskip ⊢
  generalize skip f cs' = ds' at hskip ⊢
  dsimp only
  rw [hskip.startsRange f]
  cases hskip with
  | eaten h => exact .bind_value fun a => .both ⟨rfl, .eaten h⟩
  | pasted => exact .bind_value fun a => .both ⟨rfl, .pasted⟩
  | @cons c cs cs' hash h =>
    split
    · rw [List.drop_succ_cons, List.drop_zero, List.drop_succ_cons, List.drop_zero]
      rcases inStep_readClassPrimitive f (h.skip f) with hstep | ⟨hnone, a, rest, hsome⟩
      · refine hstep.bind ?_ fun b => .bind_value fun a => .bind_value fun b => ?_
        · rintro ⟨last, rest⟩ ⟨last', rest'⟩ ⟨rfl, hrest⟩
          refine .bind_value fun a => .bind_value fun b => ?_
          split
          · exact .neither
          · exact .both ⟨rfl, hrest⟩
        · split
          · exact .none
          · exact .some List.suffix_rfl
      · rw [hnone, hsome]
        change InStep lost none (classLiteral? f first >>= fun _ => none)
        cases classLiteral? f first <;> exact .neither
    · exact .bind_value fun a => .both ⟨rfl, .cons hash h⟩

theorem inStep_readClassItem (h : Prolonged lost cs cs') :
    InStep lost (readClassItem f cs) (readClassItem f cs') := by
  rw [readClassItem_eq, readClassItem_eq]
  rcases inStep_readClassPrimitive f h with hstep | ⟨hnone, a, rest, hsome⟩
  · refine hstep.bind ?_ fun b => tails_readClassItemAfter f _ _
    rintro ⟨first, rest⟩ ⟨first', rest'⟩ ⟨rfl, hrest⟩
    exact inStep_readClassItemAfter f hrest _
  · rw [hnone, hsome]
    change InStep lost none (readClassItemAfter f (.assertion a) rest)
    rw [readClassItemAfter_assertion]
    exact .neither

theorem readHyphens_of_ne (fuel : Nat) (o : OpenClass) (h : ∀ ds, cs ≠ '-' :: ds) :
    readHyphens f fuel o cs = (o, cs) := by
  unfold readHyphens
  split
  · exact absurd rfl (h _)
  · rfl

theorem prolongs_readHyphens (h : Prolonged lost cs cs') {n m : Nat} (hn : cs.length ≤ n)
    (hm : cs'.length ≤ m) (o : OpenClass) :
    Prolongs lost (readHyphens f n o cs) (readHyphens f m o cs') := by
  induction n generalizing m cs cs' o with
  | zero =>
    obtain rfl := List.length_eq_zero_iff.1 (Nat.le_zero.1 hn)
    cases h with
    | eaten h => cases m <;> exact ⟨rfl, .eaten h⟩
    | pasted => cases m <;> exact ⟨rfl, .pasted⟩
  | succ n ih =>
    rcases h.first_cases (c := '-') (by decide) with ⟨ds, ds', rfl, rfl, hds⟩ | ⟨hne, hne'⟩
    · obtain ⟨m, rfl⟩ := Nat.exists_eq_add_one_of_ne_zero (Nat.ne_zero_of_lt hm)
      have hle := (skip_suffix f ds).length_le
      have hle' := (skip_suffix f ds').length_le
      rw [List.length_cons] at hn hm
      exact ih (m := m) (hds.skip f) (by omega) (by omega) _
    · rw [readHyphens_of_ne f _ _ hne, readHyphens_of_ne f _ _ hne']
      exact ⟨rfl, h⟩

theorem prolongs_readBracket (h : Prolonged lost cs cs') {p q : Prop} [Decidable p] [Decidable q]
    (hpq : p ↔ q) (o : OpenClass) :
    Prolongs lost (readBracket f p o cs) (readBracket f q o cs') := by
  rcases h.first_cases (c := ']') (by decide) with ⟨ds, ds', rfl, rfl, hds⟩ | ⟨hne, hne'⟩
  · change Prolongs lost (if p then _ else _) (if q then _ else _)
    by_cases hp : p
    · rw [if_pos hp, if_pos (hpq.1 hp)]
      exact ⟨rfl, h⟩
    · rw [if_neg hp, if_neg (mt hpq.2 hp)]
      exact ⟨rfl, hds.skip f⟩
  · rw [readBracket_of_ne f p o hne, readBracket_of_ne f q o hne']
    exact ⟨rfl, h⟩

theorem prolongs_readClassStart (h : Prolonged lost cs cs') :
    Prolongs lost (readClassStart f cs) (readClassStart f cs') := by
  have hsign := (h.skip f).negation (skip f) fun _ _ h => h.skip f
  unfold readClassStart
  generalize negation (skip f) (skip f cs) = sign at hsign ⊢
  generalize negation (skip f) (skip f cs') = sign' at hsign ⊢
  obtain ⟨negated, ds⟩ := sign
  obtain ⟨negated', ds'⟩ := sign'
  obtain ⟨rfl, hds⟩ : negated = negated' ∧ Prolonged lost ds ds' := hsign
  dsimp only
  have hhyphen := hds.head?_eq_iff (c := '-') (by decide)
  have hhyphens := prolongs_readHyphens f hds (Nat.le_refl _) (Nat.le_refl _) ⟨none, .none⟩
  generalize readHyphens f ds.length ⟨none, .none⟩ ds = read at hhyphens ⊢
  generalize readHyphens f ds'.length ⟨none, .none⟩ ds' = read' at hhyphens ⊢
  obtain ⟨o, rest⟩ := read
  obtain ⟨o', rest'⟩ := read'
  obtain ⟨rfl, hrest⟩ : o = o' ∧ Prolonged lost rest rest' := hhyphens
  exact ⟨rfl, prolongs_readBracket f hrest hhyphen.symm o⟩

/-- What follows a bracket inside a class: a class with a name, or one that is written out. -/
def readInner (fuel : Nat) (o : OpenClass) (cs : List Char) : Option (CharClass × List Char) :=
  match readAsciiName cs with
  | some ((negated, a), rest) => do
    readClassItems f fuel (o.add (← f.negateIf? negated (f.fold a))) rest
  | none => do
    let (a, rest) ← readClass f fuel cs
    readClassItems f fuel (o.add a) rest

/-- A class and its items, with enough fuel for either on both sides. -/
theorem inStep_classes (n : Nat) :
    (∀ m cs cs', Prolonged lost cs cs' → 2 * cs.length + 2 ≤ n → 2 * cs'.length + 2 ≤ m →
      InStep lost (readClass f n cs) (readClass f m cs')) ∧
    ∀ m o cs cs', Prolonged lost cs cs' → 2 * cs.length + 1 ≤ n → 2 * cs'.length + 1 ≤ m →
      InStep lost (readClassItems f n o cs) (readClassItems f m o cs') := by
  -- The items of a class may be as long as the class, and a class inside is shorter than the items.
  induction n with
  | zero => exact ⟨fun _ _ _ _ hn => by omega, fun _ _ _ _ _ hn => by omega⟩
  | succ n ih =>
    obtain ⟨ihclass, ihitems⟩ := ih
    constructor
    · intro m cs cs' h hn hm
      obtain ⟨m, rfl⟩ := Nat.exists_eq_add_one_of_ne_zero (Nat.ne_zero_of_lt hm)
      have hle := (readClassStart_suffix f cs).length_le
      have hle' := (readClassStart_suffix f cs').length_le
      have hstart := prolongs_readClassStart f h
      rw [readClass_succ, readClass_succ]
      generalize readClassStart f cs = start at hle hstart ⊢
      generalize readClassStart f cs' = start' at hle' hstart ⊢
      obtain ⟨negated, o, rest⟩ := start
      obtain ⟨negated', o', rest'⟩ := start'
      obtain ⟨rfl, rfl, hrest⟩ : negated = negated' ∧ o = o' ∧ Prolonged lost rest rest' := hstart
      dsimp only at hle hle' ⊢
      refine (ihitems m o rest rest' hrest (by omega) (by omega)).bind ?_ fun b =>
        .bind_value fun a => .some List.suffix_rfl
      rintro ⟨a, rest⟩ ⟨a', rest'⟩ ⟨rfl, hrest⟩
      exact .bind_value fun a => .both ⟨rfl, hrest⟩
    · intro m o cs cs' h hn hm
      obtain ⟨m, rfl⟩ := Nat.exists_eq_add_one_of_ne_zero (Nat.ne_zero_of_lt hm)
      have hle := (skip_suffix f cs).length_le
      have hle' := (skip_suffix f cs').length_le
      have hskip := h.skip f
      unfold readClassItems
      generalize skip f cs = ds at hle hskip ⊢
      generalize skip f cs' = ds' at hle' hskip ⊢
      cases hskip with
      | eaten => exact .neither
      | pasted =>
        exact .of_tails ((tails_readClassItem_cons f ')' ['$']).bind fun b =>
          (tails_classes f m).2 _ _)
      | @cons c cs cs' hash h =>
        simp only [List.length_cons] at hle hle'
        split
        case h_1 heq => cases heq
        case h_2 heq =>
          obtain ⟨rfl, rfl⟩ := List.cons.inj heq
          exact .both ⟨rfl, h⟩
        case h_3 heq =>
          obtain ⟨rfl, rfl⟩ := List.cons.inj heq
          change InStep lost (readInner f n o cs) (readInner f m o cs')
          unfold readInner
          rcases readAsciiName_cases h with ⟨hname, hname'⟩ | ⟨a, rest, rest', hname, hname', hrest⟩
          · rw [hname, hname']
            refine (ihclass m cs cs' h (by omega) (by omega)).bind_read ((tails_classes f n).1 cs)
              ((tails_classes f m).1 cs') ?_ fun b => (tails_classes f m).2 _ _
            intro a rest rest' hrest hlength hlength'
            exact ihitems m _ rest rest' hrest (by omega) (by omega)
          · rw [hname, hname']
            have hlength : rest.length ≤ _ := (tails_readAsciiName cs _ hname).length_le
            have hlength' : rest'.length ≤ _ := (tails_readAsciiName cs' _ hname').length_le
            exact .bind_value fun a => ihitems m _ rest rest' hrest (by omega) (by omega)
        case h_4 heq | h_5 heq | h_6 heq =>
          obtain ⟨rfl, rfl⟩ := List.cons.inj heq
          cases h with
          | cons hash' h =>
            simp only [List.length_cons] at hle hle'
            exact ihitems _ _ _ _ h (by omega) (by omega)
        case h_7 hbracket hopen hand hminus htilde =>
          split
          case h_1 heq => cases heq
          case h_2 heq => exact (hbracket cs (by rw [(List.cons.inj heq).1])).elim
          case h_3 heq => exact (hopen cs (by rw [(List.cons.inj heq).1])).elim
          case h_4 heq =>
            obtain ⟨rfl, rfl⟩ := List.cons.inj heq
            obtain ⟨rest, rfl, -⟩ := h.exists_cons (by decide)
            exact absurd rfl (hand rest)
          case h_5 heq =>
            obtain ⟨rfl, rfl⟩ := List.cons.inj heq
            obtain ⟨rest, rfl, -⟩ := h.exists_cons (by decide)
            exact absurd rfl (hminus rest)
          case h_6 heq =>
            obtain ⟨rfl, rfl⟩ := List.cons.inj heq
            obtain ⟨rest, rfl, -⟩ := h.exists_cons (by decide)
            exact absurd rfl (htilde rest)
          case h_7 =>
            refine (inStep_readClassItem f (.cons hash h)).bind_read
              (tails_readClassItem_cons f c cs) (tails_readClassItem_cons f c cs') ?_ fun b =>
              (tails_classes f m).2 _ _
            intro a rest rest' hrest hlength hlength'
            exact ihitems m _ rest rest' hrest (by omega) (by omega)

end Classes

end FeatureToggle.Pattern
