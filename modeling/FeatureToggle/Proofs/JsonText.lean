import FeatureToggle.Json.Syntax
import FeatureToggle.Json.Text
import Mathlib.Data.List.Forall2

/-!
# Reading back JSON text

Text in the compact form is read back as it was meant. A `Json.Written` is a piece of such text with
the value that it stands for; strings, Booleans and objects of such pieces are pieces again. A
piece says itself where it ends, so it is read in front of any other text.
-/
namespace FeatureToggle.Json

/-! ## Strings -/

theorem hexDigit?_hexNibble : ∀ n < 16, hexDigit? (hexNibble n) = some n := by decide

/-- The symbols and the rest of the text, with one more symbol in front. -/
def pushSymbol (symbol : Symbol) (p : List Symbol × List Char) : List Symbol × List Char :=
  (symbol :: p.1, p.2)

theorem readSymbols_letter {e c : Char} (h : escape? e = some c) (cs : List Char) :
    readSymbols ('\\' :: e :: cs) = (readSymbols cs).map (pushSymbol (.char c)) := by
  have hu : e ≠ 'u' := by
    rintro rfl
    cases h
  rw [readSymbols]
  · rw [h]
    cases readSymbols cs with
    | none => rfl
    | some p => rfl
  · intro _ _ _ _ _ he
    exact absurd he hu

theorem readSymbols_control {n : Nat} (h : n < 0x20) (cs : List Char) :
    readSymbols ('\\' :: 'u' :: '0' :: '0' :: hexNibble (n / 16) :: hexNibble (n % 16) :: cs) =
      (readSymbols cs).map (pushSymbol (.unit n)) := by
  have hzero : hexDigit? '0' = some 0 := rfl
  have hhigh := hexDigit?_hexNibble (n / 16) (by omega)
  have hlow := hexDigit?_hexNibble (n % 16) (by omega)
  have hn : n / 16 * 16 + n % 16 = n := by omega
  rw [readSymbols, hzero, hhigh, hlow]
  simp only [Option.bind_eq_bind, Option.bind_some, Nat.zero_mul, Nat.zero_add, hn]
  cases readSymbols cs with
  | none => rfl
  | some p => rfl

theorem readSymbols_plain {c : Char} (hcontrol : ¬ c.toNat < 0x20) (hquote : c ≠ '"')
    (hbackslash : c ≠ '\\') (cs : List Char) :
    readSymbols (c :: cs) = (readSymbols cs).map (pushSymbol (.char c)) := by
  rw [readSymbols]
  · rw [if_neg (not_or.2 ⟨hcontrol, hbackslash⟩)]
    cases readSymbols cs with
    | none => rfl
    | some p => rfl
  · exact hquote
  · exact fun _ _ _ _ _ hc => absurd hc hbackslash
  · exact fun _ _ hc => absurd hc hbackslash

/-- Units below the surrogates are characters by themselves. -/
theorem assemble?_unit {n : Nat} (h : n < 0xd800) (rest : List Symbol) :
    assemble? (.unit n :: rest) = (assemble? rest).map (Char.ofNat n :: ·) := by
  rw [assemble?.eq_def]
  exact if_pos (.inl h)

/-- Each character is written as one symbol, which stands for that character. -/
theorem exists_symbol (c : Char) :
    ∃ symbol, (∀ cs, readSymbols (escapeChar c ++ cs) = (readSymbols cs).map (pushSymbol symbol)) ∧
      ∀ rest, assemble? (symbol :: rest) = (assemble? rest).map (c :: ·) := by
  unfold escapeChar
  split
  · exact ⟨.char '"', readSymbols_letter rfl, fun _ => rfl⟩
  · exact ⟨.char '\\', readSymbols_letter rfl, fun _ => rfl⟩
  · exact ⟨.char '\x08', readSymbols_letter rfl, fun _ => rfl⟩
  · exact ⟨.char '\x0c', readSymbols_letter rfl, fun _ => rfl⟩
  · exact ⟨.char '\n', readSymbols_letter rfl, fun _ => rfl⟩
  · exact ⟨.char '\r', readSymbols_letter rfl, fun _ => rfl⟩
  · exact ⟨.char '\t', readSymbols_letter rfl, fun _ => rfl⟩
  · next hquote hbackslash _ _ _ _ _ =>
    split
    · next hcontrol =>
      refine ⟨.unit c.toNat, readSymbols_control hcontrol, fun rest => ?_⟩
      rw [assemble?_unit (by omega), Char.ofNat_toNat]
    · next hcontrol =>
      exact ⟨.char c, readSymbols_plain hcontrol hquote hbackslash, fun _ => rfl⟩

theorem exists_symbols (s rest : List Char) :
    ∃ symbols, readSymbols (s.flatMap escapeChar ++ '"' :: rest) = some (symbols, rest) ∧
      assemble? symbols = some s := by
  induction s with
  | nil => exact ⟨[], rfl, rfl⟩
  | cons c s ih =>
    obtain ⟨symbols, hread, hassemble⟩ := ih
    obtain ⟨symbol, hpush, hchar⟩ := exists_symbol c
    refine ⟨symbol :: symbols, ?_, ?_⟩
    · rw [List.flatMap_cons, List.append_assoc, hpush, hread]
      rfl
    · rw [hchar, hassemble]
      rfl

theorem readString_written (s : String) (rest : List Char) :
    readString (s.toList.flatMap escapeChar ++ '"' :: rest) = some (some s, rest) := by
  obtain ⟨symbols, hread, hassemble⟩ := exists_symbols s.toList rest
  rw [readString, hread]
  simp [hassemble]

/-! ## Values -/

/-- A piece of text that is read back as the value, whatever follows it. The calls of the reader
never lie in each other deeper than the text is long. -/
structure Written where
  text : List Char
  value : Syntax
  read : ∀ n rest, text.length ≤ n → readValue n (text ++ rest) = some (value, rest)

namespace Written

theorem readValue_string (s : String) (n : Nat) (rest : List Char)
    (h : (writeString s).length ≤ n) :
    readValue n (writeString s ++ rest) = some (.string (some s), rest) := by
  have hread := readString_written s rest
  simp only [writeString, List.cons_append, List.append_assoc, List.nil_append, List.length_cons,
    List.length_append] at h ⊢
  obtain ⟨n, rfl⟩ : ∃ m, n = m + 1 := ⟨n - 1, by omega⟩
  change (readString _).map _ = _
  rw [hread]
  rfl

theorem readValue_bool (b : Bool) (n : Nat) (rest : List Char) (h : (writeBool b).length ≤ n) :
    readValue n (writeBool b ++ rest) = some (.bool b, rest) := by
  cases n with
  | zero => cases b <;> cases h
  | succ n => cases b <;> rfl

def string (s : String) : Written := ⟨writeString s, .string s, readValue_string s⟩

def bool (b : Bool) : Written := ⟨writeBool b, .bool b, readValue_bool b⟩

/-- The members of an object as they are written. -/
def membersText (members : List (String × Written)) : List Char :=
  writeMembers (members.map (Prod.map id text))

/-- What the members stand for. -/
def membersValue (members : List (String × Written)) : List (Option String × Syntax) :=
  members.map (Prod.map some value)

/-- One member is read, and what follows it tells whether it is the last. -/
theorem readMembers_member (name : String) (w : Written) {n : Nat} (h : w.text.length ≤ n)
    (tail : List Char) :
    readMembers (n + 1) (writeString name ++ ':' :: w.text ++ tail) =
      match skipSpace tail with
      | ',' :: cs => do
        let (members, cs) ← readMembers n cs
        return ((some name, w.value) :: members, cs)
      | '\x7d' :: cs => some ([(some name, w.value)], cs)
      | _ => none := by
  have hname := readString_written name (':' :: w.text ++ tail)
  have hvalue := w.read n tail h
  simp only [writeString, List.cons_append, List.append_assoc, List.nil_append] at hname ⊢
  rw [readMembers]
  have hquote (cs : List Char) : skipSpace ('"' :: cs) = '"' :: cs := rfl
  have hcolon (cs : List Char) : skipSpace (':' :: cs) = ':' :: cs := rfl
  simp only [hquote, hname, Option.bind_eq_bind, Option.bind_some, hcolon, hvalue]
  rfl

/-- The members of an object are read up to its closing brace. -/
theorem readMembers_written (name : String) (w : Written) (others : List (String × Written))
    {n : Nat} (rest : List Char) (h : (membersText ((name, w) :: others)).length ≤ n) :
    readMembers n (membersText ((name, w) :: others) ++ '\x7d' :: rest) =
      some (membersValue ((name, w) :: others), rest) := by
  induction others generalizing name w n with
  | nil =>
    have htext : membersText [(name, w)] = writeString name ++ ':' :: w.text := rfl
    rw [htext] at h ⊢
    simp only [writeString, List.length_append, List.length_cons] at h
    obtain ⟨n, rfl⟩ : ∃ m, n = m + 1 := ⟨n - 1, by omega⟩
    rw [readMembers_member name w (by omega)]
    rfl
  | cons member others ih =>
    obtain ⟨next, v⟩ := member
    have htext : membersText ((name, w) :: (next, v) :: others) =
      writeString name ++ ':' :: w.text ++ ',' :: membersText ((next, v) :: others) := rfl
    rw [htext] at h ⊢
    simp only [writeString, List.length_append, List.length_cons] at h
    obtain ⟨n, rfl⟩ : ∃ m, n = m + 1 := ⟨n - 1, by omega⟩
    rw [List.append_assoc, readMembers_member name w (by omega)]
    change (readMembers n (membersText ((next, v) :: others) ++ _)).bind _ = _
    rw [ih next v (by omega)]
    rfl

/-- The text of members begins with the quote of the first name. -/
theorem exists_membersText (name : String) (w : Written) (others : List (String × Written)) :
    ∃ cs, membersText ((name, w) :: others) = '"' :: cs := by
  cases others with
  | nil => exact ⟨_, rfl⟩
  | cons member others => exact ⟨_, rfl⟩

theorem readValue_object (members : List (String × Written)) (n : Nat) (rest : List Char)
    (h : (writeObject (members.map (Prod.map id text))).length ≤ n) :
    readValue n (writeObject (members.map (Prod.map id text)) ++ rest) =
      some (.object (membersValue members), rest) := by
  have htext : writeObject (members.map (Prod.map id text)) =
    '\x7b' :: membersText members ++ ['\x7d'] := rfl
  rw [htext] at h ⊢
  simp only [List.length_append, List.length_cons] at h
  obtain ⟨n, rfl⟩ : ∃ m, n = m + 1 := ⟨n - 1, by omega⟩
  rw [List.append_assoc, List.cons_append, List.singleton_append]
  cases members with
  | nil => rfl
  | cons member others =>
    obtain ⟨name, w⟩ := member
    have hread := readMembers_written name w others (n := n) rest (by omega)
    -- the quote tells the reader that the object is not empty
    obtain ⟨cs, hcs⟩ := exists_membersText name w others
    rw [hcs] at hread ⊢
    change (readMembers n ('"' :: cs ++ '\x7d' :: rest)).map _ = _
    rw [hread]
    rfl

def object (members : List (String × Written)) : Written :=
  ⟨writeObject (members.map (Prod.map id text)), .object (membersValue members),
    readValue_object members⟩

/-- A piece that is all of a text. -/
theorem read?_text (w : Written) : Syntax.read? (String.ofList w.text) = some w.value := by
  have hread := w.read (2 * w.text.length + 2) [] (by omega)
  rw [List.append_nil] at hread
  have hend : skipSpace [] = [] := rfl
  simp [Syntax.read?, hread, hend]

/-! ## Meaning -/

/-- The piece stands for the JSON value, in which at most `depth` containers lie in each other. -/
def Means (depth : Nat) (w : Written) (j : Json) : Prop := w.value.toJson? depth = some j

theorem means_string (depth : Nat) (s : String) : Means depth (string s) (.string s) := by
  cases depth <;> rfl

theorem means_bool (depth : Nat) (b : Bool) : Means depth (bool b) (.bool b) := by
  cases depth <;> rfl

theorem means_object {depth : Nat} {members : List (String × Written)}
    {values : List (String × Json)}
    (h : List.Forall₂ (fun m j => m.1 = j.1 ∧ Means depth m.2 j.2) members values) :
    Means (depth + 1) (object members) (.object values) := by
  have hmembers : Syntax.membersToJson? depth (membersValue members) = some values := by
    induction h with
    | nil => rfl
    | @cons member value members values hfirst _ ih =>
      obtain ⟨name, w⟩ := member
      obtain ⟨_, j⟩ := value
      obtain ⟨rfl, hmeans⟩ := hfirst
      change Syntax.membersToJson? depth ((some name, w.value) :: membersValue members) = _
      rw [Syntax.membersToJson?, show w.value.toJson? depth = some j from hmeans, ih]
      rfl
  change (Syntax.membersToJson? depth (membersValue members)).map Json.object = _
  rw [hmembers]
  rfl

end Written

end FeatureToggle.Json
