import FeatureToggle.IpAddress
import FeatureToggle.Proofs.Numerals
import Mathlib.Data.List.TakeWhile

/-!
# Notations of addresses

Which texts denote which address: four decimal numbers with points, eight groups of hexadecimal
digits with colons, or fewer of them around a double colon that stands for zeros, and the last two
groups in the form of version 4. Reading finds the address that a text denotes, if it denotes one at
all (`ofText?_eq_some_iff`).
-/
namespace FeatureToggle.IpAddress

/-! ## Grammar -/

/-- A number up to 255 in one to three decimal digits, without leading zeros. -/
structure Octet (n : Nat) (cs : List Char) : Prop where
  numeral : Text.IsNumeral cs
  short : cs.length ≤ 3
  plain : cs.head? = some '0' → cs = ['0']
  value : Text.decimal cs = n
  le : n ≤ 255

/-- A number in one to four hexadecimal digits of either case. -/
structure Group (n : Nat) (cs : List Char) : Prop where
  ne_nil : cs ≠ []
  hex : ∀ c ∈ cs, isHexDigit c = true
  short : cs.length ≤ 4
  value : Text.placeValue 16 digitValue cs = n

/-- Four numbers with points between them, the first of which counts most. -/
def Dotted (n : Nat) (cs : List Char) : Prop :=
  ∃ a b c d as bs cs' ds, Octet a as ∧ Octet b bs ∧ Octet c cs' ∧ Octet d ds ∧
    cs = as ++ '.' :: (bs ++ '.' :: (cs' ++ '.' :: ds)) ∧
    n = ((a * 256 + b) * 256 + c) * 256 + d

/-- Groups with colons between them. The last two may be `dotted` as an address of version 4. -/
inductive Groups : Bool → List Nat → List Char → Prop where
  | last {g : Nat} {cs : List Char} : Group g cs → Groups false [g] cs
  | dotted {n : Nat} {cs : List Char} : Dotted n cs → Groups true [n / 65536, n % 65536] cs
  | cons {dotted : Bool} {g : Nat} {gs : List Nat} {cs rest : List Char} : Group g cs →
    Groups dotted gs rest → Groups dotted (g :: gs) (cs ++ ':' :: rest)

/-- The groups on one side of a double colon, of which there may be none. -/
inductive Side : Bool → List Nat → List Char → Prop where
  | empty : Side false [] []
  | groups {dotted : Bool} {gs : List Nat} {cs : List Char} : Groups dotted gs cs →
    Side dotted gs cs

/-- The address that a text denotes. A double colon stands for at least one group of zeros. -/
inductive Denotes : List Char → IpAddress → Prop where
  | v4 {n : Nat} {cs : List Char} : Dotted n cs → Denotes cs (.v4 n)
  | full {dotted : Bool} {gs : List Nat} {cs : List Char} : Groups dotted gs cs → gs.length = 8 →
    Denotes cs (ofGroups gs)
  | compressed {dotted : Bool} {head tail : List Nat} {front back : List Char} :
    Side false head front → Side dotted tail back → head.length + tail.length ≤ 7 →
    Denotes (front ++ ':' :: ':' :: back)
      (ofGroups (head ++ List.replicate (8 - head.length - tail.length) 0 ++ tail))

/-! ## Numbers -/

theorem takeWhile_append_of_stop {p : Char → Bool} {cs rest : List Char}
    (hcs : ∀ c ∈ cs, p c = true) (hrest : ∀ c ∈ rest.head?, p c = false) :
    (cs ++ rest).takeWhile p = cs := by
  rw [List.takeWhile_append_of_pos hcs]
  cases rest with
  | nil => simp
  | cons c rest =>
    have hc : ¬ p c = true := by simp [hrest c rfl]
    rw [List.takeWhile_cons_of_neg hc, List.append_nil]

theorem takeWhile_append_drop (p : Char → Bool) (cs : List Char) :
    cs.takeWhile p ++ cs.drop (cs.takeWhile p).length = cs :=
  List.prefix_iff_eq_append.1 (List.takeWhile_prefix p)

theorem placeValue_digitValue {cs : List Char} (h : ∀ c ∈ cs, c.isDigit = true) :
    Text.placeValue 10 digitValue cs = Text.decimal cs := by
  apply Text.placeValue_congr
  intro c hc
  rw [digitValue, if_pos (h c hc), Text.digitValue]

theorem readOctet_append {n : Nat} {cs rest : List Char} (h : Octet n cs)
    (hrest : ∀ c ∈ rest.head?, c.isDigit = false) : readOctet (cs ++ rest) = some (n, rest) := by
  have htake : (cs ++ rest).takeWhile Char.isDigit = cs :=
    takeWhile_append_of_stop h.numeral.ascii hrest
  have hvalue : cs.foldl (fun n c => n * 10 + digitValue c) 0 = n := by
    rw [Text.foldl_eq_placeValue, placeValue_digitValue h.numeral.ascii, h.value]
  have hgood : ¬ (cs.isEmpty = true ∨ 3 < cs.length ∨ (cs.head? = some '0' ∧ cs ≠ ['0']) ∨
      255 < n) := by
    rintro (hempty | hlong | ⟨hzero, hmore⟩ | hlarge)
    · exact h.numeral.ne_nil (List.isEmpty_iff.1 hempty)
    · exact absurd h.short (by omega)
    · exact hmore (h.plain hzero)
    · exact absurd h.le (by omega)
  simp only [readOctet, htake, hvalue, if_neg hgood, List.drop_left]

theorem exists_of_readOctet {n : Nat} {cs rest : List Char} (h : readOctet cs = some (n, rest)) :
    ∃ digits, Octet n digits ∧ cs = digits ++ rest := by
  simp only [readOctet] at h
  split at h
  · cases h
  · next hgood =>
    simp only [not_or, not_and, not_lt, List.isEmpty_iff, not_not] at hgood
    obtain ⟨hne, hshort, hplain, hle⟩ := hgood
    obtain ⟨hvalue, hdrop⟩ := Prod.mk.inj (Option.some.inj h)
    have hascii : ∀ c ∈ cs.takeWhile Char.isDigit, c.isDigit = true := fun c hc =>
      List.mem_takeWhile_imp hc
    rw [hvalue] at hle
    rw [Text.foldl_eq_placeValue, placeValue_digitValue hascii] at hvalue
    refine ⟨cs.takeWhile Char.isDigit, ⟨⟨hne, hascii⟩, hshort, hplain, hvalue, hle⟩, ?_⟩
    rw [← hdrop, takeWhile_append_drop]

theorem readGroup_append {n : Nat} {cs rest : List Char} (h : Group n cs)
    (hrest : ∀ c ∈ rest.head?, isHexDigit c = false) : readGroup (cs ++ rest) = some (n, rest) := by
  have htake : (cs ++ rest).takeWhile isHexDigit = cs := takeWhile_append_of_stop h.hex hrest
  have hvalue : cs.foldl (fun n c => n * 16 + digitValue c) 0 = n :=
    (Text.foldl_eq_placeValue cs).trans h.value
  have hgood : ¬ (cs.isEmpty = true ∨ 4 < cs.length) := by
    rintro (hempty | hlong)
    · exact h.ne_nil (List.isEmpty_iff.1 hempty)
    · exact absurd h.short (by omega)
  simp only [readGroup, htake, hvalue, if_neg hgood, List.drop_left]

theorem exists_of_readGroup {n : Nat} {cs rest : List Char} (h : readGroup cs = some (n, rest)) :
    ∃ digits, Group n digits ∧ cs = digits ++ rest := by
  simp only [readGroup] at h
  split at h
  · cases h
  · next hgood =>
    simp only [not_or, not_lt, List.isEmpty_iff] at hgood
    obtain ⟨hne, hshort⟩ := hgood
    obtain ⟨hvalue, hdrop⟩ := Prod.mk.inj (Option.some.inj h)
    rw [Text.foldl_eq_placeValue] at hvalue
    refine ⟨cs.takeWhile isHexDigit, ⟨hne, fun c hc => List.mem_takeWhile_imp hc, hshort, hvalue⟩, ?_⟩
    rw [← hdrop, takeWhile_append_drop]

theorem readChar_eq_some_iff {c : Char} {cs rest : List Char} :
    readChar c cs = some rest ↔ cs = c :: rest := by
  cases cs with
  | nil => simp [readChar]
  | cons d cs =>
    rw [readChar]
    split
    · next h => simp [h]
    · next h => simp [h]

@[simp] theorem readChar_cons (c : Char) (rest : List Char) : readChar c (c :: rest) = some rest :=
  readChar_eq_some_iff.2 rfl

/-! ## Version 4 -/

theorem readV4_append {n : Nat} {cs rest : List Char} (h : Dotted n cs)
    (hrest : ∀ c ∈ rest.head?, c.isDigit = false) : readV4 (cs ++ rest) = some (n, rest) := by
  obtain ⟨a, b, c, d, as, bs, cs', ds, ha, hb, hc, hd, rfl, rfl⟩ := h
  have hpoint (cs : List Char) : ∀ c ∈ ('.' :: cs).head?, c.isDigit = false := by
    intro c hc
    obtain rfl : '.' = c := Option.some.inj hc
    rfl
  simp only [readV4, List.append_assoc, List.cons_append, readOctet_append ha (hpoint _),
    readOctet_append hb (hpoint _), readOctet_append hc (hpoint _), readOctet_append hd hrest,
    readChar_cons, Option.bind_eq_bind, Option.bind_some, Option.pure_def]

theorem exists_of_readV4 {n : Nat} {cs rest : List Char} (h : readV4 cs = some (n, rest)) :
    ∃ text, Dotted n text ∧ cs = text ++ rest := by
  simp only [readV4, Option.bind_eq_bind, Option.bind_eq_some_iff, Prod.exists, Option.pure_def,
    Option.some.injEq, Prod.mk.injEq, readChar_eq_some_iff] at h
  obtain ⟨a, after, ha, after', rfl, b, after, hb, after', rfl, c, after, hc, after', rfl, d, after,
    hd, rfl, rfl⟩ := h
  obtain ⟨as, has, rfl⟩ := exists_of_readOctet ha
  obtain ⟨bs, hbs, rfl⟩ := exists_of_readOctet hb
  obtain ⟨cs, hcs, rfl⟩ := exists_of_readOctet hc
  obtain ⟨ds, hds, rfl⟩ := exists_of_readOctet hd
  refine ⟨_, ⟨a, b, c, d, as, bs, cs, ds, has, hbs, hcs, hds, rfl, rfl⟩, ?_⟩
  simp only [List.append_assoc, List.cons_append]

/-- What is read as version 4 has a point after its first digits. -/
theorem readV4_eq_none {cs rest : List Char} (hcs : ∀ c ∈ cs, c ≠ '.')
    (hrest : ∀ c ∈ rest.head?, c = ':') : readV4 (cs ++ rest) = none := by
  rw [Option.eq_none_iff_forall_ne_some]
  rintro ⟨n, after⟩ hread
  obtain ⟨text, ⟨a, b, c, d, as, bs, cs', ds, ha, -, -, -, rfl, -⟩, heq⟩ := exists_of_readV4 hread
  rw [List.append_assoc, List.cons_append, List.append_eq_append_iff] at heq
  rcases heq with ⟨part, has, hpart⟩ | ⟨part, rfl, hpart⟩
  · -- The colon would be one of the digits, or the point.
    cases part with
    | nil => exact absurd (hrest '.' (by rw [hpart]; rfl)) (by decide)
    | cons e part =>
      have hcolon : e = ':' := hrest e (by rw [hpart]; rfl)
      have hdigit := ha.numeral.ascii e (by rw [has]; simp)
      rw [hcolon] at hdigit
      cases hdigit
  · cases part with
    | nil => exact absurd (hrest '.' (by rw [← List.nil_append rest, ← hpart]; rfl)) (by decide)
    | cons e part =>
      obtain ⟨rfl, -⟩ := List.cons.inj hpart
      exact hcs '.' (by simp) rfl

/-! ## Groups -/

/-- An item as it stands among others: with a colon in front of it unless it is the first. -/
def lead (first : Bool) (cs : List Char) : List Char := if first then cs else ':' :: cs

theorem readNext_lead {α : Type} (first : Bool) (read : List Char → Option (α × List Char))
    (cs : List Char) : readNext first read (lead first cs) = read cs := by
  cases first with
  | true => rfl
  | false => simp [readNext, lead]

theorem exists_of_readNext {α : Type} {first : Bool} {read : List Char → Option (α × List Char)}
    {cs : List Char} {x : α × List Char} (h : readNext first read cs = some x) :
    ∃ rest, cs = lead first rest ∧ read rest = some x := by
  cases first with
  | true => exact ⟨cs, rfl, h⟩
  | false =>
    simp only [readNext, Bool.false_eq_true, if_false, Option.bind_eq_some_iff,
      readChar_eq_some_iff] at h
    exact h

/-- The groups end with the text or at a double colon. -/
def Stops (rest : List Char) : Prop := rest = [] ∨ ∃ back, rest = ':' :: ':' :: back

theorem Stops.head {rest : List Char} (h : Stops rest) : ∀ c ∈ rest.head?, c = ':' := by
  intro c hc
  rcases h with rfl | ⟨back, rfl⟩
  · cases hc
  · exact (Option.some.inj hc).symm

theorem readGroups_eq_nil {first : Bool} {cs : List Char} (hv4 : readNext first readV4 cs = none)
    (hgroup : readNext first readGroup cs = none) (limit : Nat) :
    readGroups limit first cs = ([], false, cs) := by
  cases limit with
  | zero => rfl
  | succ limit => simp only [readGroups, hv4, hgroup, ite_self]

theorem readV4_colon (cs : List Char) : readV4 (':' :: cs) = none :=
  @readV4_eq_none [] (':' :: cs) (by simp) (by simp)

theorem readGroup_colon (cs : List Char) : readGroup (':' :: cs) = none := rfl

theorem readGroups_of_stops {rest : List Char} (h : Stops rest) (limit : Nat) :
    readGroups limit false rest = ([], false, rest) := by
  rcases h with rfl | ⟨back, rfl⟩
  · exact readGroups_eq_nil rfl rfl limit
  · apply readGroups_eq_nil
    · exact (readNext_lead false readV4 (':' :: back)).trans (readV4_colon back)
    · exact (readNext_lead false readGroup (':' :: back)).trans (readGroup_colon back)

theorem Group.readV4_append {g : Nat} {cs rest : List Char} (h : Group g cs)
    (hrest : ∀ c ∈ rest.head?, c = ':') : readV4 (cs ++ rest) = none := by
  apply readV4_eq_none _ hrest
  rintro c hc rfl
  exact absurd (h.hex '.' hc) (by decide)

/-- After a group, reading goes on with the next one. -/
theorem readGroups_group {g : Nat} {cs rest : List Char} (h : Group g cs)
    (hrest : ∀ c ∈ rest.head?, c = ':') (limit : Nat) (first : Bool) :
    readGroups (limit + 1) first (lead first (cs ++ rest)) =
      (g :: (readGroups limit false rest).1, (readGroups limit false rest).2) := by
  have hhex : ∀ c ∈ rest.head?, isHexDigit c = false := by
    intro c hc
    rw [hrest c hc]
    rfl
  simp only [readGroups, readNext_lead, h.readV4_append hrest, readGroup_append h hhex, ite_self]

theorem readGroups_append {dotted : Bool} {gs : List Nat} {cs : List Char}
    (h : Groups dotted gs cs) {limit : Nat} (hlimit : gs.length ≤ limit) (first : Bool)
    {rest : List Char} (hrest : Stops rest) :
    readGroups limit first (lead first (cs ++ rest)) = (gs, dotted, rest) := by
  induction h generalizing limit first with
  | last hgroup =>
    obtain ⟨limit, rfl⟩ := Nat.exists_eq_add_of_le' hlimit
    rw [List.length_singleton, readGroups_group hgroup hrest.head, readGroups_of_stops hrest]
  | dotted hdotted =>
    obtain ⟨limit, rfl⟩ := Nat.exists_eq_add_of_le' hlimit
    have hdigit : ∀ c ∈ rest.head?, c.isDigit = false := by
      intro c hc
      rw [hrest.head c hc]
      rfl
    simp only [List.length_cons, List.length_nil, readGroups, readNext_lead,
      IpAddress.readV4_append hdotted hdigit]
    rw [if_neg (by omega)]
  | cons hgroup hgroups ih =>
    obtain ⟨limit, rfl⟩ := Nat.exists_eq_add_of_le' hlimit
    rw [List.append_assoc, List.length_cons, ← Nat.add_assoc,
      readGroups_group hgroup (by simp)]
    have hnext := ih (Nat.le_add_left _ limit) false
    rw [lead, if_neg (by simp)] at hnext
    rw [List.cons_append, hnext]

theorem readGroups_side {dotted : Bool} {gs : List Nat} {cs rest : List Char}
    (h : Side dotted gs cs) {limit : Nat} (hlimit : gs.length ≤ limit) (hrest : Stops rest) :
    readGroups limit true (cs ++ rest) = (gs, dotted, rest) := by
  cases h with
  | groups hgroups => exact readGroups_append hgroups hlimit true hrest
  | empty =>
    rcases hrest with rfl | ⟨back, rfl⟩
    · exact readGroups_eq_nil rfl rfl limit
    · apply readGroups_eq_nil
      · exact readV4_colon (':' :: back)
      · exact readGroup_colon (':' :: back)

/-- What is read as groups, if any, was written as groups. -/
theorem groups_of_readGroups {limit : Nat} {first : Bool} {cs : List Char} {gs : List Nat}
    {dotted : Bool} {rest : List Char} (h : readGroups limit first cs = (gs, dotted, rest)) :
    (gs = [] ∧ dotted = false ∧ rest = cs) ∨
      gs.length ≤ limit ∧ ∃ text, Groups dotted gs text ∧ cs = lead first (text ++ rest) := by
  induction limit generalizing first cs gs with
  | zero =>
    cases h
    exact .inl ⟨rfl, rfl, rfl⟩
  | succ limit ih =>
    rw [readGroups] at h
    split at h
    · next n after hread =>
      cases h
      have hlimit : limit ≠ 0 := by
        rintro rfl
        cases hread
      rw [if_neg hlimit] at hread
      obtain ⟨after, rfl, hv4⟩ := exists_of_readNext hread
      obtain ⟨text, htext, rfl⟩ := exists_of_readV4 hv4
      exact .inr ⟨by simp only [List.length_cons, List.length_nil]; omega, text, .dotted htext, rfl⟩
    · split at h
      · next g after hread =>
        obtain ⟨after', rfl, hgroup⟩ := exists_of_readNext hread
        obtain ⟨text, htext, rfl⟩ := exists_of_readGroup hgroup
        obtain ⟨gs', dotted', rest', hnext⟩ : ∃ gs' dotted' rest',
          readGroups limit false after = (gs', dotted', rest') := ⟨_, _, _, rfl⟩
        rw [hnext] at h
        cases h
        right
        rcases ih hnext with ⟨rfl, rfl, rfl⟩ | ⟨hlength, more, hmore, rfl⟩
        · exact ⟨by simp, text, .last htext, rfl⟩
        · refine ⟨Nat.succ_le_succ hlength, text ++ ':' :: more, .cons htext hmore, ?_⟩
          simp [lead]
      · cases h
        exact .inl ⟨rfl, rfl, rfl⟩

theorem side_of_readGroups {limit : Nat} {cs : List Char} {gs : List Nat} {dotted : Bool}
    {rest : List Char} (h : readGroups limit true cs = (gs, dotted, rest)) :
    gs.length ≤ limit ∧ ∃ text, Side dotted gs text ∧ cs = text ++ rest := by
  rcases groups_of_readGroups h with ⟨rfl, rfl, rfl⟩ | ⟨hlength, text, htext, rfl⟩
  · exact ⟨Nat.zero_le _, [], .empty, rfl⟩
  · exact ⟨hlength, text, .groups htext, rfl⟩

/-! ## Version 6 -/

theorem Side.readV4_append {gs : List Nat} {cs rest : List Char} (h : Side false gs cs)
    (hrest : ∀ c ∈ rest.head?, c = ':') : readV4 (cs ++ rest) = none := by
  cases h with
  | empty => exact readV4_eq_none (by simp) hrest
  | groups hgroups =>
    cases hgroups with
    | last hgroup => exact hgroup.readV4_append hrest
    | cons hgroup _ =>
      rw [List.append_assoc]
      exact hgroup.readV4_append (by simp)

theorem Groups.readV4_eq_none {dotted : Bool} {gs : List Nat} {cs : List Char}
    (h : Groups dotted gs cs) (hlength : gs.length = 8) : readV4 cs = none := by
  cases h with
  | last => cases hlength
  | dotted => cases hlength
  | cons hgroup _ => exact hgroup.readV4_append (by simp)

theorem readV6_full {dotted : Bool} {gs : List Nat} {cs : List Char} (h : Groups dotted gs cs)
    (hlength : gs.length = 8) : readV6 cs = some (ofGroups gs, []) := by
  have hread : readGroups 8 true cs = (gs, dotted, []) := by
    simpa [lead] using readGroups_append h hlength.le true (.inl rfl)
  simp only [readV6, hread, if_pos hlength, Option.pure_def]

theorem readV6_compressed {dotted : Bool} {head tail : List Nat} {front back : List Char}
    (hhead : Side false head front) (htail : Side dotted tail back)
    (hlength : head.length + tail.length ≤ 7) :
    readV6 (front ++ ':' :: ':' :: back) =
      some (ofGroups (head ++ List.replicate (8 - head.length - tail.length) 0 ++ tail), []) := by
  have hfront : readGroups 8 true (front ++ ':' :: ':' :: back) =
      (head, false, ':' :: ':' :: back) :=
    readGroups_side hhead (by omega) (.inr ⟨back, rfl⟩)
  have hback : readGroups (7 - head.length) true back = (tail, dotted, []) := by
    simpa using readGroups_side htail (by omega) (.inl rfl)
  have hshort : ¬ head.length = 8 := by omega
  simp only [readV6, hfront, if_neg hshort, Bool.false_eq_true, if_false, readChar_cons, hback,
    Option.bind_eq_bind, Option.bind_some, Option.pure_def]

theorem denotes_of_readV6 {cs : List Char} {a : IpAddress} (h : readV6 cs = some (a, [])) :
    Denotes cs a := by
  obtain ⟨head, dotted, after, hread⟩ : ∃ head dotted after,
    readGroups 8 true cs = (head, dotted, after) := ⟨_, _, _, rfl⟩
  obtain ⟨hlimit, front, hfront, rfl⟩ := side_of_readGroups hread
  simp only [readV6, hread, Option.bind_eq_bind, Option.pure_def] at h
  split at h
  · next hlength =>
    obtain ⟨rfl, rfl⟩ := Prod.mk.inj (Option.some.inj h)
    rw [List.append_nil]
    cases hfront with
    | empty => cases hlength
    | groups hgroups => exact .full hgroups hlength
  · next hlength =>
    cases dotted with
    | true => cases h
    | false =>
      simp only [Bool.false_eq_true, if_false, Option.bind_eq_some_iff, readChar_eq_some_iff] at h
      obtain ⟨after, rfl, back, rfl, h⟩ := h
      obtain ⟨tail, dotted, rest, hback⟩ : ∃ tail dotted rest,
        readGroups (7 - head.length) true back = (tail, dotted, rest) := ⟨_, _, _, rfl⟩
      obtain ⟨hmore, text, htail, rfl⟩ := side_of_readGroups hback
      have hsum : head.length + tail.length ≤ 7 := by omega
      rw [hback] at h
      obtain ⟨rfl, rfl⟩ := Prod.mk.inj (Option.some.inj h)
      rw [List.append_nil]
      exact .compressed hfront htail hsum

/-- Reading a text gives the address that it denotes, and fails only if it denotes none. -/
theorem ofText?_eq_some_iff {text : String} {a : IpAddress} :
    ofText? text = some a ↔ Denotes text.toList a := by
  constructor
  · intro h
    simp only [ofText?] at h
    split at h
    · next hread =>
      obtain rfl := Option.some.inj h
      split at hread
      · next n rest hv4 =>
        obtain ⟨rfl, rfl⟩ := Prod.mk.inj (Option.some.inj hread)
        obtain ⟨digits, hdotted, heq⟩ := exists_of_readV4 hv4
        rw [heq, List.append_nil]
        exact .v4 hdotted
      · exact denotes_of_readV6 hread
    · cases h
  · intro h
    simp only [ofText?]
    generalize text.toList = cs at h
    cases h with
    | v4 hdotted =>
      rw [← List.append_nil cs, IpAddress.readV4_append hdotted (by simp)]
    | full hgroups hlength =>
      rw [hgroups.readV4_eq_none hlength, readV6_full hgroups hlength]
    | compressed hhead htail hlength =>
      rw [hhead.readV4_append (by simp), readV6_compressed hhead htail hlength]

/-- Whether a text is an address in some notation. -/
def IsNotation (text : String) : Prop := ∃ a, Denotes text.toList a

theorem isNotation_iff {text : String} : IsNotation text ↔ (ofText? text).isSome = true := by
  simp only [IsNotation, ← ofText?_eq_some_iff, Option.isSome_iff_exists]

instance : DecidablePred IsNotation := fun _ => decidable_of_iff _ isNotation_iff.symm

/-- The double colon and the last two groups may be written in many ways, but not twice. -/
example : IsNotation "::ffff:10.0.0.5" ∧ IsNotation "FE80:0:0::1" ∧ ¬ IsNotation "fe80::1::2" ∧
    ¬ IsNotation "10.0.0.05" := by decide +kernel

end FeatureToggle.IpAddress
