import FeatureToggle.Calendar
import FeatureToggle.Proofs.Numerals
import Mathlib.Data.List.Lex
import Mathlib.Data.List.TakeWhile

/-!
# Instants in their texts and in their order

Which dates there are and which instant a text in full figures names, said apart from how the text is
read. A text of that form is read as the instant that it names, or is out of range if its numbers
name none (`readChars_of_occurs`, `readChars_of_not_occurs`). Instants are compared in the
lexicographic order of their parts (`before_iff`).
-/
namespace FeatureToggle

/-! ## Order -/

namespace Instant

/-- The parts of an instant, from the largest to the smallest. -/
def fields (t : Instant) : List Int := t.year :: t.parts.map Int.ofNat

/-- At the first part in which two instants differ, the earlier one has the smaller number. -/
def Earlier (a b : Instant) : Prop := List.Lex (· < ·) a.fields b.fields

theorem partsBefore_iff {as bs : List Nat} (h : as.length = bs.length) :
    partsBefore as bs = true ↔ List.Lex (· < ·) (as.map Int.ofNat) (bs.map Int.ofNat) := by
  induction as generalizing bs with
  | nil =>
    obtain rfl : bs = [] := List.length_eq_zero_iff.1 h.symm
    simp [partsBefore]
  | cons a as ih =>
    cases bs with
    | nil => cases h
    | cons b bs =>
      have hlength : as.length = bs.length := by simpa using h
      simp only [partsBefore, Bool.or_eq_true, Bool.and_eq_true, decide_eq_true_eq, beq_iff_eq,
        ih hlength, List.map_cons, List.cons_lex_cons_iff, Int.ofNat_eq_natCast, Nat.cast_inj,
        Nat.cast_lt]

theorem before_iff {a b : Instant} : a.before b = true ↔ a.Earlier b := by
  have hparts := @partsBefore_iff a.parts b.parts rfl
  simp only [before, Earlier, fields, Bool.or_eq_true, Bool.and_eq_true, decide_eq_true_eq,
    beq_iff_eq, List.cons_lex_cons_iff, hparts]

theorem Earlier.trans {a b c : Instant} (hab : a.Earlier b) (hbc : b.Earlier c) : a.Earlier c :=
  List.lt_trans hab hbc

/-- The instant of a date and a time of day. The second 60 is the leap second after the second 59. -/
def ofFigures (year month day hour minute second : Nat) : Instant :=
  if second = 60 then ⟨year, month, day, hour, minute, 59, 1000000000⟩
  else ⟨year, month, day, hour, minute, second, 0⟩

end Instant

/-! ## The calendar -/

/-- A year with a leap day: every fourth one, but of the full centuries only every fourth. -/
def LeapYear (year : Int) : Prop := 4 ∣ year ∧ (100 ∣ year → 400 ∣ year)

/-- The dates of the proleptic Gregorian calendar. -/
inductive Gregorian (year : Int) : Nat → Nat → Prop where
  | long {month day : Nat} : month ∈ [1, 3, 5, 7, 8, 10, 12] → 1 ≤ day → day ≤ 31 →
    Gregorian year month day
  | short {month day : Nat} : month ∈ [4, 6, 9, 11] → 1 ≤ day → day ≤ 30 →
    Gregorian year month day
  | february {day : Nat} : 1 ≤ day → day ≤ 28 → Gregorian year 2 day
  | leapDay : LeapYear year → Gregorian year 2 29

namespace Calendar

theorem isLeapYear_iff {year : Int} : isLeapYear year = true ↔ LeapYear year := by
  simp only [isLeapYear, LeapYear, Bool.and_eq_true, Bool.or_eq_true, beq_iff_eq, bne_iff_ne]
  omega

theorem daysInMonth_le (year : Int) (month : Nat) : daysInMonth year month ≤ 31 := by
  rw [daysInMonth]
  split_ifs <;> omega

/-- A date exists if its day is one of its month, which in turn is one of the year. -/
theorem gregorian_iff {year : Int} {month day : Nat} :
    Gregorian year month day ↔
      1 ≤ month ∧ month ≤ 12 ∧ 1 ≤ day ∧ day ≤ daysInMonth year month := by
  constructor
  · intro h
    cases h with
    | long hmonth hlow hhigh =>
      have hdays : daysInMonth year month = 31 := by
        simp only [List.mem_cons, List.not_mem_nil, or_false] at hmonth
        rcases hmonth with rfl | rfl | rfl | rfl | rfl | rfl | rfl <;> rfl
      simp only [List.mem_cons, List.not_mem_nil, or_false] at hmonth
      omega
    | short hmonth hlow hhigh =>
      have hdays : daysInMonth year month = 30 := by
        simp only [List.mem_cons, List.not_mem_nil, or_false] at hmonth
        rcases hmonth with rfl | rfl | rfl | rfl <;> rfl
      simp only [List.mem_cons, List.not_mem_nil, or_false] at hmonth
      omega
    | february hlow hhigh =>
      have hdays : 28 ≤ daysInMonth year 2 := by
        rw [daysInMonth, if_pos rfl]
        split <;> omega
      omega
    | leapDay hleap =>
      have hdays : daysInMonth year 2 = 29 := by
        rw [daysInMonth, if_pos rfl, if_pos (isLeapYear_iff.2 hleap)]
      omega
  · rintro ⟨hfirst, hlast, hlow, hhigh⟩
    rw [daysInMonth] at hhigh
    split at hhigh
    · next hfebruary =>
      subst hfebruary
      by_cases hday : day ≤ 28
      · exact .february hlow hday
      · have hleap : isLeapYear year = true := by
          by_contra hcommon
          rw [if_neg hcommon] at hhigh
          omega
        obtain rfl : day = 29 := by
          rw [if_pos hleap] at hhigh
          omega
        exact .leapDay (isLeapYear_iff.1 hleap)
    · next hfebruary =>
      split at hhigh
      · next hshort => exact .short hshort hlow hhigh
      · next hshort =>
        refine .long ?_ hlow hhigh
        simp only [List.mem_cons, List.not_mem_nil, or_false] at hshort ⊢
        omega

theorem dateExists_iff {year : Int} (hfirst : firstYear ≤ year) (hlast : year ≤ lastYear)
    {month day : Nat} : dateExists year month day = true ↔ Gregorian year month day := by
  rw [gregorian_iff, dateExists]
  simp only [hfirst, hlast, decide_true, Bool.true_and, Bool.and_eq_true, decide_eq_true_eq,
    and_assoc]

/-! ## Figures -/

/-- A number in exactly so many ASCII digits. -/
structure Figures (width n : Nat) (cs : List Char) : Prop where
  length : cs.length = width
  ascii : ∀ c ∈ cs, c.isDigit = true
  value : Text.decimal cs = n

/-- No digit of ASCII is blank. -/
theorem isBlank_of_isDigit {c : Char} (h : c.isDigit = true) : Text.isBlank c = false := by
  have hcovers : Text.covers [(0x30, 0x39)] c = true :=
    Text.covers_iff.2 ⟨_, List.mem_singleton_self _, Text.bounds_of_isDigit h⟩
  exact Text.covers_of_apart (by decide) hcovers

theorem ok_bind {ε α β : Type} (a : α) (f : α → Except ε β) : (Except.ok a >>= f) = f a := rfl

theorem ite_bind {ε α β : Type} (c : Prop) [Decidable c] (a : α) (e : ε) (f : α → Except ε β) :
    ((if c then Except.ok a else .error e) >>= f) = if c then f a else .error e := by
  split
  · rfl
  · rfl

theorem readLiteral_cons (c : Char) (cs : List Char) : readLiteral c (c :: cs) = .ok cs :=
  if_pos rfl

section Figures

variable {width n : Nat} {cs : List Char}

theorem Figures.exists_cons (h : Figures (width + 1) n cs) :
    ∃ c rest, cs = c :: rest ∧ c.isDigit = true := by
  cases cs with
  | nil => cases h.length
  | cons c rest => exact ⟨c, rest, rfl, h.ascii c List.mem_cons_self⟩

theorem Figures.dropBlanks_append (h : Figures (width + 1) n cs) (rest : List Char) :
    Text.dropBlanks (cs ++ rest) = cs ++ rest := by
  obtain ⟨c, ds, rfl, hc⟩ := h.exists_cons
  exact List.dropWhile_cons_of_neg (by simp [isBlank_of_isDigit hc])

/-- Digits are read up to the width, whatever follows. -/
theorem Figures.readDigits_append (h : Figures (width + 1) n cs) (hn : n ≤ largestNumber)
    (rest : List Char) : readDigits (width + 1) (cs ++ rest) = .ok (n, rest) := by
  have htake : takeDigits (width + 1) (cs ++ rest) = cs := by
    rw [takeDigits, ← h.length, List.take_left]
    exact List.takeWhile_eq_self_iff.2 h.ascii
  have hvalue : digitsValue cs = n := (Text.foldl_eq_placeValue cs).trans h.value
  have hdrop : (cs ++ rest).drop cs.length = rest := List.drop_left
  obtain ⟨c, ds, rfl, -⟩ := h.exists_cons
  rw [List.cons_append] at htake hdrop ⊢
  simp only [readDigits, htake, hvalue, if_pos hn, hdrop]

theorem Figures.lt (h : Figures width n cs) : n < 10 ^ width := by
  rw [← h.value, ← h.length]
  exact Text.decimal_lt h.ascii

theorem Figures.readField_append (h : Figures 2 n cs) (low high : Nat) (rest : List Char) :
    readField low high (cs ++ rest) =
      if low ≤ n ∧ n ≤ high then .ok (n, rest) else .error .outOfRange := by
  have hlt := h.lt
  have hn : n ≤ largestNumber := by
    rw [largestNumber]
    omega
  rw [readField, h.dropBlanks_append, h.readDigits_append hn]
  rfl

theorem Figures.readYear_append (h : Figures 4 n cs) (rest : List Char) :
    readYear (cs ++ rest) = .ok ((n : Int), rest) := by
  have hlt := h.lt
  have hn : n ≤ largestNumber := by
    rw [largestNumber]
    omega
  have hread := h.readDigits_append hn rest
  obtain ⟨c, ds, rfl, hc⟩ := h.exists_cons
  have hminus : c ≠ '-' := by
    rintro rfl
    cases hc
  have hplus : c ≠ '+' := by
    rintro rfl
    cases hc
  rw [readYear, h.dropBlanks_append]
  -- A digit is no sign, so that the year is read with four digits at most.
  split
  · next heq => exact absurd (List.cons.inj heq).1 hminus
  · next heq => exact absurd (List.cons.inj heq).1 hplus
  · have hbounds : -0x80000000 ≤ (n : Int) ∧ (n : Int) < 0x80000000 := by omega
    rw [hread, ok_bind]
    simp only [pure_bind]
    rw [if_pos hbounds]
    rfl

end Figures

/-- The text of a date in full figures: `2024-01-31`. -/
def IsDate (year month day : Nat) (cs : List Char) : Prop :=
  ∃ y m d, Figures 4 year y ∧ Figures 2 month m ∧ Figures 2 day d ∧
    cs = y ++ '-' :: (m ++ '-' :: d)

/-- The text of a time of day in full figures: `12:00:00`. -/
def IsTime (hour minute second : Nat) (cs : List Char) : Prop :=
  ∃ h m s, Figures 2 hour h ∧ Figures 2 minute m ∧ Figures 2 second s ∧
    cs = h ++ ':' :: (m ++ ':' :: s)

/-- Numbers that name an instant. -/
structure Occurs (year month day hour minute second : Nat) : Prop where
  date : Gregorian year month day
  hour : hour ≤ 23
  minute : minute ≤ 59
  second : second ≤ 60

section Texts

variable {year month day hour minute second : Nat} {date time : List Char}

/-- The fields of a text are looked at from left to right, and the date as a whole after all of
them. -/
theorem readChars_append (hdate : IsDate year month day date)
    (htime : IsTime hour minute second time) :
    readChars (date ++ 'T' :: time) =
      if (1 ≤ month ∧ month ≤ 12) ∧ (1 ≤ day ∧ day ≤ 31) ∧ (0 ≤ hour ∧ hour ≤ 23) ∧
          (0 ≤ minute ∧ minute ≤ 59) ∧ (0 ≤ second ∧ second ≤ 60) ∧
          dateExists year month day = true then
        .ok (.ofFigures year month day hour minute second)
      else .error .outOfRange := by
  obtain ⟨y, m, d, hy, hm, hd, rfl⟩ := hdate
  obtain ⟨h, n, s, hh, hn, hs, rfl⟩ := htime
  have hlast := hs.readField_append 0 60 []
  rw [List.append_nil] at hlast
  have hleap : (if second = 60 then pure ⟨year, month, day, hour, minute, 59, 1000000000⟩
      else pure ⟨year, month, day, hour, minute, second, 0⟩ : Except ReadError Instant) =
      .ok (.ofFigures year month day hour minute second) := by
    rw [Instant.ofFigures]
    split
    · rfl
    · rfl
  simp only [List.append_assoc, List.cons_append, readChars, hy.readYear_append, ok_bind,
    readLiteral_cons, hm.readField_append, hd.readField_append, hh.readField_append,
    hn.readField_append, hlast, ite_bind, ne_eq, not_true_eq_false, if_false, hleap]
  simp only [ite_and]
  rfl

theorem occurs_iff (hyear : year ≤ 9999) :
    Occurs year month day hour minute second ↔
      (1 ≤ month ∧ month ≤ 12) ∧ (1 ≤ day ∧ day ≤ 31) ∧ (0 ≤ hour ∧ hour ≤ 23) ∧
        (0 ≤ minute ∧ minute ≤ 59) ∧ (0 ≤ second ∧ second ≤ 60) ∧
        dateExists year month day = true := by
  have hexists : dateExists year month day = true ↔ Gregorian year month day := by
    apply dateExists_iff
    · rw [firstYear]
      omega
    · rw [lastYear]
      omega
  rw [hexists]
  constructor
  · rintro ⟨hdate, hhour, hminute, hsecond⟩
    obtain ⟨hfirst, hlast, hlow, hhigh⟩ := gregorian_iff.1 hdate
    have hdays := daysInMonth_le year month
    exact ⟨by omega, by omega, by omega, by omega, by omega, hdate⟩
  · rintro ⟨-, -, hhour, hminute, hsecond, hdate⟩
    exact ⟨hdate, hhour.2, hminute.2, hsecond.2⟩

theorem IsDate.year_le (hdate : IsDate year month day date) : year ≤ 9999 := by
  obtain ⟨y, m, d, hy, -, -, -⟩ := hdate
  have hlt := hy.lt
  omega

/-- A text in full figures is read as the instant that it names. -/
theorem readChars_of_occurs (hdate : IsDate year month day date)
    (htime : IsTime hour minute second time) (h : Occurs year month day hour minute second) :
    readChars (date ++ 'T' :: time) = .ok (.ofFigures year month day hour minute second) := by
  rw [readChars_append hdate htime, if_pos ((occurs_iff hdate.year_le).1 h)]

/-- It is out of range if it names none. -/
theorem readChars_of_not_occurs (hdate : IsDate year month day date)
    (htime : IsTime hour minute second time) (h : ¬ Occurs year month day hour minute second) :
    readChars (date ++ 'T' :: time) = .error .outOfRange := by
  rw [readChars_append hdate htime, if_neg fun hall => h ((occurs_iff hdate.year_le).2 hall)]

end Texts

end Calendar

end FeatureToggle
