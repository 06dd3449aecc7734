import FeatureToggle.Proofs.Instants
import FeatureToggle.Strategy.Release

/-!
# Releases at an instant

A state that sets a date and a time of day in full figures is released at exactly the instant that
they name, and never if they name none, which is logged. Who is asked later than the release gets
the feature, so that time only ever activates it and a later release only ever takes it away
(`released_exactly`).
-/
namespace FeatureToggle.Strategy

open Calendar

/-- The state sets a date in full figures, up to blanks around it. -/
def SetsDate (s : FeatureState) (year month day : Nat) : Prop :=
  ∃ text, s.parameter dateParameter = some text ∧ IsDate year month day (Text.trim text).toList

/-- The state sets a time of day in full figures, up to blanks around it, or midnight by saying
nothing. -/
inductive SetsTime (s : FeatureState) : Nat → Nat → Nat → Prop where
  | missing : s.parameter timeParameter = none → SetsTime s 0 0 0
  | blank {text : String} : s.parameter timeParameter = some text →
    (∀ c ∈ text.toList, Text.isBlank c = true) → SetsTime s 0 0 0
  | figures {text : String} {hour minute second : Nat} : s.parameter timeParameter = some text →
    IsTime hour minute second (Text.trim text).toList → SetsTime s hour minute second

theorem isTime_midnight : IsTime 0 0 0 midnight.toList := by
  have hzero : Figures 2 0 ['0', '0'] := ⟨rfl, List.all_eq_true.1 rfl, rfl⟩
  exact ⟨['0', '0'], ['0', '0'], ['0', '0'], hzero, hzero, hzero, rfl⟩

theorem ne_empty_of_isTime {text : String} {hour minute second : Nat}
    (h : IsTime hour minute second text.toList) : text ≠ "" := by
  obtain ⟨h, m, s, -, -, -, heq⟩ := h
  rintro rfl
  simp at heq

section Reading

variable {s : FeatureState} {year month day hour minute second : Nat}

/-- The text of the release instant is the date, a letter, and the time of day. -/
theorem exists_releaseText (hdate : SetsDate s year month day) (htime : SetsTime s hour minute second) :
    ∃ date time, (releaseText s).toList = date ++ 'T' :: time ∧ IsDate year month day date ∧
      IsTime hour minute second time := by
  obtain ⟨text, htext, hfigures⟩ := hdate
  have hsplit (time : String)
      (h : (if Text.trim ((s.parameter timeParameter).getD "") = "" then midnight
        else Text.trim ((s.parameter timeParameter).getD "")) = time) :
      (releaseText s).toList = (Text.trim text).toList ++ 'T' :: time.toList := by
    simp only [releaseText, htext, Option.getD_some, h, String.toList_append, List.append_assoc]
    rfl
  cases htime with
  | missing hmissing =>
    refine ⟨_, _, hsplit midnight ?_, hfigures, isTime_midnight⟩
    rw [hmissing, Option.getD_none]
    exact if_pos rfl
  | blank hset hblank =>
    refine ⟨_, _, hsplit midnight ?_, hfigures, isTime_midnight⟩
    rw [hset, Option.getD_some, Text.trim, Text.trimChars_eq_nil_iff.2 hblank]
    exact if_pos rfl
  | figures hset htext =>
    refine ⟨_, _, hsplit _ ?_, hfigures, htext⟩
    rw [hset, Option.getD_some, if_neg (ne_empty_of_isTime htext)]

theorem release_of_occurs (hdate : SetsDate s year month day)
    (htime : SetsTime s hour minute second) (h : Occurs year month day hour minute second) :
    release s = ⟨some (.ofFigures year month day hour minute second), []⟩ := by
  obtain ⟨date, time, htext, hdate, htime⟩ := exists_releaseText hdate htime
  simp only [release, Calendar.read, htext, readChars_of_occurs hdate htime h]
  rfl

theorem release_of_not_occurs (hdate : SetsDate s year month day)
    (htime : SetsTime s hour minute second) (h : ¬ Occurs year month day hour minute second) :
    release s = ⟨none, [.logged (.invalidRelease s.feature (releaseText s) .outOfRange)]⟩ := by
  obtain ⟨date, time, htext, hdate, htime⟩ := exists_releaseText hdate htime
  simp only [release, Calendar.read, htext, readChars_of_not_occurs hdate htime h]
  rfl

end Reading

/-! ## Decisions -/

theorem isActive_releaseDate (now : Instant) (s : FeatureState) (user : Option User) :
    (releaseDate now).isActive s user =
      ⟨(release s).value.any fun r => r.before now, (release s).events⟩ := by
  change isReleased now s = _
  rw [isReleased]
  apply Traced.ext
  · rw [Traced.value_bind, Traced.value_pure]
  · rw [Traced.events_bind, Traced.events_pure, List.append_nil]

/-- Whether a feature is released when the clock shows `now`. -/
def Released (now : Instant) (s : FeatureState) (user : Option User) : Prop :=
  ((releaseDate now).isActive s user).value = true

theorem released_iff {now : Instant} {s : FeatureState} {user : Option User} :
    Released now s user ↔ ∃ r, (release s).value = some r ∧ r.Earlier now := by
  simp only [Released, isActive_releaseDate, Option.any_eq_true, Instant.before_iff]

/-- The release of a state whose date and time of day are in full figures. -/
structure ReleasedAt (s : FeatureState) (year month day hour minute second : Nat) : Prop where
  instant : ∀ r, (release s).value = some r ↔
    Occurs year month day hour minute second ∧
      r = .ofFigures year month day hour minute second
  quiet : Occurs year month day hour minute second → (release s).events = []
  refused : ¬ Occurs year month day hour minute second → (release s).value = none ∧
    ∃ record : LogRecord, (release s).events = [.logged record] ∧ record.level = .error ∧
      record = .invalidRelease s.feature (releaseText s) .outOfRange

theorem releasedAt {s : FeatureState} {year month day hour minute second : Nat}
    (hdate : SetsDate s year month day) (htime : SetsTime s hour minute second) :
    ReleasedAt s year month day hour minute second where
  instant r := by
    by_cases h : Occurs year month day hour minute second
    · simp [release_of_occurs hdate htime h, h, eq_comm]
    · simp [release_of_not_occurs hdate htime h, h]
  quiet h := by rw [release_of_occurs hdate htime h]
  refused h := by
    rw [release_of_not_occurs hdate htime h]
    exact ⟨rfl, _, rfl, rfl, rfl⟩

/-- The release is the instant that is written, and what the clock shows is compared with it. -/
theorem released_exactly (s : FeatureState) :
    (∀ year month day hour minute second, SetsDate s year month day →
      SetsTime s hour minute second → ReleasedAt s year month day hour minute second) ∧
    (∀ now user,
      ((releaseDate now).isActive s user).events = (release s).events ∧
        (Released now s user ↔ ∃ r, (release s).value = some r ∧ r.Earlier now)) ∧
    (∀ now now' user, now = now' ∨ now.Earlier now' → Released now s user →
      Released now' s user) ∧
    ∀ s' r r' now user, (release s).value = some r → (release s').value = some r' →
      r = r' ∨ r.Earlier r' → Released now s' user → Released now s user := by
  refine ⟨fun year month day hour minute second => releasedAt, fun now user => ⟨?_, released_iff⟩,
    fun now now' user hlater h => ?_, fun s' r r' now user hr hr' hlater h => ?_⟩
  · rw [isActive_releaseDate]
  · rw [released_iff] at h ⊢
    obtain ⟨r, hr, hearlier⟩ := h
    rcases hlater with rfl | hlater
    · exact ⟨r, hr, hearlier⟩
    · exact ⟨r, hr, hearlier.trans hlater⟩
  · rw [released_iff] at h ⊢
    obtain ⟨r'', hr'', hearlier⟩ := h
    obtain rfl : r' = r'' := Option.some.inj (hr'.symm.trans hr'')
    rcases hlater with rfl | hlater
    · exact ⟨r, hr, hearlier⟩
    · exact ⟨r, hr, hlater.trans hearlier⟩

/-- A leap second on a leap day: released from the moment after it, but not in it. -/
theorem released_exactly_leapSecond :
    let s : FeatureState := ((FeatureState.of "F1" true).setParameter dateParameter
      (some " 2024-02-29\n")).setParameter timeParameter (some "\t23:59:60")
    let leap : Instant := ⟨2024, 2, 29, 23, 59, 59, 1000000000⟩
    let next : Instant := ⟨2024, 3, 1, 0, 0, 0, 0⟩
    SetsDate s 2024 2 29 ∧ SetsTime s 23 59 60 ∧ Occurs 2024 2 29 23 59 60 ∧
      (release s).value = some leap ∧ ¬ Released leap s none ∧ Released next s none := by
  intro s leap next
  have hdate : SetsDate s 2024 2 29 := by
    refine ⟨" 2024-02-29\n", by simp [s, dateParameter, timeParameter], ?_⟩
    exact ⟨['2', '0', '2', '4'], ['0', '2'], ['2', '9'], ⟨rfl, List.all_eq_true.1 rfl, rfl⟩,
      ⟨rfl, List.all_eq_true.1 rfl, rfl⟩, ⟨rfl, List.all_eq_true.1 rfl, rfl⟩, by decide⟩
  have htime : SetsTime s 23 59 60 := by
    have htext : s.parameter timeParameter = some "\t23:59:60" := by simp [s]
    refine .figures htext ?_
    exact ⟨['2', '3'], ['5', '9'], ['6', '0'], ⟨rfl, List.all_eq_true.1 rfl, rfl⟩,
      ⟨rfl, List.all_eq_true.1 rfl, rfl⟩, ⟨rfl, List.all_eq_true.1 rfl, rfl⟩, by decide⟩
  have hleap : LeapYear ((2024 : Nat) : Int) := isLeapYear_iff.1 (by decide)
  have hoccurs : Occurs 2024 2 29 23 59 60 := ⟨.leapDay hleap, by omega, by omega, by omega⟩
  obtain ⟨hread, hclock, -, -⟩ := released_exactly s
  have hrelease : (release s).value = some leap :=
    ((hread _ _ _ _ _ _ hdate htime).instant leap).2 ⟨hoccurs, rfl⟩
  have hiff (now : Instant) : Released now s none ↔ leap.Earlier now := by
    rw [(hclock now none).2, hrelease]
    simp
  refine ⟨hdate, htime, hoccurs, hrelease, ?_, ?_⟩
  · rw [hiff, ← Instant.before_iff]
    decide
  · rw [hiff, ← Instant.before_iff]
    decide

end FeatureToggle.Strategy
