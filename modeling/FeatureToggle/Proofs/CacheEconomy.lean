import FeatureToggle.Proofs.Staleness

/-!
# Economy of a cache

A cache asks the repository behind it only if it must: if nothing was answered about the feature
since it was last written or the cache was cleared, or if the answer is too old by now
(`Caching.thrifty_record`). To tell what it asks, the repository is put behind a meter, which takes
down every request that comes through and changes nothing else. Requests may take time here.
-/
namespace FeatureToggle

open FeatureToggle.Action

/-! ## Meters -/

/-- What passes between a cache and the repository behind it, and that the cache is cleared. -/
inductive Dealing where
  /-- A read with its answer, and the reading of the clock when the answer came. -/
  | asked (feature : String) (answer : Except Error (Option FeatureState)) (time : Nat)
  | wrote (state : FeatureState)
  | cleared

/-- A world with the dealings so far. -/
structure Metered (σ : Type) where
  world : σ
  dealings : List Dealing

section Meters

variable {σ α κ : Type}

/-- Takes down what `note` makes of the result of an action and of the world that it leaves. -/
def Action.metered (x : Action σ α) (note : α → σ → Dealing) : Action (Metered σ) α := ⟨fun m =>
  let y := x.run m.world
  ⟨(y.value.1, ⟨y.value.2, m.dealings ++ [note y.value.1 y.value.2]⟩), y.events⟩⟩

def Slot.metered (slot : Slot σ κ) : Slot (Metered σ) κ where
  get m := slot.get m.world
  put k m := { m with world := slot.put k m.world }
  get_put := by simp
  put_get := by simp
  put_put := by simp

def Repository.metered (clock : σ → Nat) (inner : Repository σ) : Repository (Metered σ) where
  read feature := (inner.read feature).metered fun answer w => .asked feature answer (clock w)
  write s := (inner.write s).metered fun _ _ => .wrote s

end Meters

/-! ## What is on record -/

/-- Whether after the dealings an answer about the feature no longer counts. -/
def Dealing.Evicts (feature : String) : Dealing → Prop
  | .wrote s => s.feature = feature
  | .cleared => True
  | .asked _ _ _ => False

/-- The answer about the feature that counts after one more dealing. Absence is an answer, and a
failure is none. -/
def Dealing.update (feature : String) (answer : Option CacheEntry) : Dealing → Option CacheEntry
  | .asked other (.ok state) time => if other = feature then some ⟨state, time⟩ else answer
  | .asked _ (.error _) _ => answer
  | .wrote s => if s.feature = feature then none else answer
  | .cleared => none

/-- The last answer about the feature, unless the feature was written or the cache cleared since. -/
def lastAnswer (feature : String) (dealings : List Dealing) : Option CacheEntry :=
  dealings.foldl (Dealing.update feature) none

/-- Whether there is no answer or only one that is too old. -/
def Due (ttl now : Nat) : Option CacheEntry → Prop
  | none => True
  | some answer => ttl ≠ 0 ∧ answer.time + ttl < now

theorem Due.mono {ttl now later : Nat} {answer : Option CacheEntry} (h : Due ttl now answer)
    (hle : now ≤ later) : Due ttl later answer := by
  cases answer with
  | none => trivial
  | some e => exact ⟨h.1, Nat.lt_of_lt_of_le h.2 hle⟩

/-- Two answers about a feature that was not evicted in between lie further apart than answers
keep. -/
def Spaced (ttl : Nat) (dealings : List Dealing) : Prop :=
  ∀ feature before between after state time state' time',
    dealings = before ++ .asked feature (.ok state) time ::
      (between ++ .asked feature (.ok state') time' :: after) →
    (∀ d ∈ between, ¬ d.Evicts feature) → ttl ≠ 0 ∧ time + ttl < time'

section Record

variable {feature : String} {ttl now : Nat} {dealings : List Dealing}

theorem lastAnswer_append (dealings rest : List Dealing) :
    lastAnswer feature (dealings ++ rest) =
      rest.foldl (Dealing.update feature) (lastAnswer feature dealings) :=
  List.foldl_append

theorem Dealing.update_of_not_evicts {d : Dealing} (h : ¬ d.Evicts feature) (e : CacheEntry) :
    d.update feature (some e) = some e ∨
      ∃ state time, d = .asked feature (.ok state) time ∧
        d.update feature (some e) = some ⟨state, time⟩ := by
  cases d with
  | asked other answer time =>
    cases answer with
    | error _ => exact .inl rfl
    | ok state =>
      by_cases ho : other = feature
      · exact .inr ⟨state, time, by rw [ho], if_pos ho⟩
      · exact .inl (if_neg ho)
  | wrote s => exact .inl (if_neg h)
  | cleared => exact absurd trivial h

/-- An answer counts until it is evicted or a later one takes its place. -/
theorem exists_lastAnswer (before : List Dealing) (state : Option FeatureState) (time : Nat)
    {between : List Dealing} (h : ∀ d ∈ between, ¬ d.Evicts feature) :
    ∃ e, lastAnswer feature (before ++ .asked feature (.ok state) time :: between) = some e ∧
      (e.time = time ∨ ∃ earlier later state',
        between = earlier ++ .asked feature (.ok state') e.time :: later) := by
  induction between using List.reverseRecOn with
  | nil =>
    refine ⟨⟨state, time⟩, ?_, .inl rfl⟩
    rw [lastAnswer_append]
    exact if_pos rfl
  | append_singleton between d ih =>
    obtain ⟨e, he, horigin⟩ := ih fun d' hd' => h d' (List.mem_append_left _ hd')
    have hd := h d (List.mem_append_right _ (List.mem_singleton_self d))
    have hsplit : before ++ .asked feature (.ok state) time :: (between ++ [d]) =
        (before ++ .asked feature (.ok state) time :: between) ++ [d] := by simp
    rw [hsplit, lastAnswer_append, he]
    rcases Dealing.update_of_not_evicts hd e with hsame | ⟨state', time', rfl, hnew⟩
    · refine ⟨e, hsame, horigin.imp id ?_⟩
      rintro ⟨earlier, later, state', rfl⟩
      exact ⟨earlier, later ++ [d], state', by simp⟩
    · exact ⟨⟨state', time'⟩, hnew, .inr ⟨between, [], state', rfl⟩⟩

/-- Dealings stay spaced if one more answer comes only after the last one is too old. -/
theorem Spaced.snoc (h : Spaced ttl dealings) {d : Dealing}
    (hd : ∀ feature state time, d = .asked feature (.ok state) time →
      ∀ e, lastAnswer feature dealings = some e → ttl ≠ 0 ∧ e.time + ttl < time) :
    Spaced ttl (dealings ++ [d]) := by
  intro feature before between after state time state' time' heq hbetween
  rcases List.eq_nil_or_concat after with rfl | ⟨after, last, rfl⟩
  · have hconcat : before ++ .asked feature (.ok state) time ::
        (between ++ [.asked feature (.ok state') time']) =
          (before ++ .asked feature (.ok state) time :: between) ++
            [.asked feature (.ok state') time'] := by simp
    obtain ⟨rfl, hlast⟩ := List.append_inj' (heq.trans hconcat) rfl
    obtain ⟨e, he, horigin⟩ := exists_lastAnswer before state time hbetween
    obtain ⟨httl, hlate⟩ := hd feature state' time' (List.head_eq_of_cons_eq hlast) e he
    rcases horigin with rfl | ⟨earlier, later, state'', rfl⟩
    · exact ⟨httl, hlate⟩
    · have hfirst := h feature before earlier later state time state'' e.time rfl
        fun d' hd' => hbetween d' (List.mem_append_left _ hd')
      exact ⟨httl, by omega⟩
  · rw [List.concat_eq_append] at heq
    have hconcat : before ++ .asked feature (.ok state) time ::
        (between ++ .asked feature (.ok state') time' :: (after ++ [last])) =
          (before ++ .asked feature (.ok state) time ::
            (between ++ .asked feature (.ok state') time' :: after)) ++ [last] := by simp
    obtain ⟨rfl, -⟩ := List.append_inj' (heq.trans hconcat) rfl
    exact h feature before between after state time state' time' rfl hbetween

end Record

namespace Caching

variable {σ : Type} (c : Caching σ)

/-- The same cache with a meter between it and the repository behind it. -/
def metered : Caching (Metered σ) :=
  ⟨c.slot.metered, fun m => c.clock m.world, c.ttl, c.inner.metered c.clock⟩

/-- Requests to the repository behind the cache leave alone what the cache remembers, and time does
not run backwards while a read goes on. -/
structure Secluded : Prop where
  read : ∀ feature w, c.slot.get ((c.inner.read feature).after w) = c.slot.get w
  write : ∀ s w, c.slot.get ((c.inner.write s).after w) = c.slot.get w
  clock : ∀ feature w, c.clock w ≤ c.clock ((c.inner.read feature).after w)

theorem Private.secluded {c : Caching σ} (h : c.Private) : c.Secluded where
  read feature w := (h.read feature w).slot
  write s w := (h.write s w).slot
  clock feature w := Nat.le_of_eq (h.read feature w).clock.symm

/-- A step of the metered cache. -/
def meter (m : Metered σ) : c.Step → Metered σ
  | .read feature => (c.metered.repository.read feature).after m
  | .write s => (c.metered.repository.write s).after m
  | .clear => ⟨c.slot.put .empty m.world, m.dealings ++ [.cleared]⟩
  | .outside o => { m with world := o.change m.world }

/-- The world and the dealings after a run. -/
def record (w : σ) (steps : List c.Step) : Metered σ := steps.foldl c.meter ⟨w, []⟩

/-- The question that a read comes to and the answer to it. -/
def question (feature : String) (w : σ) : Dealing :=
  .asked feature ((c.inner.read feature).result w) (c.clock ((c.inner.read feature).after w))

/-- The dealings of a step. -/
def dealings (w : σ) : c.Step → List Dealing
  | .read feature =>
    match c.fresh? feature w with
    | some _ => []
    | none => [c.question feature w]
  | .write s => [.wrote s]
  | .clear => [.cleared]
  | .outside _ => []

variable {c} {feature : String} {w : σ}

theorem fresh?_eq_none :
    c.fresh? feature w = none ↔ Due c.ttl (c.clock w) ((c.slot.get w).get? feature) := by
  rw [fresh?, Cache.fresh?]
  cases (c.slot.get w).get? feature with
  | none => simp [Due]
  | some entry =>
    simp only [Option.filter_eq_none_iff, Option.some.injEq, forall_eq', CacheEntry.isFresh, Due,
      Bool.or_eq_true, beq_iff_eq, decide_eq_true_eq, not_or]
    omega

/-! ## Single steps -/

/-- The meter takes down what a read asks, and changes nothing else. -/
theorem run_metered_read (feature : String) (m : Metered σ) :
    (c.metered.repository.read feature).run m =
      ⟨((c.repository.read feature).result m.world, ⟨(c.repository.read feature).after m.world,
        m.dealings ++ c.dealings m.world (.read feature)⟩),
        (c.repository.read feature).events m.world⟩ := by
  rw [Action.result, Action.after, Action.events]
  cases hfresh : c.fresh? feature m.world with
  | some entry =>
    have hplain : (c.repository.read feature).run m.world = _ :=
      Repository.run_cached_read_of_fresh hfresh
    have hmetered : (c.metered.repository.read feature).run m = _ :=
      @Repository.run_cached_read_of_fresh _ c.metered.slot _ _ _ _ _ _ hfresh
    rw [hplain, hmetered, dealings, hfresh]
    simp
  | none =>
    cases hread : (c.inner.read feature).result m.world with
    | error e =>
      have hplain : (c.repository.read feature).run m.world = _ :=
        Repository.run_cached_read_of_error hfresh hread
      have hmetered : (c.metered.repository.read feature).run m = _ :=
        @Repository.run_cached_read_of_error _ c.metered.slot _ _ _ _ _ _ hfresh hread
      rw [hplain, hmetered, dealings, hfresh]
      rfl
    | ok state =>
      have hplain : (c.repository.read feature).run m.world = _ :=
        Repository.run_cached_read_of_ok hfresh hread
      have hmetered : (c.metered.repository.read feature).run m = _ :=
        @Repository.run_cached_read_of_ok _ c.metered.slot _ _ _ _ _ _ hfresh hread
      rw [hplain, hmetered, dealings, hfresh]
      rfl

theorem meter_eq (m : Metered σ) (s : c.Step) :
    c.meter m s = ⟨c.step m.world s, m.dealings ++ c.dealings m.world s⟩ := by
  cases s with
  | read feature =>
    rw [meter, Action.after, run_metered_read]
    rfl
  | write s =>
    rw [meter, step, repository, repository, Repository.after_cached_write,
      Repository.after_cached_write]
    rfl
  | clear => rfl
  | outside o => simp [meter, step, dealings]

/-- What the cache remembers of a feature changes by the dealings of a step alone. -/
theorem get?_step_eq (h : c.Secluded) (feature : String) (w : σ) (s : c.Step) :
    (c.slot.get (c.step w s)).get? feature =
      (c.dealings w s).foldl (Dealing.update feature) ((c.slot.get w).get? feature) := by
  cases s with
  | read other =>
    rw [step, Action.after, dealings]
    cases hfresh : c.fresh? other w with
    | some entry =>
      have hrun : (c.repository.read other).run w = _ :=
        Repository.run_cached_read_of_fresh hfresh
      rw [hrun]
      rfl
    | none =>
      cases hread : (c.inner.read other).result w with
      | error e =>
        have hrun : (c.repository.read other).run w = _ :=
          Repository.run_cached_read_of_error hfresh hread
        rw [hrun, question, hread]
        exact congrArg (·.get? feature) (h.read other w)
      | ok state =>
        have hrun : (c.repository.read other).run w = _ :=
          Repository.run_cached_read_of_ok hfresh hread
        rw [hrun, question, hread]
        simp only [Slot.get_put, SortedMap.get?_insert, h.read]
        rfl
  | write s =>
    rw [step, repository, Repository.after_cached_write]
    simp only [Slot.get_put, SortedMap.get?_erase, h.write]
    rfl
  | clear =>
    rw [step, Slot.get_put]
    rfl
  | outside o =>
    rw [step, o.slot]
    rfl

/-- The cache remembers what is on record, and has not asked too often. -/
structure OnRecord (c : Caching σ) (m : Metered σ) : Prop where
  remembered : ∀ feature, (c.slot.get m.world).get? feature = lastAnswer feature m.dealings
  spaced : Spaced c.ttl m.dealings

theorem OnRecord.fresh?_eq_none {m : Metered σ} (h : c.OnRecord m) (feature : String) :
    c.fresh? feature m.world = none ↔
      Due c.ttl (c.clock m.world) (lastAnswer feature m.dealings) := by
  rw [Caching.fresh?_eq_none, h.remembered]

theorem OnRecord.meter (hc : c.Secluded) {m : Metered σ} (h : c.OnRecord m) (s : c.Step) :
    c.OnRecord (c.meter m s) := by
  rw [meter_eq]
  constructor
  · intro feature
    dsimp only
    rw [get?_step_eq hc, h.remembered, lastAnswer_append]
  · dsimp only
    cases s with
    | read feature =>
      cases hfresh : c.fresh? feature m.world with
      | some entry =>
        rw [dealings, hfresh, List.append_nil]
        exact h.spaced
      | none =>
        rw [dealings, hfresh]
        refine h.spaced.snoc fun other state time hd e he => ?_
        obtain ⟨rfl, -, rfl⟩ := Dealing.asked.inj hd
        have hdue := (h.fresh?_eq_none feature).1 hfresh
        rw [he] at hdue
        exact ⟨hdue.1, Nat.lt_of_lt_of_le hdue.2 (hc.clock feature m.world)⟩
    | write s => exact h.spaced.snoc fun _ _ _ hd => by cases hd
    | clear => exact h.spaced.snoc fun _ _ _ hd => by cases hd
    | outside o =>
      rw [dealings, List.append_nil]
      exact h.spaced

/-! ## Whole runs -/

/-- Whether the step deals with the feature. -/
def Step.Concerns {c : Caching σ} (feature : String) : c.Step → Prop
  | .read other => other = feature
  | .write s => s.feature = feature
  | .clear => True
  | .outside _ => False

/-- How a cache deals with the repository behind it, given what is on record. -/
structure Thrifty (c : Caching σ) (m : Metered σ) : Prop where
  /-- A read that must ask does so once. -/
  asks : ∀ feature, Due c.ttl (c.clock m.world) (lastAnswer feature m.dealings) →
    (c.meter m (.read feature)).dealings = m.dealings ++ [c.question feature m.world]
  /-- Any other read does not ask at all. -/
  spares : ∀ feature, ¬ Due c.ttl (c.clock m.world) (lastAnswer feature m.dealings) →
    (c.meter m (.read feature)).dealings = m.dealings
  /-- After a failure the next read must ask. -/
  fails : ∀ feature e, (c.metered.repository.read feature).result m = .error e →
    let v := c.meter m (.read feature)
    Due c.ttl (c.clock v.world) (lastAnswer feature v.dealings)
  /-- A write is passed on once, and nothing is read. -/
  writes : ∀ s, (c.meter m (.write s)).dealings = m.dealings ++ [.wrote s]
  /-- What is done about other features does not matter. -/
  others : ∀ feature s, ¬ Step.Concerns feature s →
    lastAnswer feature (c.meter m s).dealings = lastAnswer feature m.dealings
  spaced : Spaced c.ttl m.dealings

theorem dealings_of_not_concerns {s : c.Step} (h : ¬ s.Concerns feature) (w : σ)
    (answer : Option CacheEntry) :
    (c.dealings w s).foldl (Dealing.update feature) answer = answer := by
  cases s with
  | read other =>
    rw [dealings]
    cases c.fresh? other w with
    | some entry => rfl
    | none =>
      rw [question]
      cases (c.inner.read other).result w with
      | error e => rfl
      | ok state => exact if_neg h
  | write s => exact if_neg h
  | clear => exact absurd trivial h
  | outside o => rfl

/-- The failure of a read is that of the repository behind the cache. -/
theorem missed_of_error {e : Error} (he : (c.repository.read feature).result w = .error e) :
    c.fresh? feature w = none ∧ (c.inner.read feature).result w = .error e := by
  cases hfresh : c.fresh? feature w with
  | some entry =>
    have hrun : (c.repository.read feature).run w = _ := Repository.run_cached_read_of_fresh hfresh
    rw [Action.result, hrun] at he
    cases he
  | none =>
    cases hread : (c.inner.read feature).result w with
    | error e' =>
      have hrun : (c.repository.read feature).run w = _ :=
        Repository.run_cached_read_of_error hfresh hread
      rw [Action.result, hrun] at he
      exact ⟨rfl, he⟩
    | ok state =>
      have hrun : (c.repository.read feature).run w = _ :=
        Repository.run_cached_read_of_ok hfresh hread
      rw [Action.result, hrun] at he
      cases he

theorem due_of_failed (hc : c.Secluded) {m : Metered σ} (h : c.OnRecord m) {feature : String}
    {e : Error} (he : (c.metered.repository.read feature).result m = .error e) :
    let v := c.meter m (.read feature)
    Due c.ttl (c.clock v.world) (lastAnswer feature v.dealings) := by
  rw [Action.result, run_metered_read] at he
  obtain ⟨hfresh, hread⟩ := missed_of_error he
  have hrun : (c.repository.read feature).run m.world = _ :=
    Repository.run_cached_read_of_error hfresh hread
  have hworld : c.step m.world (.read feature) = (c.inner.read feature).after m.world := by
    rw [step, Action.after, hrun]
  have hdealings : c.dealings m.world (.read feature) = [c.question feature m.world] := by
    rw [dealings, hfresh]
  have hanswer : lastAnswer feature (m.dealings ++ [c.question feature m.world]) =
      lastAnswer feature m.dealings := by
    rw [lastAnswer_append, question, hread]
    rfl
  rw [meter_eq, hworld, hdealings]
  dsimp only
  rw [hanswer]
  exact ((h.fresh?_eq_none feature).1 hfresh).mono (hc.clock feature m.world)

theorem OnRecord.thrifty (hc : c.Secluded) {m : Metered σ} (h : c.OnRecord m) : c.Thrifty m where
  asks feature hdue := by
    rw [meter_eq, dealings, (h.fresh?_eq_none feature).2 hdue]
  spares feature hnot := by
    rw [meter_eq, dealings]
    cases hfresh : c.fresh? feature m.world with
    | some entry => exact List.append_nil _
    | none => exact absurd ((h.fresh?_eq_none feature).1 hfresh) hnot
  fails feature e he := due_of_failed hc h he
  writes s := by rw [meter_eq, dealings]
  others feature s hs := by
    rw [meter_eq, lastAnswer_append, dealings_of_not_concerns hs]
  spaced := h.spaced

theorem onRecord_record (hc : c.Secluded) (hcold : c.slot.get w = .empty) (steps : List c.Step) :
    c.OnRecord (c.record w steps) := by
  induction steps using List.reverseRecOn with
  | nil =>
    refine ⟨fun feature => ?_, fun _ before between _ _ _ _ _ heq => ?_⟩
    · exact congrArg (·.get? feature) hcold
    · cases before <;> cases heq
  | append_singleton steps s ih =>
    rw [record, List.foldl_append]
    exact ih.meter hc s

theorem world_record (w : σ) (steps : List c.Step) : (c.record w steps).world = c.run w steps := by
  induction steps using List.reverseRecOn with
  | nil => rfl
  | append_singleton steps s ih =>
    rw [record, List.foldl_append, run_append, ← ih]
    exact congrArg Metered.world (meter_eq _ s)

/-- Whatever is read, written, cleared and changed behind it, a cache asks once where it must and
not at all where it need not, a write is passed on once, and a failure does not count. None of this
depends on other features, and the meter that tells it does not show. -/
theorem thrifty_record (hc : c.Secluded) (hcold : c.slot.get w = .empty) (steps : List c.Step) :
    c.Thrifty (c.record w steps) ∧ (c.record w steps).world = c.run w steps :=
  ⟨(onRecord_record hc hcold steps).thrifty hc, world_record w steps⟩

/-- Absence was answered, and is too old six nanoseconds later. Then the store fails. -/
theorem thrifty_record_ofStore :
    let c := ofStore 5
    let m := c.record .initial [.read "a", .outside (breakdown 5 6), .write (.of "b" true)]
    (c.Secluded ∧ c.slot.get World.initial = .empty) ∧
      lastAnswer "a" m.dealings = some ⟨none, 0⟩ ∧
      (c.meter m (.read "a")).dealings =
        m.dealings ++ [.asked "a" (.error (.store " cannot read a")) 6] := by
  intro c m
  have hc : c.Secluded := (private_ofStore 5).secluded
  have hanswer : lastAnswer "a" m.dealings = some ⟨none, 0⟩ := rfl
  obtain ⟨hthrifty, -⟩ := thrifty_record hc (w := .initial) rfl
    [.read "a", .outside (breakdown 5 6), .write (.of "b" true)]
  have hdue : Due c.ttl (c.clock m.world) (lastAnswer "a" m.dealings) := by
    rw [hanswer]
    exact ⟨by decide, by decide⟩
  exact ⟨⟨hc, rfl⟩, hanswer, hthrifty.asks "a" hdue⟩

end Caching

end FeatureToggle
