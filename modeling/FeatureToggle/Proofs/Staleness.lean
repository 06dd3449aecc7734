import FeatureToggle.Proofs.Actions
import FeatureToggle.Storage.Tree
import Mathlib.Data.List.Induction

/-!
# Staleness of a cache

A cache in front of any repository, which may change behind the cache and may fail. Whatever the
cache answers, the repository answered at some moment of the run, after which nothing evicted the
feature, and which is not longer ago than entries keep. Each request takes no time, so that it has
one reading of the clock.
-/
namespace FeatureToggle

open FeatureToggle.Action

/-- A cache and all that it depends on. -/
structure Caching (σ : Type) where
  slot : Slot σ Cache
  clock : σ → Nat
  ttl : Nat
  inner : Repository σ

namespace Caching

variable {σ : Type} (c : Caching σ)

def repository : Repository σ := .cached c.slot c.clock c.ttl c.inner

/-- What the cache would answer by itself. -/
def fresh? (feature : String) (w : σ) : Option CacheEntry :=
  (c.slot.get w).fresh? c.ttl (c.clock w) feature

/-- Neither the cache nor the clock has changed. -/
structure Untouched (w v : σ) : Prop where
  slot : c.slot.get v = c.slot.get w
  clock : c.clock v = c.clock w

/-- Requests to the repository behind the cache take no time, and what the cache remembers is a
matter of its own. -/
structure Private : Prop where
  read : ∀ feature, Keeps c.Untouched (c.inner.read feature)
  write : ∀ s, Keeps c.Untouched (c.inner.write s)
  put : ∀ k w, c.clock (c.slot.put k w) = c.clock w

/-- Anything that happens behind the cache while time passes. -/
structure Outside where
  change : σ → σ
  slot : ∀ w, c.slot.get (change w) = c.slot.get w
  clock : ∀ w, c.clock w ≤ c.clock (change w)

/-! ## Runs -/

inductive Step where
  | read (feature : String)
  | write (state : FeatureState)
  | clear
  | outside (o : c.Outside)

/-- Whether the step makes the cache forget the feature. A write does so whether it succeeds or not.
-/
def Step.Evicts {c : Caching σ} (feature : String) : c.Step → Prop
  | .write s => s.feature = feature
  | .clear => True
  | _ => False

/-- The world after a step. -/
def step (w : σ) : c.Step → σ
  | .read feature => (c.repository.read feature).after w
  | .write s => (c.repository.write s).after w
  | .clear => c.slot.put .empty w
  | .outside o => o.change w

def run (w : σ) (steps : List c.Step) : σ := steps.foldl c.step w

@[simp] theorem run_nil (w : σ) : c.run w [] = w := rfl

@[simp] theorem run_cons (w : σ) (s : c.Step) (rest : List c.Step) :
    c.run w (s :: rest) = c.run (c.step w s) rest := rfl

@[simp] theorem run_append (w : σ) (steps rest : List c.Step) :
    c.run w (steps ++ rest) = c.run (c.run w steps) rest := List.foldl_append

/-- A read of the feature after the steps `earlier` was not answered by the cache but by the
repository behind it, and none of the steps `later` evicted the feature. -/
structure Fetched (w : σ) (earlier later : List c.Step) (feature : String)
    (state : Option FeatureState) : Prop where
  missed : c.fresh? feature (c.run w earlier) = none
  answered : (c.inner.read feature).result (c.run w earlier) = .ok state
  kept : ∀ s ∈ later, ¬ s.Evicts feature

variable {c} {feature : String} {w : σ}

theorem Fetched.snoc {earlier later : List c.Step} {state : Option FeatureState}
    (h : c.Fetched w earlier later feature state) {s : c.Step} (hs : ¬ s.Evicts feature) :
    c.Fetched w earlier (later ++ [s]) feature state := by
  refine ⟨h.missed, h.answered, fun s' hs' => ?_⟩
  rcases List.mem_append.1 hs' with hs' | hs'
  · exact h.kept s' hs'
  · obtain rfl := List.mem_singleton.1 hs'
    exact hs

/-! ## Single steps -/

theorem fresh?_eq_some {entry : CacheEntry} :
    c.fresh? feature w = some entry ↔
      (c.slot.get w).get? feature = some entry ∧ (c.ttl = 0 ∨ c.clock w - entry.time ≤ c.ttl) := by
  simp [fresh?, Cache.fresh?, CacheEntry.isFresh, Option.filter_eq_some_iff]

/-- A read through the cache: what is fresh is answered at once, and otherwise the repository behind
the cache answers. Only an answer is remembered, with the reading of the clock, a failure is not. -/
theorem run_read (h : c.Private) (feature : String) (w : σ) :
    (c.repository.read feature).run w =
      match c.fresh? feature w with
      | some entry => ⟨(.ok entry.state, w), []⟩
      | none =>
        let v := (c.inner.read feature).after w
        let events := .logged (.cacheMiss feature) :: (c.inner.read feature).events w
        match (c.inner.read feature).result w with
        | .error e => ⟨(.error e, v), events⟩
        | .ok state =>
          let remembered := (c.slot.get w).insert feature ⟨state, c.clock w⟩
          ⟨(.ok state, c.slot.put remembered v), events⟩ := by
  cases hfresh : c.fresh? feature w with
  | some entry => exact Repository.run_cached_read_of_fresh hfresh
  | none =>
    cases hread : (c.inner.read feature).result w with
    | error e => exact Repository.run_cached_read_of_error hfresh hread
    | ok state =>
      have huntouched := h.read feature w
      have hrun := @Repository.run_cached_read_of_ok _ c.slot _ _ _ _ _ _ hfresh hread
      simp only [huntouched.slot, huntouched.clock] at hrun
      exact hrun

theorem clock_step (h : c.Private) (w : σ) (s : c.Step) : c.clock w ≤ c.clock (c.step w s) := by
  cases s with
  | read feature =>
    have huntouched := h.read feature w
    rw [step, Action.after, run_read h]
    cases c.fresh? feature w with
    | some entry => exact Nat.le_refl _
    | none =>
      cases (c.inner.read feature).result w with
      | error e => exact Nat.le_of_eq huntouched.clock.symm
      | ok state => exact Nat.le_of_eq ((h.put _ _).trans huntouched.clock).symm
  | write s =>
    have huntouched := h.write s w
    rw [step, repository, Repository.after_cached_write]
    exact Nat.le_of_eq ((h.put _ _).trans huntouched.clock).symm
  | clear => exact Nat.le_of_eq (h.put _ _).symm
  | outside o => exact o.clock w

theorem clock_run (h : c.Private) (w : σ) (steps : List c.Step) :
    c.clock w ≤ c.clock (c.run w steps) := by
  induction steps generalizing w with
  | nil => exact Nat.le_refl _
  | cons s rest ih => exact Nat.le_trans (clock_step h w s) (ih (c.step w s))

/-- What is remembered after a step was remembered before and is not evicted by the step, or the
step has just read it. -/
theorem get?_step (h : c.Private) {s : c.Step} {entry : CacheEntry}
    (hentry : (c.slot.get (c.step w s)).get? feature = some entry) :
    (¬ s.Evicts feature ∧ (c.slot.get w).get? feature = some entry) ∨
      s = .read feature ∧ c.fresh? feature w = none ∧
        (c.inner.read feature).result w = .ok entry.state ∧ entry.time = c.clock w := by
  cases s with
  | read other =>
    have hnot : ¬ Step.Evicts (c := c) feature (.read other) := fun hevicts => hevicts
    rw [step, Action.after, run_read h] at hentry
    cases hfresh : c.fresh? other w with
    | some found =>
      rw [hfresh] at hentry
      exact .inl ⟨hnot, hentry⟩
    | none =>
      rw [hfresh] at hentry
      cases hread : (c.inner.read other).result w with
      | error e =>
        simp only [hread, (h.read other w).slot] at hentry
        exact .inl ⟨hnot, hentry⟩
      | ok state =>
        simp only [hread, Slot.get_put, SortedMap.get?_insert] at hentry
        by_cases ho : other = feature
        · subst ho
          rw [if_pos rfl] at hentry
          obtain rfl := Option.some.inj hentry
          exact .inr ⟨rfl, hfresh, hread, rfl⟩
        · rw [if_neg ho] at hentry
          exact .inl ⟨hnot, hentry⟩
  | write s =>
    rw [step, repository, Repository.after_cached_write] at hentry
    simp only [Slot.get_put, SortedMap.get?_erase, (h.write s w).slot] at hentry
    by_cases hs : s.feature = feature
    · simp [hs] at hentry
    · rw [if_neg hs] at hentry
      exact .inl ⟨hs, hentry⟩
  | clear => simp [step] at hentry
  | outside o =>
    rw [step, o.slot] at hentry
    exact .inl ⟨fun hevicts => hevicts, hentry⟩

/-- What is remembered and fresh stays remembered, unless it is evicted. -/
theorem get?_step_of_fresh (h : c.Private) {s : c.Step} {entry : CacheEntry}
    (hentry : c.fresh? feature w = some entry) (hs : ¬ s.Evicts feature) :
    (c.slot.get (c.step w s)).get? feature = some entry := by
  have hget := (fresh?_eq_some.1 hentry).1
  cases s with
  | read other =>
    rw [step, Action.after, run_read h]
    by_cases ho : other = feature
    · subst ho
      rw [hentry]
      exact hget
    · cases c.fresh? other w with
      | some found => exact hget
      | none =>
        have hslot := (h.read other w).slot
        cases (c.inner.read other).result w with
        | error e =>
          simp only [hslot]
          exact hget
        | ok state =>
          simp only [Slot.get_put, SortedMap.get?_insert, if_neg ho]
          exact hget
  | write s =>
    rw [step, repository, Repository.after_cached_write]
    have hne : s.feature ≠ feature := hs
    simp only [Slot.get_put, SortedMap.get?_erase, (h.write s w).slot, if_neg hne]
    exact hget
  | clear => exact absurd trivial hs
  | outside o =>
    rw [step, o.slot]
    exact hget

/-! ## Whole runs -/

/-- All that is remembered was fetched during the run, at the time that the entry tells. -/
theorem fetched_of_get? (h : c.Private) (hcold : c.slot.get w = .empty) (steps : List c.Step)
    {entry : CacheEntry} (hentry : (c.slot.get (c.run w steps)).get? feature = some entry) :
    ∃ earlier later, steps = earlier ++ .read feature :: later ∧
      c.Fetched w earlier later feature entry.state ∧ entry.time = c.clock (c.run w earlier) := by
  induction steps using List.reverseRecOn with
  | nil => simp [hcold] at hentry
  | append_singleton steps s ih =>
    rw [run_append] at hentry
    rcases get?_step h hentry with ⟨hs, hbefore⟩ | ⟨rfl, hfresh, hread, htime⟩
    · obtain ⟨earlier, later, rfl, hfetched, htime⟩ := ih hbefore
      exact ⟨earlier, later ++ [s], by simp, hfetched.snoc hs, htime⟩
    · exact ⟨steps, [], rfl, ⟨hfresh, hread, by simp⟩, htime⟩

/-- An entry that is not evicted is still there as long as it is fresh. -/
theorem fresh?_run (h : c.Private) {steps : List c.Step} {entry : CacheEntry}
    (hentry : (c.slot.get w).get? feature = some entry) (hkept : ∀ s ∈ steps, ¬ s.Evicts feature)
    (hage : c.ttl = 0 ∨ c.clock (c.run w steps) - entry.time ≤ c.ttl) :
    c.fresh? feature (c.run w steps) = some entry := by
  induction steps generalizing w with
  | nil => exact fresh?_eq_some.2 ⟨hentry, hage⟩
  | cons s rest ih =>
    have hclock := clock_run h w (s :: rest)
    have hfresh : c.fresh? feature w = some entry :=
      fresh?_eq_some.2 ⟨hentry, hage.imp id fun hage => by omega⟩
    have hnext := get?_step_of_fresh h hfresh (hkept s List.mem_cons_self)
    exact ih hnext (fun s' hs' => hkept s' (List.mem_cons_of_mem s hs')) hage

/-- What the cache answers, the repository behind it answered then or now, and not too long ago. -/
theorem fetched_of_read (h : c.Private) (hcold : c.slot.get w = .empty) {steps : List c.Step}
    {state : Option FeatureState}
    (hstate : (c.repository.read feature).result (c.run w steps) = .ok state) :
    ∃ earlier later, steps ++ [.read feature] = earlier ++ .read feature :: later ∧
      c.Fetched w earlier later feature state ∧
      c.clock (c.run w earlier) ≤ c.clock (c.run w steps) ∧
      (0 < c.ttl → c.clock (c.run w steps) - c.clock (c.run w earlier) ≤ c.ttl) := by
  rw [Action.result, run_read h] at hstate
  cases hfresh : c.fresh? feature (c.run w steps) with
  | some entry =>
    simp only [hfresh] at hstate
    obtain rfl := Except.ok.inj hstate
    obtain ⟨hentry, hage⟩ := fresh?_eq_some.1 hfresh
    obtain ⟨earlier, later, rfl, hfetched, htime⟩ := fetched_of_get? h hcold steps hentry
    have hclock := clock_run h (c.run w earlier) (.read feature :: later)
    rw [← run_append] at hclock
    refine ⟨earlier, later ++ [.read feature], by simp, ?_, hclock, fun httl => ?_⟩
    · exact hfetched.snoc fun hevicts => hevicts
    · rw [← htime]
      omega
  | none =>
    have hread : (c.inner.read feature).result (c.run w steps) = .ok state := by
      cases hread : (c.inner.read feature).result (c.run w steps) with
      | error e => simp [hfresh, hread] at hstate
      | ok found => simpa [hfresh, hread] using hstate
    exact ⟨steps, [], rfl, ⟨hfresh, hread, by simp⟩, Nat.le_refl _, fun _ => by omega⟩

/-- What the repository behind the cache answered is answered again without asking it. -/
theorem run_read_of_fetched (h : c.Private) {earlier later : List c.Step}
    {state : Option FeatureState} (hfetched : c.Fetched w earlier later feature state)
    (hage : c.ttl = 0 ∨ c.clock (c.run w (earlier ++ .read feature :: later)) -
      c.clock (c.run w earlier) ≤ c.ttl) :
    (c.repository.read feature).run (c.run w (earlier ++ .read feature :: later)) =
      ⟨(.ok state, c.run w (earlier ++ .read feature :: later)), []⟩ := by
  rw [run_append, run_cons] at *
  have hget : (c.slot.get (c.step (c.run w earlier) (.read feature))).get? feature =
      some ⟨state, c.clock (c.run w earlier)⟩ := by
    rw [step, Action.after, run_read h]
    simp [hfetched.missed, hfetched.answered]
  rw [run_read h, fresh?_run h hget hfetched.kept hage]

/-- A failure is that of the repository behind the cache, which was asked just now. -/
theorem error_of_read (h : c.Private) {e : Error}
    (herror : (c.repository.read feature).result w = .error e) :
    (c.inner.read feature).result w = .error e ∧
      (c.repository.read feature).events w =
        .logged (.cacheMiss feature) :: (c.inner.read feature).events w := by
  rw [Action.result, run_read h] at herror
  rw [Action.events, run_read h]
  cases hfresh : c.fresh? feature w with
  | some entry => simp [hfresh] at herror
  | none =>
    cases hread : (c.inner.read feature).result w with
    | error e' => simpa [hfresh, hread] using herror
    | ok state => simp [hfresh, hread] at herror

/-- Whole milliseconds are accepted unless they are negative. -/
theorem ttl_milliseconds (n : Int) (ttl : Nat) :
    (Expiry.milliseconds n).ttl = .ok ttl ↔ 0 ≤ n ∧ (ttl : Int) = n * 1000000 := by
  show (if n < 0 then _ else Except.ok (n.toNat * 1000000)) = _ ↔ _
  by_cases hn : n < 0
  · rw [if_pos hn]
    constructor
    · intro httl
      cases httl
    · intro httl
      omega
  · rw [if_neg hn, Except.ok.injEq]
    omega

/-- Every state that the cache answers, absence included, was answered by the repository behind it
at an earlier moment or just now. Since then nothing has evicted the feature, and no more time has
passed than entries keep. As long as this is so, it is answered without asking again. A failure is
always that of the repository, which was asked just now. -/
theorem staleness_bounded (h : c.Private) (hcold : c.slot.get w = .empty) :
    (∀ (n : Int) (ttl : Nat),
      (Expiry.milliseconds n).ttl = .ok ttl ↔ 0 ≤ n ∧ (ttl : Int) = n * 1000000) ∧
    ∀ (steps : List c.Step) (feature : String),
      (∀ state, (c.repository.read feature).result (c.run w steps) = .ok state →
        ∃ earlier later, steps ++ [.read feature] = earlier ++ .read feature :: later ∧
          c.Fetched w earlier later feature state ∧
          c.clock (c.run w earlier) ≤ c.clock (c.run w steps) ∧
          (0 < c.ttl → c.clock (c.run w steps) - c.clock (c.run w earlier) ≤ c.ttl)) ∧
      (∀ earlier later state, steps = earlier ++ .read feature :: later →
        c.Fetched w earlier later feature state →
        c.ttl = 0 ∨ c.clock (c.run w steps) - c.clock (c.run w earlier) ≤ c.ttl →
          (c.repository.read feature).run (c.run w steps) = ⟨(.ok state, c.run w steps), []⟩) ∧
      ∀ e, (c.repository.read feature).result (c.run w steps) = .error e →
        (c.inner.read feature).result (c.run w steps) = .error e ∧
          (c.repository.read feature).events (c.run w steps) =
            .logged (.cacheMiss feature) :: (c.inner.read feature).events (c.run w steps) := by
  refine ⟨ttl_milliseconds, fun steps feature => ⟨?_, ?_, ?_⟩⟩
  · intro state hstate
    exact fetched_of_read h hcold hstate
  · rintro earlier later state rfl hfetched hage
    exact run_read_of_fetched h hfetched hage
  · intro e herror
    exact error_of_read h herror

/-- A cache in front of a store. -/
def ofStore (ttl : Nat) : Caching World := ⟨World.cache 0, World.now, ttl, .store (World.store 0)⟩

theorem private_ofStore (ttl : Nat) : (ofStore ttl).Private where
  read feature w := by
    rw [ofStore, Repository.after_store_read]
    exact ⟨rfl, rfl⟩
  write s w := by
    rw [ofStore, Repository.after_store_write]
    exact ⟨rfl, rfl⟩
  put _ _ := rfl

/-- The store fails from now on, and time passes. -/
def breakdown (ttl nanoseconds : Nat) : (ofStore ttl).Outside where
  change w :=
    (World.store 0).put ⟨none, .empty, true, true, 0⟩ { w with now := w.now + nanoseconds }
  slot _ := rfl
  clock _ := Nat.le_add_right _ _

theorem staleness_bounded_ofStore :
    let w := (ofStore 5).run .initial [.read "a", .outside (breakdown 5 5)]
    let v := (ofStore 5).run .initial [.read "a", .outside (breakdown 5 6)]
    (ofStore 5).Private ∧ ((ofStore 5).repository.read "a").run w = ⟨(.ok none, w), []⟩ ∧
      ((ofStore 5).inner.read "a").result v = .error (.store " cannot read a") := by
  obtain ⟨-, hruns⟩ := staleness_bounded (private_ofStore 5) (w := .initial) rfl
  obtain ⟨-, hserved, -⟩ := hruns [.read "a", .outside (breakdown 5 5)] "a"
  obtain ⟨-, -, hfailure⟩ := hruns [.read "a", .outside (breakdown 5 6)] "a"
  refine ⟨private_ofStore 5, ?_, ?_⟩
  · refine hserved [] [.outside (breakdown 5 5)] none rfl ⟨rfl, rfl, ?_⟩ (.inr (Nat.le_refl 5))
    simp [Step.Evicts]
  · exact (hfailure _ rfl).1

end Caching

end FeatureToggle
