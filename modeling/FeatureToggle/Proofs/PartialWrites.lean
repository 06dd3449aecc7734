import FeatureToggle.Proofs.Delegates
import Mathlib.Data.List.Range

/-!
# Partial writes

A composite accounts for every write: each selected delegate is tried once, in the order of the
positions, whatever became of the others, and the error lists the failures by position
(`Repository.exists_accounted_write`).
-/
namespace FeatureToggle

open FeatureToggle.Action Repository

/-! ## Selected positions -/

namespace WriteTarget

/-- The positions that are selected among `n` delegates. -/
def positions : WriteTarget → Nat → List Nat
  | first, _ => [0]
  | last, n => [n - 1]
  | all, n => List.range n

variable {α : Type} (target : WriteTarget) {items : List α}

theorem map_snd_select (h : items ≠ []) :
    (target.select items).map Prod.snd = target.positions items.length := by
  have hrange : items.zipIdx.map Prod.snd = List.range items.length := by
    rw [List.zipIdx_map_snd, List.range'_eq_map_range]
    simp
  cases target with
  | first =>
    obtain ⟨a, rest, rfl⟩ := List.exists_cons_of_ne_nil h
    rfl
  | last =>
    obtain ⟨n, hn⟩ : ∃ n, items.length = n + 1 :=
      Nat.exists_eq_succ_of_ne_zero fun h0 => h (List.length_eq_zero_iff.1 h0)
    rw [select, List.map_drop, hrange, hn, List.range_succ, positions]
    simp
  | all => exact hrange

theorem select_sublist (items : List α) : (target.select items).Sublist items.zipIdx := by
  cases target with
  | first => exact List.take_sublist _ _
  | last => exact List.drop_sublist _ _
  | all => exact List.Sublist.refl _

/-- A selected delegate stands at the position that is selected with it. -/
theorem getElem?_of_mem_select {p : α × Nat} (h : p ∈ target.select items) :
    items[p.2]? = some p.1 :=
  List.mem_zipIdx_iff_getElem?.1 ((target.select_sublist items).subset h)

theorem positions_pairwise (n : Nat) : (target.positions n).Pairwise (· < ·) := by
  cases target with
  | first => exact List.pairwise_singleton _ _
  | last => exact List.pairwise_singleton _ _
  | all => exact List.pairwise_lt_range

end WriteTarget

/-! ## Writes to a composite -/

namespace Repository

variable {σ : Type} {delegates : List (Repository σ)} {state : FeatureState} {w : σ}

/-- Delegates are written one after the other, and nothing else is done but that failures are
logged: `outcomes` are the positions of these delegates with what they answered, `events` what
happened, and the world becomes the last one. -/
inductive Attempts (delegates : List (Repository σ)) (state : FeatureState) :
    σ → List (Nat × Except Error Unit) → List Event → σ → Prop
  | done (w : σ) : Attempts delegates state w [] [] w
  | ok {w v : σ} {delegate : Repository σ} {position : Nat}
      {outcomes : List (Nat × Except Error Unit)} {events : List Event} :
      delegates[position]? = some delegate → (delegate.write state).result w = .ok () →
      Attempts delegates state ((delegate.write state).after w) outcomes events v →
      Attempts delegates state w ((position, .ok ()) :: outcomes)
        ((delegate.write state).events w ++ events) v
  | error {w v : σ} {delegate : Repository σ} {position : Nat} {e : Error}
      {outcomes : List (Nat × Except Error Unit)} {events : List Event} :
      delegates[position]? = some delegate → (delegate.write state).result w = .error e →
      Attempts delegates state ((delegate.write state).after w) outcomes events v →
      Attempts delegates state w ((position, .error e) :: outcomes)
        ((delegate.write state).events w ++
          .logged (.delegateFailed state.feature position e) :: events) v

/-- The failures among outcomes, whatever tells whose outcomes they are. -/
def failures {ι : Type} (outcomes : List (ι × Except Error Unit)) : List (ι × Error) :=
  outcomes.filterMap fun o =>
    match o.2 with
    | .ok () => none
    | .error e => some (o.1, e)

section Failures

variable {ι κ : Type} {outcomes : List (ι × Except Error Unit)}

theorem mem_failures {i : ι} {e : Error} :
    (i, e) ∈ failures outcomes ↔ (i, .error e) ∈ outcomes := by
  constructor
  · intro h
    obtain ⟨⟨j, r⟩, hmem, hr⟩ := List.mem_filterMap.1 h
    cases r with
    | ok _ => cases hr
    | error e' =>
      obtain ⟨rfl, rfl⟩ := Prod.mk.inj (Option.some.inj hr)
      exact hmem
  · exact fun h => List.mem_filterMap.2 ⟨_, h, rfl⟩

theorem failures_eq_nil_iff : failures outcomes = [] ↔ ∀ o ∈ outcomes, o.2 = .ok () := by
  rw [failures, List.filterMap_eq_nil_iff]
  refine forall₂_congr fun o _ => ?_
  rcases o with ⟨i, r⟩
  cases r with
  | ok _ => simp
  | error e => simp

theorem failures_append (outcomes rest : List (ι × Except Error Unit)) :
    failures (outcomes ++ rest) = failures outcomes ++ failures rest :=
  List.filterMap_append

theorem failures_map (f : ι → κ) (outcomes : List (ι × Except Error Unit)) :
    failures (outcomes.map (Prod.map f id)) = (failures outcomes).map (Prod.map f id) := by
  induction outcomes with
  | nil => rfl
  | cons o rest ih =>
    rcases o with ⟨i, r⟩
    cases r with
    | ok _ => exact ih
    | error e => exact congrArg ((f i, e) :: ·) ih

theorem map_fst_failures_sublist (outcomes : List (ι × Except Error Unit)) :
    ((failures outcomes).map Prod.fst).Sublist (outcomes.map Prod.fst) := by
  induction outcomes with
  | nil => exact List.Sublist.refl _
  | cons o rest ih =>
    rcases o with ⟨i, r⟩
    cases r with
    | ok _ => exact ih.cons i
    | error e => exact ih.cons_cons i

end Failures

/-- The loop tries every delegate that it is given. -/
theorem attempts_writeEach (state : FeatureState) {selected : List (Repository σ × Nat)}
    (h : ∀ p ∈ selected, delegates[p.2]? = some p.1) (w : σ) :
    ∃ outcomes, Attempts delegates state w outcomes ((writeEach state selected).events w)
        ((writeEach state selected).after w) ∧
      outcomes.map Prod.fst = selected.map Prod.snd ∧
      (writeEach state selected).result w = failures outcomes := by
  induction selected generalizing w with
  | nil => exact ⟨[], .done w, rfl, rfl⟩
  | cons p rest ih =>
    obtain ⟨delegate, position⟩ := p
    have hposition := h _ List.mem_cons_self
    obtain ⟨outcomes, hrest, hpositions, hresult⟩ :=
      ih (fun p hp => h p (List.mem_cons_of_mem _ hp)) ((delegate.write state).after w)
    cases hwrite : (delegate.write state).result w with
    | ok _ =>
      have hrun := run_writeEach_of_ok position rest hwrite
      refine ⟨(position, .ok ()) :: outcomes, ?_, congrArg (position :: ·) hpositions, ?_⟩
      · rw [Action.events, Action.after, hrun]
        exact .ok hposition hwrite hrest
      · rw [Action.result, hrun]
        exact hresult
    | error e =>
      have hrun := run_writeEach_of_error position rest hwrite
      refine ⟨(position, .error e) :: outcomes, ?_, congrArg (position :: ·) hpositions, ?_⟩
      · rw [Action.events, Action.after, hrun]
        exact .error hposition hwrite hrest
      · rw [Action.result, hrun]
        exact congrArg ((position, e) :: ·) hresult

/-- A write to a composite is accounted for by the outcomes at the selected positions. -/
structure Accounted (target : WriteTarget) (delegates : List (Repository σ)) (state : FeatureState)
    (write : Action σ (Except Error Unit)) (w : σ) (outcomes : List (Nat × Except Error Unit)) :
    Prop where
  attempts : Attempts delegates state w outcomes (write.events w) (write.after w)
  positions : outcomes.map Prod.fst = target.positions delegates.length
  ok_iff : write.result w = .ok () ↔ ∀ o ∈ outcomes, o.2 = .ok ()
  error : ∀ e, write.result w = .error e → ∃ failures, e = .partialWrite outcomes.length failures ∧
    (failures.map Prod.fst).Pairwise (· < ·) ∧
    ∀ position e, (position, e) ∈ failures ↔ (position, .error e) ∈ outcomes

/-- What a composite answers after its attempts, given those that failed. -/
def tally (attempted : Nat) : List (Nat × Error) → Except Error Unit
  | [] => .ok ()
  | failures => .error (.partialWrite attempted failures)

theorem tally_eq_ok_iff {attempted : Nat} {failed : List (Nat × Error)} :
    tally attempted failed = .ok () ↔ failed = [] := by
  cases failed with
  | nil => simp [tally]
  | cons failure rest => simp [tally]

theorem tally_eq_error {attempted : Nat} {failed : List (Nat × Error)} {e : Error}
    (h : tally attempted failed = .error e) : e = .partialWrite attempted failed := by
  cases failed with
  | nil => cases h
  | cons failure rest => exact (Except.error.inj h).symm

/-- Beyond its loop a write to a composite does nothing but to gather the failures. -/
theorem run_composite_write (order : ReadOrder) (target : WriteTarget)
    (delegates : List (Repository σ)) (state : FeatureState) (w : σ) :
    ((composite order target delegates).write state).run w =
      let loop := writeEach state (target.select delegates)
      ⟨(tally (target.select delegates).length (loop.result w), loop.after w), loop.events w⟩ := by
  rw [composite, Action.run_bind]
  dsimp only
  cases (writeEach state (target.select delegates)).result w with
  | nil => exact Traced.ext rfl (List.append_nil _)
  | cons failure rest => exact Traced.ext rfl (List.append_nil _)

theorem exists_accounted_write (order : ReadOrder) (target : WriteTarget) (h : delegates ≠ [])
    (state : FeatureState) (w : σ) :
    ∃ outcomes, Accounted target delegates state
      ((composite order target delegates).write state) w outcomes := by
  obtain ⟨outcomes, hattempts, hpositions, hresult⟩ :=
    attempts_writeEach state (fun p hp => target.getElem?_of_mem_select hp) w
  have hlength : outcomes.length = (target.select delegates).length := by
    simpa using congrArg List.length hpositions
  rw [target.map_snd_select h] at hpositions
  have hrun := run_composite_write order target delegates state w
  dsimp only at hrun
  rw [hresult, ← hlength] at hrun
  refine ⟨outcomes, ?_, hpositions, ?_, fun e he => ?_⟩
  · rw [Action.after, Action.events, hrun]
    exact hattempts
  · rw [Action.result, hrun, tally_eq_ok_iff, failures_eq_nil_iff]
  · rw [Action.result, hrun] at he
    refine ⟨failures outcomes, tally_eq_error he, ?_, fun position e => mem_failures⟩
    refine List.Pairwise.sublist (map_fst_failures_sublist outcomes) ?_
    rw [hpositions]
    exact target.positions_pairwise _

end Repository

end FeatureToggle
