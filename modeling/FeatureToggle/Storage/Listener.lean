import FeatureToggle.Storage.Basic

/-!
# Listeners

A listenable repository tells its listeners of every state that was written through it, with the
state that was there before. Listeners are called by ascending priority, and those of one priority in
the order of their registration. What becomes of a call, even a panic, is logged and nothing more.
-/
namespace FeatureToggle

/-- What a listener does when it is called. -/
inductive Reaction where
  | nothing
  | fail
  | panic
  /-- Registers another listener with a listenable repository, on the first call only. -/
  | register (target name : String) (priority : Int) (reports : Bool) (reaction : Reaction)
  /-- Sets another feature, in the named repository, to what the changed one is set to. -/
  | copy (target feature : String)
  deriving DecidableEq, Inhabited

structure Listener where
  name : String
  priority : Int
  /-- Whether failures of the listener become known. -/
  reports : Bool
  reaction : Reaction
  deriving DecidableEq, Inhabited

/-- A listener with the number of its registration. -/
structure Registration where
  serial : Nat
  listener : Listener
  deriving DecidableEq, Inhabited

def Registration.priority (r : Registration) : Int := r.listener.priority

/-- Puts a registration behind all that have the same or a lower priority. -/
def insertRegistration (r : Registration) : List Registration → List Registration
  | [] => [r]
  | s :: rest => if r.priority < s.priority then r :: s :: rest else s :: insertRegistration r rest

/-- What became of a call. -/
inductive Outcome where
  | done
  | failed (reason : String)
  | panicked
  deriving DecidableEq

/-- How a listener is called with the previous and the current state. -/
abbrev Caller (σ : Type) :=
  Registration → Option FeatureState → FeatureState → Action σ Outcome

/-- Logs an outcome that is worth it. -/
def logOutcome {σ : Type} (r : Registration) (feature : String) : Outcome → Action σ Unit
  | .done => return ()
  | .failed reason => Action.log (.listenerFailed r.priority feature reason)
  | .panicked => Action.log (.listenerPanicked r.priority feature)

/-- Calls listeners one after the other. -/
def notify {σ : Type} (call : Caller σ) (previous : Option FeatureState) (current : FeatureState) :
    List Registration → Action σ Unit
  | [] => return ()
  | r :: rest => do
    Action.note (.notified r.listener.name previous current)
    logOutcome r current.feature (← call r previous current)
    notify call previous current rest

/-- A repository whose writes are told to the listeners in a slot. Those that are registered while
they are told have to wait for the next write. -/
def Repository.listenable {σ : Type} (slot : Slot σ (List Registration)) (call : Caller σ)
    (inner : Repository σ) : Repository σ where
  read := inner.read
  write state := do
    match ← inner.read state.feature with
    | .error e => return .error e
    | .ok previous =>
      match ← inner.write state with
      | .error e => return .error e
      | .ok () =>
        notify call previous state (slot.get (← Action.get))
        return .ok ()

namespace Repository

variable {σ : Type} {slot : Slot σ (List Registration)} {call : Caller σ} {inner : Repository σ}
  {state : FeatureState} {w : σ}

@[simp] theorem read_listenable (feature : String) :
    (listenable slot call inner).read feature = inner.read feature := rfl

/-- If the previous state cannot be read, nothing is written. -/
theorem run_listenable_write_of_read_error {e : Error}
    (h : (inner.read state.feature).result w = .error e) :
    ((listenable slot call inner).write state).run w =
      ⟨(.error e, (inner.read state.feature).after w), (inner.read state.feature).events w⟩ := by
  unfold listenable
  rw [Action.run_bind, h]
  exact Traced.ext rfl (List.append_nil _)

/-- If the write fails, nobody is told. -/
theorem run_listenable_write_of_write_error {previous : Option FeatureState} {e : Error}
    (hr : (inner.read state.feature).result w = .ok previous)
    (hw : (inner.write state).result ((inner.read state.feature).after w) = .error e) :
    ((listenable slot call inner).write state).run w =
      ⟨(.error e, (inner.write state).after ((inner.read state.feature).after w)),
        (inner.read state.feature).events w ++
          (inner.write state).events ((inner.read state.feature).after w)⟩ := by
  unfold listenable
  simp only [Action.run_bind, Action.events_bind, hr, hw]
  refine Traced.ext rfl ?_
  change _ ++ (_ ++ []) = _
  rw [List.append_nil]

/-- A write that succeeds is told to everybody who is registered when it has succeeded. -/
theorem run_listenable_write_of_ok {previous : Option FeatureState}
    (hr : (inner.read state.feature).result w = .ok previous)
    (hw : (inner.write state).result ((inner.read state.feature).after w) = .ok ()) :
    ((listenable slot call inner).write state).run w =
      let written := (inner.write state).after ((inner.read state.feature).after w)
      let telling := notify call previous state (slot.get written)
      ⟨(.ok (), telling.after written),
        (inner.read state.feature).events w ++
          ((inner.write state).events ((inner.read state.feature).after w) ++
            telling.events written)⟩ := by
  unfold listenable
  simp only [Action.run_bind, Action.events_bind, hr, hw]
  refine Traced.ext rfl ?_
  change _ ++ (_ ++ ([] ++ (_ ++ []))) = _
  rw [List.append_nil, List.nil_append]
  rfl

end Repository

end FeatureToggle
