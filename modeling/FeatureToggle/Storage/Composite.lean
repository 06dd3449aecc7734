import FeatureToggle.Storage.Basic

/-!
# Composites

Several repositories as one. A read asks them one after the other and takes the first state found,
whether it is enabled or not. A write goes to some of them; all of those are tried even if one fails,
and the error then lists every failure.
-/
namespace FeatureToggle

/-- In which order the delegates of a composite are read. -/
inductive ReadOrder where
  | fifo
  | lifo
  deriving DecidableEq, Repr

/-- Which delegates of a composite are written. -/
inductive WriteTarget where
  | first
  | last
  | all
  deriving DecidableEq, Repr

def ReadOrder.arrange {α : Type} : ReadOrder → List α → List α
  | fifo, items => items
  | lifo, items => items.reverse

/-- The selected delegates, each with its position. -/
def WriteTarget.select {α : Type} (target : WriteTarget) (items : List α) : List (α × Nat) :=
  match target with
  | first => items.zipIdx.take 1
  | last => items.zipIdx.drop (items.length - 1)
  | all => items.zipIdx

namespace Repository

variable {σ : Type}

/-- The first answer that is not absence. -/
def readFirst (feature : String) : List (Repository σ) →
    Action σ (Except Error (Option FeatureState))
  | [] => return .ok none
  | delegate :: rest => do
    match ← delegate.read feature with
    | .ok none => readFirst feature rest
    | answer => return answer

/-- Writes to all delegates, and gives the positions and errors of those that failed. -/
def writeEach (state : FeatureState) : List (Repository σ × Nat) → Action σ (List (Nat × Error))
  | [] => return []
  | (delegate, position) :: rest => do
    match ← delegate.write state with
    | .ok () => writeEach state rest
    | .error e =>
      Action.log (.delegateFailed state.feature position e)
      return (position, e) :: (← writeEach state rest)

def composite (order : ReadOrder) (target : WriteTarget) (delegates : List (Repository σ)) :
    Repository σ where
  read feature := readFirst feature (order.arrange delegates)
  write state := do
    let selected := target.select delegates
    match ← writeEach state selected with
    | [] => return .ok ()
    | failures => return .error (.partialWrite selected.length failures)

variable {feature : String} {state : FeatureState} {delegate : Repository σ} {w : σ}

/-- An answer other than absence ends the search. -/
theorem run_readFirst_of_ne (rest : List (Repository σ))
    (h : (delegate.read feature).result w ≠ .ok none) :
    (readFirst feature (delegate :: rest)).run w = (delegate.read feature).run w := by
  rw [readFirst, Action.run_bind]
  split
  · contradiction
  · exact Traced.ext rfl (List.append_nil _)

/-- Absence leaves the answer to the other delegates. -/
theorem run_readFirst_of_eq (rest : List (Repository σ))
    (h : (delegate.read feature).result w = .ok none) :
    (readFirst feature (delegate :: rest)).run w =
      let others := (readFirst feature rest).run ((delegate.read feature).after w)
      ⟨others.value, (delegate.read feature).events w ++ others.events⟩ := by
  rw [readFirst, Action.run_bind, h]
  rfl

/-- A delegate that was written does not show in the list of failures. -/
theorem run_writeEach_of_ok (position : Nat) (rest : List (Repository σ × Nat))
    (h : (delegate.write state).result w = .ok ()) :
    (writeEach state ((delegate, position) :: rest)).run w =
      let others := (writeEach state rest).run ((delegate.write state).after w)
      ⟨others.value, (delegate.write state).events w ++ others.events⟩ := by
  rw [writeEach, Action.run_bind, h]
  rfl

/-- The failure of a delegate is logged and listed, and the others are tried all the same. -/
theorem run_writeEach_of_error (position : Nat) (rest : List (Repository σ × Nat)) {e : Error}
    (h : (delegate.write state).result w = .error e) :
    (writeEach state ((delegate, position) :: rest)).run w =
      let others := (writeEach state rest).run ((delegate.write state).after w)
      ⟨((position, e) :: others.value.1, others.value.2),
        (delegate.write state).events w ++
          .logged (.delegateFailed state.feature position e) :: others.events⟩ := by
  rw [writeEach, Action.run_bind, h]
  refine Traced.ext rfl ?_
  change _ ++ ([_] ++ (_ ++ [])) = _
  rw [List.append_nil]
  rfl

end Repository

end FeatureToggle
