import FeatureToggle.Log
import FeatureToggle.State.Basic

/-!
# Traced computations

A computation that tells what it did on the way: the records it logged, the stores it reached, the
listeners it called, the questions it asked. `Traced` is such a computation on values, and `Action`
one that reads and changes a world besides.
-/
namespace FeatureToggle

/-- What a read of a store came to. -/
inductive ReadOutcome where
  | found
  | missing
  | failed
  deriving DecidableEq, Repr

inductive Event where
  | logged (record : LogRecord)
  | storeRead (store feature : String) (outcome : ReadOutcome)
  | storeWritten (store : String) (state : FeatureState) (succeeded : Bool)
  | notified (listener : String) (previous : Option FeatureState) (current : FeatureState)
  | tokenTested (token : String) (negated : Bool)
  | propertyAsked (name : String)
  /-- A write of the listener was left out, since too many calls were under way in each other. From
  here on a trace tells nothing. -/
  | cutOff (listener : String)

structure Traced (α : Type) where
  value : α
  events : List Event

namespace Traced

variable {α β : Type}

def pure (a : α) : Traced α := ⟨a, []⟩

def bind (x : Traced α) (f : α → Traced β) : Traced β :=
  let y := f x.value
  ⟨y.value, x.events ++ y.events⟩

instance : Monad Traced where
  pure := Traced.pure
  bind := Traced.bind

@[simp] theorem value_pure (a : α) : (Pure.pure a : Traced α).value = a := rfl

@[simp] theorem events_pure (a : α) : (Pure.pure a : Traced α).events = [] := rfl

@[simp] theorem value_bind (x : Traced α) (f : α → Traced β) :
    (x >>= f).value = (f x.value).value := rfl

@[simp] theorem events_bind (x : Traced α) (f : α → Traced β) :
    (x >>= f).events = x.events ++ (f x.value).events := rfl

@[ext] theorem ext {x y : Traced α} (hv : x.value = y.value) (he : x.events = y.events) : x = y := by
  cases x; cases y; simp_all

instance : LawfulMonad Traced :=
  LawfulMonad.mk' Traced (fun _ => Traced.ext rfl (List.append_nil _))
    (fun _ _ => Traced.ext rfl (List.nil_append _))
    (fun _ _ _ => Traced.ext rfl (List.append_assoc _ _ _))

@[simp] theorem value_map (f : α → β) (x : Traced α) : (f <$> x).value = f x.value := rfl

@[simp] theorem events_map (f : α → β) (x : Traced α) : (f <$> x).events = x.events :=
  List.append_nil _

/-- Does nothing but leave an event. -/
def note (e : Event) : Traced Unit := ⟨(), [e]⟩

def log (r : LogRecord) : Traced Unit := note (.logged r)

@[simp] theorem events_note (e : Event) : (note e).events = [e] := rfl

@[simp] theorem events_log (r : LogRecord) : (log r).events = [.logged r] := rfl

/-- Whether some item satisfies `p`, which is asked from left to right until one does. -/
def any (p : α → Traced Bool) : List α → Traced Bool
  | [] => Pure.pure false
  | a :: rest => do
    if ← p a then return true else any p rest

theorem any_cons_of_true {p : α → Traced Bool} {a : α} (h : (p a).value = true) (rest : List α) :
    any p (a :: rest) = ⟨true, (p a).events⟩ :=
  Traced.ext (by simp [any, h]) (by simp [any, h])

theorem any_cons_of_false {p : α → Traced Bool} {a : α} (h : (p a).value = false) (rest : List α) :
    any p (a :: rest) = ⟨(any p rest).value, (p a).events ++ (any p rest).events⟩ :=
  Traced.ext (by simp [any, h]) (by simp [any, h])

/-- The answer does not depend on the order in which the items are asked. -/
@[simp] theorem value_any (p : α → Traced Bool) (items : List α) :
    (any p items).value = items.any fun a => (p a).value := by
  induction items with
  | nil => rfl
  | cons a rest ih =>
    cases h : (p a).value with
    | true => simp [any_cons_of_true h, h]
    | false => simp [any_cons_of_false h, h, ih]

end Traced

/-- A traced computation on a world of type `σ`. -/
structure Action (σ α : Type) where
  run : σ → Traced (α × σ)

namespace Action

variable {σ α β : Type}

def pure (a : α) : Action σ α := ⟨fun w => ⟨(a, w), []⟩⟩

def bind (x : Action σ α) (f : α → Action σ β) : Action σ β := ⟨fun w =>
  let y := x.run w
  let z := (f y.value.1).run y.value.2
  ⟨z.value, y.events ++ z.events⟩⟩

instance : Monad (Action σ) where
  pure := Action.pure
  bind := Action.bind

/-- The result of running an action. -/
def result (x : Action σ α) (w : σ) : α := (x.run w).value.1

/-- The world after running an action. -/
def after (x : Action σ α) (w : σ) : σ := (x.run w).value.2

/-- What happens while an action runs. -/
def events (x : Action σ α) (w : σ) : List Event := (x.run w).events

@[ext] theorem ext {x y : Action σ α} (hr : ∀ w, x.result w = y.result w)
    (ha : ∀ w, x.after w = y.after w) (he : ∀ w, x.events w = y.events w) : x = y := by
  cases x
  cases y
  congr
  funext w
  exact Traced.ext (Prod.ext (hr w) (ha w)) (he w)

@[simp] theorem result_pure (a : α) (w : σ) : (Pure.pure a : Action σ α).result w = a := rfl

@[simp] theorem after_pure (a : α) (w : σ) : (Pure.pure a : Action σ α).after w = w := rfl

@[simp] theorem events_pure (a : α) (w : σ) : (Pure.pure a : Action σ α).events w = [] := rfl

@[simp] theorem result_bind (x : Action σ α) (f : α → Action σ β) (w : σ) :
    (x >>= f).result w = (f (x.result w)).result (x.after w) := rfl

@[simp] theorem after_bind (x : Action σ α) (f : α → Action σ β) (w : σ) :
    (x >>= f).after w = (f (x.result w)).after (x.after w) := rfl

@[simp] theorem events_bind (x : Action σ α) (f : α → Action σ β) (w : σ) :
    (x >>= f).events w = x.events w ++ (f (x.result w)).events (x.after w) := rfl

theorem run_pure (a : α) (w : σ) : (Pure.pure a : Action σ α).run w = ⟨(a, w), []⟩ := rfl

theorem run_bind (x : Action σ α) (f : α → Action σ β) (w : σ) :
    (x >>= f).run w =
      ⟨((f (x.result w)).run (x.after w)).value,
        x.events w ++ (f (x.result w)).events (x.after w)⟩ := rfl

instance : LawfulMonad (Action σ) :=
  LawfulMonad.mk' (Action σ)
    (fun _ => Action.ext (fun _ => rfl) (fun _ => rfl) (fun _ => List.append_nil _))
    (fun _ _ => Action.ext (fun _ => rfl) (fun _ => rfl) (fun _ => List.nil_append _))
    (fun _ _ _ => Action.ext (fun _ => rfl) (fun _ => rfl) (fun _ => List.append_assoc _ _ _))

@[simp] theorem result_map (f : α → β) (x : Action σ α) (w : σ) :
    (f <$> x).result w = f (x.result w) := rfl

@[simp] theorem after_map (f : α → β) (x : Action σ α) (w : σ) :
    (f <$> x).after w = x.after w := rfl

@[simp] theorem events_map (f : α → β) (x : Action σ α) (w : σ) :
    (f <$> x).events w = x.events w := List.append_nil _

/-- A traced computation that leaves the world alone. -/
def lift (x : Traced α) : Action σ α := ⟨fun w => ⟨(x.value, w), x.events⟩⟩

def note (e : Event) : Action σ Unit := lift (.note e)

def log (r : LogRecord) : Action σ Unit := lift (.log r)

def get : Action σ σ := ⟨fun w => ⟨(w, w), []⟩⟩

def modify (f : σ → σ) : Action σ Unit := ⟨fun w => ⟨((), f w), []⟩⟩

@[simp] theorem result_lift (x : Traced α) (w : σ) : (lift x : Action σ α).result w = x.value := rfl

@[simp] theorem after_lift (x : Traced α) (w : σ) : (lift x : Action σ α).after w = w := rfl

@[simp] theorem events_lift (x : Traced α) (w : σ) : (lift x : Action σ α).events w = x.events := rfl

@[simp] theorem after_note (e : Event) (w : σ) : (note e : Action σ Unit).after w = w := rfl

@[simp] theorem events_note (e : Event) (w : σ) : (note e : Action σ Unit).events w = [e] := rfl

@[simp] theorem after_log (r : LogRecord) (w : σ) : (log r : Action σ Unit).after w = w := rfl

@[simp] theorem events_log (r : LogRecord) (w : σ) :
    (log r : Action σ Unit).events w = [.logged r] := rfl

@[simp] theorem result_get (w : σ) : (get : Action σ σ).result w = w := rfl

@[simp] theorem after_get (w : σ) : (get : Action σ σ).after w = w := rfl

@[simp] theorem events_get (w : σ) : (get : Action σ σ).events w = [] := rfl

@[simp] theorem after_modify (f : σ → σ) (w : σ) : (modify f).after w = f w := rfl

@[simp] theorem events_modify (f : σ → σ) (w : σ) : (modify f).events w = [] := rfl

end Action

end FeatureToggle
