import FeatureToggle.Trace
import Mathlib.Order.Defs.Unbundled
import Mathlib.Tactic.Lemma

/-!
# Relations along actions

Two ways to reason about actions without running them. `Leaves T` relates the world before an
action, what happens, and the world after it; `Keeps P`, which is how frames and invariants are
carried through the loops of composites and listeners, leaves out what happens. `Parallel R E`
compares two actions that are run side by side: they answer alike, what happens is related by `E`,
and the worlds stay related by `R`. They mirror each other (`Mirrors R`) if their effects are the
same.

An effect is an event that somebody outside can feel: everything but the reads of stores and the
records of the caches.
-/
namespace FeatureToggle

/-- Whether an event belongs to the retrieval of states only. -/
def Event.isRetrieval : Event → Bool
  | .storeRead .. => true
  | .logged (.cacheMiss _) => true
  | .logged (.evicted _) => true
  | _ => false

/-- The feature that a store was asked for, if the event tells of a read. -/
def Event.readFeature : Event → Option String
  | .storeRead _ feature _ => some feature
  | _ => none

namespace Action

variable {σ α β : Type}

def effects (x : Action σ α) (w : σ) : List Event := (x.events w).filter (!·.isRetrieval)

@[simp] theorem effects_pure (a : α) (w : σ) : (Pure.pure a : Action σ α).effects w = [] := rfl

@[simp] theorem effects_bind (x : Action σ α) (f : α → Action σ β) (w : σ) :
    (x >>= f).effects w = x.effects w ++ (f (x.result w)).effects (x.after w) := by
  simp [effects]

/-! ## Before and after -/

/-- `T` holds of each world, of what happens while `x` runs there, and of the world it leaves. -/
def Leaves (T : σ → List Event → σ → Prop) (x : Action σ α) : Prop :=
  ∀ w, T w (x.events w) (x.after w)

/-- `T` can be followed along a run. It does not mind events that are no reads of stores. -/
class Tracing (T : σ → List Event → σ → Prop) : Prop where
  done : ∀ w, T w [] w
  note : ∀ w e, e.readFeature = none → T w [e] w
  append : ∀ {w v u a b}, T w a v → T v b u → T w (a ++ b) u

section Leaves

variable {T : σ → List Event → σ → Prop} [Tracing T]

lemma Leaves.pure (a : α) : Leaves T (Pure.pure a : Action σ α) := Tracing.done

lemma Leaves.note {e : Event} (h : e.readFeature = none) :
    Leaves T (Action.note e : Action σ Unit) := fun w => Tracing.note w e h

lemma Leaves.log (r : LogRecord) : Leaves T (Action.log r : Action σ Unit) := Leaves.note rfl

lemma Leaves.bind {x : Action σ α} {f : α → Action σ β} (hx : Leaves T x)
    (hf : ∀ a, Leaves T (f a)) : Leaves T (x >>= f) :=
  fun w => Tracing.append (hx w) (hf _ _)

end Leaves

/-- `P` holds between each world and the one that `x` leaves. -/
def Keeps (P : σ → σ → Prop) (x : Action σ α) : Prop := ∀ w, P w (x.after w)

variable {P : σ → σ → Prop} [IsPreorder σ P]

instance : Tracing fun (w : σ) (_ : List Event) (v : σ) => P w v where
  done := refl_of P
  note w _ _ := refl_of P w
  append := trans_of P

/-- If `I` held before, it holds after. -/
def Preserves (I : σ → Prop) (w v : σ) : Prop := I w → I v

instance (I : σ → Prop) : IsPreorder σ (Preserves I) where
  refl _ h := h
  trans _ _ _ huv hvw h := hvw (huv h)

/-! ## Side by side -/

/-- Started in worlds related by `R`, both actions give the same result, what happens is related by
`E`, and the worlds that they leave are related again. -/
structure ParallelAt (R : σ → σ → Prop) (E : List Event → List Event → Prop) (x y : Action σ α)
    (w v : σ) : Prop where
  result : x.result w = y.result v
  events : E (x.events w) (y.events v)
  after : R (x.after w) (y.after v)

def Parallel (R : σ → σ → Prop) (E : List Event → List Event → Prop) (x y : Action σ α) : Prop :=
  ∀ w v, R w v → ParallelAt R E x y w v

theorem ParallelAt.of_run {R : σ → σ → Prop} {E : List Event → List Event → Prop}
    {x y : Action σ α} {a : α} {w v w' v' : σ} {es es' : List Event} (hx : x.run w = ⟨(a, w'), es⟩)
    (hy : y.run v = ⟨(a, v'), es'⟩) (hE : E es es') (hR : R w' v') : ParallelAt R E x y w v := by
  constructor
  · rw [Action.result, Action.result, hx, hy]
  · rw [Action.events, Action.events, hx, hy]
    exact hE
  · rw [Action.after, Action.after, hx, hy]
    exact hR

/-- `E` can be followed along two runs. It does not tell an event from itself, unless a store is
read. -/
class Matching (E : List Event → List Event → Prop) : Prop where
  nil : E [] []
  note : ∀ e, e.readFeature = none → E [e] [e]
  append : ∀ {a a' b b'}, E a a' → E b b' → E (a ++ b) (a' ++ b')

section Parallel

variable {R : σ → σ → Prop} {E : List Event → List Event → Prop} [Matching E]

lemma Parallel.pure (a : α) : Parallel R E (Pure.pure a) (Pure.pure a) :=
  fun _ _ h => ⟨rfl, Matching.nil, h⟩

lemma Parallel.note {e : Event} (he : e.readFeature = none) :
    Parallel R E (Action.note e) (Action.note e) :=
  fun _ _ h => ⟨rfl, Matching.note e he, h⟩

lemma Parallel.log (r : LogRecord) : Parallel R E (Action.log r) (Action.log r) := Parallel.note rfl

lemma Parallel.bind {x y : Action σ α} {f g : α → Action σ β} (h : Parallel R E x y)
    (hfg : ∀ a, Parallel R E (f a) (g a)) : Parallel R E (x >>= f) (y >>= g) := by
  intro w v hR
  have hx := h w v hR
  have hf := hfg (x.result w) (x.after w) (y.after v) hx.after
  constructor
  · rw [result_bind, result_bind, ← hx.result]
    exact hf.result
  · rw [events_bind, events_bind, ← hx.result]
    exact Matching.append hx.events hf.events
  · rw [after_bind, after_bind, ← hx.result]
    exact hf.after

end Parallel

/-- Started in worlds related by `R`, both actions give the same result and have the same effects,
and the worlds that they leave are related again. -/
structure MirrorsAt (R : σ → σ → Prop) (x y : Action σ α) (w v : σ) : Prop where
  result : x.result w = y.result v
  effects : x.effects w = y.effects v
  after : R (x.after w) (y.after v)

def Mirrors (R : σ → σ → Prop) (x y : Action σ α) : Prop := ∀ w v, R w v → MirrorsAt R x y w v

/-- Two runs with the same effects. -/
def SameEffects (a b : List Event) : Prop :=
  a.filter (!·.isRetrieval) = b.filter (!·.isRetrieval)

instance : Matching SameEffects where
  nil := rfl
  note _ _ := rfl
  append ha hb := by
    unfold SameEffects at *
    rw [List.filter_append, List.filter_append, ha, hb]

/-- Nothing is asked of what happens. -/
instance : Matching fun _ _ => True := ⟨trivial, fun _ _ => trivial, fun _ _ => trivial⟩

variable {R : σ → σ → Prop}

theorem mirrorsAt_iff {x y : Action σ α} {w v : σ} :
    MirrorsAt R x y w v ↔ ParallelAt R SameEffects x y w v :=
  ⟨fun h => ⟨h.result, h.effects, h.after⟩, fun h => ⟨h.result, h.events, h.after⟩⟩

theorem mirrors_iff {x y : Action σ α} : Mirrors R x y ↔ Parallel R SameEffects x y :=
  forall₃_congr fun _ _ _ => mirrorsAt_iff

lemma Mirrors.pure (a : α) : Mirrors R (Pure.pure a) (Pure.pure a) := mirrors_iff.2 (.pure a)

lemma Mirrors.log (r : LogRecord) : Mirrors R (Action.log r) (Action.log r) :=
  mirrors_iff.2 (.log r)

lemma Mirrors.bind {x y : Action σ α} {f g : α → Action σ β} (h : Mirrors R x y)
    (hfg : ∀ a, Mirrors R (f a) (g a)) : Mirrors R (x >>= f) (y >>= g) :=
  mirrors_iff.2 ((mirrors_iff.1 h).bind fun a => mirrors_iff.1 (hfg a))

end Action

end FeatureToggle
