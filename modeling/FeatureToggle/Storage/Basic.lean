import FeatureToggle.Trace

/-!
# Repositories

A repository answers two requests, each an action on a world that it shares with other repositories:
the stored state of a feature, and the replacement of a stored state. What a repository keeps, it
keeps in a slot of that world.
-/
namespace FeatureToggle

structure Repository (σ : Type) where
  /-- The stored state of a feature, if there is one. -/
  read : String → Action σ (Except Error (Option FeatureState))
  /-- Replaces the stored state of the feature that the given state belongs to. -/
  write : FeatureState → Action σ (Except Error Unit)

/-- A part of a world that can be seen and exchanged by itself. -/
structure Slot (σ κ : Type) where
  get : σ → κ
  put : κ → σ → σ
  get_put : ∀ k w, get (put k w) = k
  put_get : ∀ w, put (get w) w = w
  put_put : ∀ k k' w, put k (put k' w) = put k w

attribute [simp] Slot.get_put Slot.put_get Slot.put_put

/-- Changes what is in the slot. -/
def Slot.update {σ κ : Type} (slot : Slot σ κ) (f : κ → κ) : Action σ Unit :=
  Action.modify fun w => slot.put (f (slot.get w)) w

@[simp] theorem Slot.after_update {σ κ : Type} (slot : Slot σ κ) (f : κ → κ) (w : σ) :
    (slot.update f).after w = slot.put (f (slot.get w)) w := rfl

@[simp] theorem Slot.events_update {σ κ : Type} (slot : Slot σ κ) (f : κ → κ) (w : σ) :
    (slot.update f).events w = [] := rfl

/-- The whole world as a slot. -/
def Slot.whole (σ : Type) : Slot σ σ :=
  ⟨id, fun k _ => k, fun _ _ => rfl, fun _ => rfl, fun _ _ _ => rfl⟩

end FeatureToggle
