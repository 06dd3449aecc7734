import FeatureToggle.Storage.Cache
import FeatureToggle.Storage.Composite
import FeatureToggle.Storage.Journal
import FeatureToggle.Storage.Listener
import FeatureToggle.Storage.Store

/-!
# Trees of repositories

Stores, and what stands in front of them, form a tree. Its nodes are data; what they keep is in a
world under the numbers of the nodes, so that two trees which share a number share what is kept.
-/
namespace FeatureToggle

inductive Tree where
  | store (id : Nat)
  | cache (id ttl : Nat) (inner : Tree)
  | composite (order : ReadOrder) (target : WriteTarget) (delegates : List Tree)
  | listenable (id : Nat) (inner : Tree)
  | journal (journal : Journal) (inner : Tree)
  deriving Inhabited

structure World where
  /-- The reading of the clock, in nanoseconds. -/
  now : Nat
  stores : Nat → Store
  caches : Nat → Cache
  listeners : Nat → List Registration
  /-- All listeners in the order of their registration. -/
  registered : List Listener
  /-- The registrations that did already what they do only once. -/
  spent : List Nat

namespace World

def initial : World := ⟨0, fun _ => .plain .empty, fun _ => .empty, fun _ => [], [], []⟩

/-- The function that takes `value` at `i` and is `f` elsewhere. -/
def setAt {α : Type} (f : Nat → α) (i : Nat) (value : α) (j : Nat) : α :=
  if j = i then value else f j

@[simp] theorem setAt_self {α : Type} (f : Nat → α) (i : Nat) (value : α) :
    setAt f i value i = value := by simp [setAt]

theorem setAt_of_ne {α : Type} (f : Nat → α) {i j : Nat} (value : α) (h : j ≠ i) :
    setAt f i value j = f j := by simp [setAt, h]

@[simp] theorem setAt_eq (α : Type) (f : Nat → α) (i : Nat) : setAt f i (f i) = f := by
  funext j; by_cases h : j = i <;> simp [setAt, h]

@[simp] theorem setAt_setAt {α : Type} (f : Nat → α) (i : Nat) (a b : α) :
    setAt (setAt f i a) i b = setAt f i b := by
  funext j; by_cases h : j = i <;> simp [setAt, h]

def store (id : Nat) : Slot World Store where
  get w := w.stores id
  put s w := { w with stores := setAt w.stores id s }
  get_put := by simp
  put_get := by simp
  put_put := by simp

def cache (id : Nat) : Slot World Cache where
  get w := w.caches id
  put c w := { w with caches := setAt w.caches id c }
  get_put := by simp
  put_get := by simp
  put_put := by simp

def listenersAt (id : Nat) : Slot World (List Registration) where
  get w := w.listeners id
  put rs w := { w with listeners := setAt w.listeners id rs }
  get_put := by simp
  put_get := by simp
  put_put := by simp

/-- Registers a listener with a node. -/
def register (w : World) (id : Nat) (l : Listener) : World :=
  let r : Registration := ⟨w.registered.length, l⟩
  { w with
    listeners := setAt w.listeners id (insertRegistration r (w.listeners id))
    registered := w.registered ++ [l] }

end World

namespace Tree

mutual

/-- The repository of a tree, given how listeners are called. -/
def repository (call : Caller World) : Tree → Repository World
  | store id => .store (World.store id)
  | cache id ttl inner => .cached (World.cache id) World.now ttl (inner.repository call)
  | composite order target delegates => .composite order target (repositories call delegates)
  | listenable id inner => .listenable (World.listenersAt id) call (inner.repository call)
  | journal j inner => .journaled j (inner.repository call)

def repositories (call : Caller World) : List Tree → List (Repository World)
  | [] => []
  | t :: ts => t.repository call :: repositories call ts

end

end Tree

end FeatureToggle
