import FeatureToggle.Storage.Tree

/-!
# Assemblies of repositories

An assembly is a tree of repositories together with its world and with the names of its nodes. It is
built from a blueprint, from the leaves up and from left to right; a part that was built before can be
named again, and is then shared.
-/
namespace FeatureToggle

inductive Blueprint where
  | store (name : String) (states : List FeatureState) (failsReads failsWrites : Bool)
  | cache (name : String) (expiry : Expiry) (inner : Blueprint)
  | composite (name : String) (order : ReadOrder) (target : WriteTarget)
      (delegates : List Blueprint)
  | listenable (name : String) (listeners : List Listener) (inner : Blueprint)
  | journal (name : String) (journal : Journal) (inner : Blueprint)
  /-- The same part under one more name. -/
  | named (name : String) (inner : Blueprint)
  /-- A part that was built before. -/
  | shared (name : String)
  deriving Inhabited

/-- What is there while an assembly is being built: the parts by name, the last one first, the number of
the next node, and the world. -/
structure Workshop where
  parts : List (String × Tree)
  next : Nat
  world : World

namespace Workshop

def empty : Workshop := ⟨[], 0, .initial⟩

def part? (w : Workshop) (name : String) : Option Tree := findEntry name w.parts

/-- Gives a part a name. -/
def name (w : Workshop) (name : String) (t : Tree) : Workshop :=
  { w with parts := (name, t) :: w.parts }

/-- Takes a new number. -/
def number (w : Workshop) : Nat × Workshop := (w.next, { w with next := w.next + 1 })

/-- A store that is given a number and a name. -/
def addStore (w : Workshop) (name : String) (s : Store) : Tree × Workshop :=
  let (id, w) := w.number
  let t := Tree.store id
  (t, { w with world := (World.store id).put s w.world }.name name t)

end Workshop

namespace Blueprint

mutual

/-- Builds a part. A name that was not built before stands for an empty store. -/
def build (w : Workshop) : Blueprint → Except Error (Tree × Workshop)
  | store name states failsReads failsWrites =>
    .ok (w.addStore name ⟨some name, .ofList states, failsReads, failsWrites, 0⟩)
  | cache name expiry inner => do
    let (t, w) ← inner.build w
    let ttl ← expiry.ttl
    let (id, w) := w.number
    let t := Tree.cache id ttl t
    return (t, w.name name t)
  | composite name order target delegates => do
    let (ts, w) ← buildAll w delegates
    if ts.isEmpty then throw (.configuration .noDelegates)
    let t := Tree.composite order target ts
    return (t, w.name name t)
  | listenable name listeners inner => do
    let (t, w) ← inner.build w
    let (id, w) := w.number
    let t := Tree.listenable id t
    let world := listeners.foldl (fun world l => world.register id l) w.world
    return (t, { w with world }.name name t)
  | journal name j inner => do
    let (t, w) ← inner.build w
    let t := Tree.journal j t
    return (t, w.name name t)
  | named name inner => do
    let (t, w) ← inner.build w
    return (t, w.name name t)
  | shared name =>
    match w.part? name with
    | some t => .ok (t, w)
    | none => .ok (w.addStore name (.plain .empty))

def buildAll (w : Workshop) : List Blueprint → Except Error (List Tree × Workshop)
  | [] => .ok ([], w)
  | b :: bs => do
    let (t, w) ← b.build w
    let (ts, w) ← buildAll w bs
    return (t :: ts, w)

end

end Blueprint

/-! ## Listeners that act on the assembly -/

/-- The number of listeners that a reaction may ever bring in, itself included. -/
def Reaction.count : Reaction → Nat
  | register _ _ _ _ reaction => reaction.count + 1
  | _ => 1

/-- How deep calls of listeners are followed into each other: at least so far that each listener can be
called once before the next one is registered. -/
def World.nesting (w : World) : Nat :=
  let count := w.registered.foldr (fun l n => l.reaction.count + n) 1
  count * count

/-- A failure with the given reason, if the listener tells. -/
def Listener.failure (l : Listener) (reason : String) : Outcome :=
  if l.reports then .failed reason else .done

/-- What becomes of a call in which the listener writes, by the answer that it gets. -/
def Listener.outcomeOf (l : Listener) : Except Error Unit → Outcome
  | .ok () => .done
  | .error e => l.failure e.message

/-- What a listener does, with at most `depth` further calls in each other. Where more would be needed,
the trace says so. -/
def react (parts : String → Option Tree) : Nat → Caller World
  | depth, r, _, current =>
    match r.listener.reaction with
    | .nothing => return .done
    | .fail => return r.listener.failure (r.listener.name ++ " failed")
    | .panic => return .panicked
    | .register target name priority reports reaction => do
      if (← Action.get).spent.contains r.serial then return .done
      Action.modify fun w => { w with spent := r.serial :: w.spent }
      match parts target with
      | some (.listenable id _) =>
        Action.modify (World.register · id ⟨name, priority, reports, reaction⟩)
      | _ => pure ()
      return .done
    | .copy target feature => do
      if current.feature = feature then return .done
      match parts target, depth with
      | none, _ => return .done
      | some _, 0 =>
        Action.note (.cutOff r.listener.name)
        return .done
      | some t, depth + 1 =>
        let state := .of feature current.enabled
        return r.listener.outcomeOf (← (t.repository (react parts depth)).write state)

/-- Calls a listener, and follows the calls that come of it to the depth of its world. -/
def callListener (parts : String → Option Tree) : Caller World := fun r previous current =>
  ⟨fun w => (react parts w.nesting r previous current).run w⟩

structure Assembly where
  parts : List (String × Tree)
  root : Tree
  world : World

namespace Assembly

def ofBlueprint (b : Blueprint) : Except Error Assembly := do
  let (root, w) ← b.build .empty
  return ⟨w.parts, root, w.world⟩

/-- An assembly of one store without a name. -/
def inMemory : Assembly := ⟨[], .store 0, .initial⟩

def part? (s : Assembly) (name : String) : Option Tree := findEntry name s.parts

/-- The repository of a part. -/
def repositoryOf (s : Assembly) (t : Tree) : Repository World := t.repository (callListener s.part?)

def repository (s : Assembly) : Repository World := s.repositoryOf s.root

/-- Runs an action on the world of the assembly. -/
def run {α : Type} (s : Assembly) (x : Action World α) : Traced (α × Assembly) :=
  let y := x.run s.world
  ⟨(y.value.1, { s with world := y.value.2 }), y.events⟩

/-! ## Access to single nodes -/

/-- Lets time pass. -/
def wait (s : Assembly) (nanoseconds : Nat) : Assembly :=
  { s with world := { s.world with now := s.world.now + nanoseconds } }

def updateStore (s : Assembly) (id : Nat) (f : Store → Store) : Assembly :=
  { s with world := (World.store id).put (f (s.world.stores id)) s.world }

/-- Tells a store which requests to fail from now on; `none` leaves things as they are. -/
def setFailures (s : Assembly) (id : Nat) (reads writes : Option Bool) : Assembly :=
  s.updateStore id fun store =>
    { store with
      failsReads := reads.getD store.failsReads
      failsWrites := writes.getD store.failsWrites }

def reads (s : Assembly) (id : Nat) : Nat := (s.world.stores id).reads

/-- Forgets everything that a cache remembers. -/
def clear (s : Assembly) (id : Nat) : Assembly :=
  { s with world := (World.cache id).put .empty s.world }

def addListener (s : Assembly) (id : Nat) (l : Listener) : Assembly :=
  { s with world := s.world.register id l }

def listenerCount (s : Assembly) (id : Nat) : Nat := (s.world.listeners id).length

end Assembly

end FeatureToggle
