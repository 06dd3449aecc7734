import FeatureToggle.Storage.Basic

/-!
# Stores

A store keeps states in memory, each under the name of its feature. It counts its reads, can be told
to fail, and notes every request under its name if it has one.
-/
namespace FeatureToggle

/-- States by the names of their features. -/
structure States where
  map : SortedMap FeatureState
  keyed : ∀ e ∈ map.entries, e.2.feature = e.1

namespace States

def empty : States := ⟨.empty, by simp⟩

instance : Inhabited States := ⟨empty⟩

def get? (m : States) (feature : String) : Option FeatureState := m.map.get? feature

def put (m : States) (s : FeatureState) : States :=
  ⟨m.map.insert s.feature s, fun e he => by
    rcases mem_insertEntry he with rfl | he
    · rfl
    · exact m.keyed e he⟩

/-- Of several states of one feature the last stays. -/
def ofList (states : List FeatureState) : States := states.foldl put empty

@[simp] theorem get?_empty (feature : String) : empty.get? feature = none := rfl

@[simp] theorem get?_put (m : States) (s : FeatureState) (feature : String) :
    (m.put s).get? feature = if s.feature = feature then some s else m.get? feature := by
  simp [get?, put]

theorem feature_of_get? {m : States} {feature : String} {s : FeatureState}
    (h : m.get? feature = some s) : s.feature = feature := by
  have key : ∀ entries : List (String × FeatureState), (∀ e ∈ entries, e.2.feature = e.1) →
      findEntry feature entries = some s → s.feature = feature := by
    intro entries
    induction entries with
    | nil => simp [findEntry]
    | cons e rest ih =>
      intro hk hf
      by_cases he : e.1 = feature
      · have := hk e (by simp)
        simp_all [findEntry]
      · exact ih (fun e' h' => hk e' (by simp [h'])) (by simpa [findEntry, he] using hf)
  exact key _ m.keyed h

end States

structure Store where
  name : Option String
  states : States
  failsReads : Bool
  failsWrites : Bool
  reads : Nat
  deriving Inhabited

namespace Store

/-- A store without a name that never fails. -/
def plain (states : States) : Store := ⟨none, states, false, false, 0⟩

/-- Notes an event of a store that has a name. -/
def note {σ : Type} (s : Store) (event : String → Event) : Action σ Unit :=
  match s.name with
  | none => pure ()
  | some name => Action.note (event name)

/-- The failure of a request, in the words of the store. -/
def failure (s : Store) (request feature : String) : Error :=
  .store (s.name.getD "" ++ " cannot " ++ request ++ " " ++ feature)

def readOutcome (s : Store) (feature : String) : ReadOutcome :=
  if s.failsReads then .failed
  else if (s.states.get? feature).isSome then .found
  else .missing

/-- The events of a request to a store: one if it has a name, else none. -/
def noted (s : Store) (event : String → Event) : List Event := (s.name.map event).toList

@[simp] theorem after_note {σ : Type} (s : Store) (event : String → Event) (w : σ) :
    (s.note event : Action σ Unit).after w = w := by
  cases h : s.name <;> simp [note, h]

@[simp] theorem events_note {σ : Type} (s : Store) (event : String → Event) (w : σ) :
    (s.note event : Action σ Unit).events w = s.noted event := by
  cases h : s.name <;> simp [note, noted, h]

/-- The answer of a store to a read. -/
def answer (s : Store) (feature : String) : Except Error (Option FeatureState) :=
  if s.failsReads then .error (s.failure "read" feature) else .ok (s.states.get? feature)

/-- The answer of a store to a write. -/
def confirmation (s : Store) (feature : String) : Except Error Unit :=
  if s.failsWrites then .error (s.failure "write" feature) else .ok ()

/-- The store after a write. -/
def written (s : Store) (state : FeatureState) : Store :=
  if s.failsWrites then s else { s with states := s.states.put state }

end Store

namespace Repository

/-- The store in a slot. -/
def store {σ : Type} (slot : Slot σ Store) : Repository σ where
  read feature := do
    let s := slot.get (← Action.get)
    slot.update fun s => { s with reads := s.reads + 1 }
    s.note (.storeRead · feature (s.readOutcome feature))
    return s.answer feature
  write state := do
    let s := slot.get (← Action.get)
    s.note (.storeWritten · state (!s.failsWrites))
    slot.update (·.written state)
    return s.confirmation state.feature

variable {σ : Type} (slot : Slot σ Store)

@[simp] theorem result_store_read (feature : String) (w : σ) :
    ((store slot).read feature).result w = (slot.get w).answer feature := by
  simp [store]

@[simp] theorem after_store_read (feature : String) (w : σ) :
    ((store slot).read feature).after w =
      slot.put { slot.get w with reads := (slot.get w).reads + 1 } w := by
  simp [store]

@[simp] theorem events_store_read (feature : String) (w : σ) :
    ((store slot).read feature).events w =
      (slot.get w).noted (.storeRead · feature ((slot.get w).readOutcome feature)) := by
  simp [store]

@[simp] theorem result_store_write (state : FeatureState) (w : σ) :
    ((store slot).write state).result w = (slot.get w).confirmation state.feature := by
  simp [store]

@[simp] theorem after_store_write (state : FeatureState) (w : σ) :
    ((store slot).write state).after w = slot.put ((slot.get w).written state) w := by
  simp [store]

@[simp] theorem events_store_write (state : FeatureState) (w : σ) :
    ((store slot).write state).events w =
      (slot.get w).noted (.storeWritten · state (!(slot.get w).failsWrites)) := by
  simp [store]

end Repository

end FeatureToggle
