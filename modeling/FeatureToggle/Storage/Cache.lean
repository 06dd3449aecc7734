import FeatureToggle.Storage.Basic

/-!
# Caches

A cache stands in front of another repository and remembers what it read there, states and their
absence alike, until they are too old or written anew through the cache. A failed read is not
remembered; a write evicts what is remembered whether it succeeds or not.
-/
namespace FeatureToggle

structure CacheEntry where
  state : Option FeatureState
  /-- The reading of the clock when the state was read, in nanoseconds. -/
  time : Nat

abbrev Cache := SortedMap CacheEntry

/-- Entries keep for `ttl` nanoseconds, the last one included, or for ever if that is zero. -/
def CacheEntry.isFresh (e : CacheEntry) (ttl now : Nat) : Bool := ttl == 0 || now - e.time ≤ ttl

namespace Cache

/-- What is remembered of a feature, if it is not too old. -/
def fresh? (c : Cache) (ttl now : Nat) (feature : String) : Option CacheEntry :=
  (c.get? feature).filter (·.isFresh ttl now)

end Cache

/-- How long the entries of a cache keep. -/
inductive Expiry where
  | never
  | milliseconds (n : Int)
  | nanoseconds (n : Nat)
  deriving DecidableEq

/-- The time in nanoseconds. A negative time is an error. -/
def Expiry.ttl : Expiry → Except Error Nat
  | never => .ok 0
  | milliseconds n =>
    if n < 0 then .error (.configuration (.negativeTtl n)) else .ok (n.toNat * 1000000)
  | nanoseconds n => .ok n

/-- A cache in a slot, in front of another repository. -/
def Repository.cached {σ : Type} (slot : Slot σ Cache) (clock : σ → Nat) (ttl : Nat)
    (inner : Repository σ) : Repository σ where
  read feature := do
    let w ← Action.get
    match (slot.get w).fresh? ttl (clock w) feature with
    | some entry => return .ok entry.state
    | none =>
      Action.log (.cacheMiss feature)
      match ← inner.read feature with
      | .error e => return .error e
      | .ok state =>
        let w ← Action.get
        slot.update (·.insert feature ⟨state, clock w⟩)
        return .ok state
  write state := do
    let result ← inner.write state
    slot.update (·.erase state.feature)
    Action.log (.evicted state.feature)
    return result

namespace Repository

variable {σ : Type} {slot : Slot σ Cache} {clock : σ → Nat} {ttl : Nat} {inner : Repository σ}

/-- What is remembered is answered at once. -/
theorem run_cached_read_of_fresh {feature : String} {w : σ} {entry : CacheEntry}
    (h : (slot.get w).fresh? ttl (clock w) feature = some entry) :
    ((cached slot clock ttl inner).read feature).run w = ⟨(.ok entry.state, w), []⟩ := by
  unfold cached
  rw [Action.run_bind, Action.result_get, h]
  rfl

/-- What is not remembered is read, and not remembered if the read fails. -/
theorem run_cached_read_of_error {feature : String} {w : σ} {e : Error}
    (h : (slot.get w).fresh? ttl (clock w) feature = none)
    (hr : (inner.read feature).result w = .error e) :
    ((cached slot clock ttl inner).read feature).run w =
      ⟨(.error e, (inner.read feature).after w),
        .logged (.cacheMiss feature) :: (inner.read feature).events w⟩ := by
  unfold cached
  simp [Action.run_bind, h, hr, Action.run_pure]

/-- What is not remembered is read, and remembered if the read succeeds. -/
theorem run_cached_read_of_ok {feature : String} {w : σ} {state : Option FeatureState}
    (h : (slot.get w).fresh? ttl (clock w) feature = none)
    (hr : (inner.read feature).result w = .ok state) :
    ((cached slot clock ttl inner).read feature).run w =
      let read := (inner.read feature).after w
      ⟨(.ok state, slot.put ((slot.get read).insert feature ⟨state, clock read⟩) read),
        .logged (.cacheMiss feature) :: (inner.read feature).events w⟩ := by
  unfold cached
  simp [Action.run_bind, h, hr]
  rfl

@[simp] theorem result_cached_write (state : FeatureState) (w : σ) :
    ((cached slot clock ttl inner).write state).result w = (inner.write state).result w := by
  simp [cached]

@[simp] theorem after_cached_write (state : FeatureState) (w : σ) :
    ((cached slot clock ttl inner).write state).after w =
      let w := (inner.write state).after w
      slot.put ((slot.get w).erase state.feature) w := by
  simp [cached]

@[simp] theorem events_cached_write (state : FeatureState) (w : σ) :
    ((cached slot clock ttl inner).write state).events w =
      (inner.write state).events w ++ [.logged (.evicted state.feature)] := by
  simp [cached]

end Repository

end FeatureToggle
