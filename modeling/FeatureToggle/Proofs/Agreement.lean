import FeatureToggle.Proofs.Footprints

/-!
# Agreement on a feature

Two worlds may agree on all that concerns one feature, and differ in everything else. Requests for
that feature cannot tell them apart: they give the same answers, read the same stores equally often,
and leave the worlds in agreement (`Tree.parallel_read`).
-/
namespace FeatureToggle

open FeatureToggle.Action Repository

/-! ## Worlds that agree on a feature -/

/-- Two stores that keep the same of a feature, and fail alike. -/
structure Store.SameFor (feature : String) (s s' : Store) : Prop where
  name : s'.name = s.name
  failsReads : s'.failsReads = s.failsReads
  failsWrites : s'.failsWrites = s.failsWrites
  state : s'.states.get? feature = s.states.get? feature

namespace Store.SameFor

variable {feature : String} {s s' : Store}

theorem answer (h : s.SameFor feature s') : s'.answer feature = s.answer feature := by
  unfold Store.answer Store.failure
  rw [h.name, h.failsReads, h.state]

theorem noted_read (h : s.SameFor feature s') :
    s'.noted (.storeRead · feature (s'.readOutcome feature)) =
      s.noted (.storeRead · feature (s.readOutcome feature)) := by
  unfold Store.noted Store.readOutcome
  rw [h.name, h.failsReads, h.state]

theorem confirmation (h : s.SameFor feature s') :
    s'.confirmation feature = s.confirmation feature := by
  unfold Store.confirmation Store.failure
  rw [h.name, h.failsWrites]

theorem written (h : s.SameFor feature s') (state : FeatureState) :
    (s.written state).SameFor feature (s'.written state) := by
  unfold Store.written
  rw [h.failsWrites]
  split
  · exact h
  · refine ⟨h.name, h.failsReads, rfl, ?_⟩
    rw [States.get?_put, States.get?_put, h.state]

end Store.SameFor

/-- Two worlds that agree, and be it at the same time, on all that concerns a feature. How often
stores were read and who is registered does not count. -/
structure World.SameFor (feature : String) (w v : World) : Prop where
  now : v.now = w.now
  store : ∀ id, (w.stores id).SameFor feature (v.stores id)
  entry : ∀ id, (v.caches id).get? feature = (w.caches id).get? feature

namespace World.SameFor

variable {feature : String} {w v u : World}

theorem symm (h : w.SameFor feature v) : v.SameFor feature w where
  now := h.now.symm
  store id :=
    let hs := h.store id
    ⟨hs.name.symm, hs.failsReads.symm, hs.failsWrites.symm, hs.state.symm⟩
  entry id := (h.entry id).symm

theorem trans (h : w.SameFor feature v) (h' : v.SameFor feature u) : w.SameFor feature u where
  now := h'.now.trans h.now
  store id :=
    let hs := h.store id
    let hs' := h'.store id
    ⟨hs'.name.trans hs.name, hs'.failsReads.trans hs.failsReads,
      hs'.failsWrites.trans hs.failsWrites, hs'.state.trans hs.state⟩
  entry id := (h'.entry id).trans (h.entry id)

/-- What happens to another feature does not count. -/
theorem of_within {t : Tree} {other : String} (h : Within t other w v) (hnow : v.now = w.now)
    (hne : feature ≠ other) : w.SameFor feature v where
  now := hnow
  store id := ⟨h.name id, h.failsReads id, h.failsWrites id, h.states id feature hne⟩
  entry id := h.entries id feature hne

theorem put_store (h : w.SameFor feature v) (id : Nat) {s s' : Store} (hs : s.SameFor feature s') :
    ((World.store id).put s w).SameFor feature ((World.store id).put s' v) := by
  refine ⟨h.now, fun j => ?_, h.entry⟩
  by_cases hj : j = id
  · simpa [World.store, hj] using hs
  · simpa [World.store, World.setAt_of_ne _ _ hj] using h.store j

theorem put_cache (h : w.SameFor feature v) (id : Nat) {c c' : Cache}
    (hc : c'.get? feature = c.get? feature) :
    ((World.cache id).put c w).SameFor feature ((World.cache id).put c' v) := by
  refine ⟨h.now, h.store, fun j => ?_⟩
  by_cases hj : j = id
  · simpa [World.cache, hj] using hc
  · simpa [World.cache, World.setAt_of_ne _ _ hj] using h.entry j

/-- Both worlds remember the feature equally long. -/
theorem fresh? (h : w.SameFor feature v) (id ttl : Nat) :
    ((World.cache id).get v).fresh? ttl v.now feature =
      ((World.cache id).get w).fresh? ttl w.now feature := by
  unfold Cache.fresh?
  rw [h.now]
  exact congrArg _ (h.entry id)

end World.SameFor

/-! ## Reads of the feature that is agreed on -/

/-- Worlds that agree on a feature, of which the second has read each store as much more often as
`d` exceeds `c`. -/
structure World.Abreast (feature : String) (c d : Nat → Nat) (w v : World) : Prop
    extends World.SameFor feature w v where
  reads : ∀ id, (v.stores id).reads + c id = (w.stores id).reads + d id

instance : Matching Eq where
  nil := rfl
  note _ _ := rfl
  append ha hb := by rw [ha, hb]

namespace Tree

variable {feature : String}

/-- A read of the feature does the same in both worlds. -/
theorem parallel_read (call : Caller World) (c d : Nat → Nat) (t : Tree) :
    Parallel (World.Abreast feature c d) Eq ((t.repository call).read feature)
      ((t.repository call).read feature) := by
  induction t with
  | store id =>
    intro w v h
    have hstore := h.store id
    rw [Tree.repository]
    constructor
    · rw [result_store_read, result_store_read]
      exact hstore.answer.symm
    · rw [events_store_read, events_store_read]
      exact hstore.noted_read.symm
    · rw [after_store_read, after_store_read]
      refine ⟨h.put_store id ?_, fun j => ?_⟩
      · exact ⟨hstore.name, hstore.failsReads, hstore.failsWrites, hstore.state⟩
      · have hreads := h.reads j
        by_cases hj : j = id
        · subst hj
          simp only [World.store, World.setAt_self]
          omega
        · simpa only [World.store, World.setAt_of_ne _ _ hj] using hreads
  | cache id ttl inner ih =>
    intro w v h
    obtain ⟨hresult, hevents, hafter⟩ := ih w v h
    rw [Tree.repository]
    cases hfresh : ((World.cache id).get w).fresh? ttl w.now feature with
    | some entry =>
      have hfresh' := (h.fresh? id ttl).trans hfresh
      exact .of_run (run_cached_read_of_fresh hfresh) (run_cached_read_of_fresh hfresh') rfl h
    | none =>
      have hfresh' := (h.fresh? id ttl).trans hfresh
      cases hread : ((inner.repository call).read feature).result w with
      | error e =>
        have hread' := hresult.symm.trans hread
        exact .of_run (run_cached_read_of_error hfresh hread)
          (run_cached_read_of_error hfresh' hread') (congrArg (_ :: ·) hevents) hafter
      | ok state =>
        have hread' := hresult.symm.trans hread
        refine .of_run (run_cached_read_of_ok hfresh hread) (run_cached_read_of_ok hfresh' hread')
          (congrArg (_ :: ·) hevents) ⟨hafter.put_cache id ?_, hafter.reads⟩
        rw [SortedMap.get?_insert, SortedMap.get?_insert, if_pos rfl, if_pos rfl, hafter.now]
  | composite order target ts ih =>
    rw [Tree.repository, repositories_eq]
    exact parallel_composite_read order target ih
  | listenable id inner ih => exact ih
  | journal j inner ih => exact ih

end Tree

/-- The action does the same in both worlds, reads each store as often, and leaves them in
agreement. -/
structure Likewise {α : Type} (feature : String) (x : Action World α) (w v : World) : Prop where
  result : x.result w = x.result v
  events : x.events w = x.events v
  reads : ∀ id, ((x.after v).stores id).reads + (w.stores id).reads =
    ((x.after w).stores id).reads + (v.stores id).reads
  after : (x.after w).SameFor feature (x.after v)

/-- Wherever the counts of reads began, they go on side by side. -/
theorem Likewise.of_parallel {α : Type} {feature : String} {x : Action World α} {w v : World}
    (hx : ∀ c d, Parallel (World.Abreast feature c d) Eq x x) (h : w.SameFor feature v) :
    Likewise feature x w v := by
  obtain ⟨hresult, hevents, hafter⟩ := hx (fun id => (w.stores id).reads)
    (fun id => (v.stores id).reads) w v ⟨h, fun _ => Nat.add_comm _ _⟩
  exact ⟨hresult, hevents, hafter.reads, hafter.toSameFor⟩

theorem Tree.likewise_read {feature : String} {w v : World} (call : Caller World) (t : Tree)
    (h : w.SameFor feature v) : Likewise feature ((t.repository call).read feature) w v :=
  .of_parallel (fun c d => t.parallel_read call c d) h

end FeatureToggle
