import FeatureToggle.Proofs.Agreement
import FeatureToggle.Proofs.CacheErasure
import FeatureToggle.Proofs.Decisions
import FeatureToggle.Proofs.Reachability
import FeatureToggle.Proofs.ReadScopes

/-!
# Isolation of features

What is set for one feature does not show at another one. Worlds that agree on a feature stay in
agreement when both get the same requests, whatever features these are for (`Manager.twins_run`),
and a write to another feature leaves a world in agreement with the one before. So two runs that
differ in one write answer alike wherever they are asked for another feature
(`Manager.setState_isolated`).
-/
namespace FeatureToggle

open FeatureToggle.Action Repository

/-! ## Two runs -/

/-- Two worlds that agree on a feature, and in which only listeners of a kind are registered. -/
structure World.Twins (kind : Listener → Prop) (feature : String) (w v : World) : Prop
    extends World.SameFor feature w v where
  heeds : w.Heeds kind
  heeds' : v.Heeds kind

/-- Each of two such worlds may change by itself in what does not concern the feature. -/
theorem World.Twins.apart {kind : Listener → Prop} {feature : String} {w v w' v' : World}
    (h : World.Twins kind feature w v) (hw : w.SameFor feature w' ∧ w'.Heeds kind)
    (hv : v.SameFor feature v' ∧ v'.Heeds kind) : World.Twins kind feature w' v' :=
  ⟨(hw.1.symm.trans h.toSameFor).trans hv.1, hw.2, hv.2⟩

/-- Telling idle listeners leaves alone what is stored and remembered, and the clock. -/
theorem Caller.Idle.notify {call : Caller World} {kind : Listener → Prop} (hq : call.Idle kind)
    {s : FeatureState} (feature : String) (id : Nat) (previous : Option FeatureState) {w : World}
    (hw : w.Heeds kind) :
    let told := (FeatureToggle.notify call previous s (w.listeners id)).after w
    w.SameFor feature told ∧ told.Heeds kind := by
  obtain ⟨hstores, hcaches, hheeds⟩ := hq.toQuiet.notify (s := s) id previous w hw
  obtain ⟨-, hnow, -⟩ := hq.scoped_notify (s := s) feature id previous w hw
  refine ⟨⟨hnow, fun i => ?_, fun i => ?_⟩, hheeds⟩
  · rw [hstores]
    exact ⟨rfl, rfl, rfl, rfl⟩
  · rw [hcaches]

namespace Tree

variable {call : Caller World} {kind : Listener → Prop} {s : FeatureState} {feature : String}
  {w v : World}

/-- The same read in both worlds leaves them in agreement, whichever feature is read. -/
theorem twins_read (call : Caller World) (t : Tree) (other : String)
    (h : World.Twins kind feature w v) :
    World.Twins kind feature (((t.repository call).read other).after w)
      (((t.repository call).read other).after v) := by
  have hread := t.readOnly_read call other
  by_cases ho : feature = other
  · subst ho
    exact ⟨(t.likewise_read call h.toSameFor).after, (hread w).heeds h.heeds,
      (hread v).heeds h.heeds'⟩
  · have hside {u : World} (hu : u.Heeds kind) := And.intro
      (World.SameFor.of_within (hread u).toWithin (hread u).now.symm ho) ((hread u).heeds hu)
    exact h.apart (hside h.heeds) (hside h.heeds')

/-- A write to the feature has the same result in both worlds and leaves them in agreement. The
listeners of the two worlds need not be the same, nor what happens. -/
theorem parallel_write (hq : call.Idle kind) (t : Tree) :
    Parallel (World.Twins kind s.feature) (fun _ _ => True) ((t.repository call).write s)
      ((t.repository call).write s) := by
  induction t with
  | store id =>
    intro w v h
    have hstore := h.store id
    rw [Tree.repository]
    constructor
    · rw [result_store_write, result_store_write]
      exact hstore.confirmation.symm
    · trivial
    · rw [after_store_write, after_store_write]
      exact ⟨h.put_store id (hstore.written s), h.heeds, h.heeds'⟩
  | cache id ttl inner ih =>
    intro w v h
    obtain ⟨hresult, -, hafter⟩ := ih w v h
    rw [Tree.repository]
    constructor
    · rw [result_cached_write, result_cached_write]
      exact hresult
    · trivial
    · rw [after_cached_write, after_cached_write]
      refine ⟨hafter.put_cache id ?_, hafter.heeds, hafter.heeds'⟩
      rw [SortedMap.get?_erase, SortedMap.get?_erase, if_pos rfl, if_pos rfl]
  | composite order target ts ih =>
    rw [Tree.repository, repositories_eq]
    exact parallel_composite_write order target ih
  | listenable id inner ih =>
    refine parallel_listenable_write (fun w v h => ?_) ih fun previous w v h => ?_
    · exact ⟨(inner.likewise_read call h.toSameFor).result, trivial,
        inner.twins_read call s.feature h⟩
    · exact ⟨rfl, trivial, h.apart (hq.notify s.feature id previous h.heeds)
        (hq.notify s.feature id previous h.heeds')⟩
  | journal j inner ih => exact Parallel.bind (Parallel.log _) fun _ => ih

/-- A write does not concern other features. -/
theorem sameFor_write (hq : call.Idle kind) (t : Tree) (hne : feature ≠ s.feature)
    (hw : w.Heeds kind) :
    w.SameFor feature (((t.repository call).write s).after w) ∧
      (((t.repository call).write s).after w).Heeds kind := by
  obtain ⟨hwithin, hheeds⟩ := confined_write (s := s) hq.toQuiet t w hw
  obtain ⟨-, hnow, -⟩ := leaves_scoped_write (s := s) hq t w hw
  exact ⟨.of_within hwithin hnow hne, hheeds⟩

/-- The same write in both worlds leaves them in agreement, whichever feature is written. -/
theorem twins_write (hq : call.Idle kind) (t : Tree) (s : FeatureState)
    (h : World.Twins kind feature w v) :
    World.Twins kind feature (((t.repository call).write s).after w)
      (((t.repository call).write s).after v) := by
  by_cases hs : feature = s.feature
  · subst hs
    exact (parallel_write hq t w v h).after
  · exact h.apart (sameFor_write hq t hs h.heeds) (sameFor_write hq t hs h.heeds')

end Tree

namespace Manager

variable {m : Manager World} {t : Tree} {call : Caller World} {kind : Listener → Prop}
  {feature : String} {w v : World}

/-- The same request in both worlds leaves them in agreement. -/
theorem twins_step (hm : m.repository = t.repository call) (hq : call.Idle kind)
    (h : World.Twins kind feature w v) (r : Request) :
    World.Twins kind feature (m.step w r) (m.step v r) := by
  cases r with
  | setState s =>
    rw [step, step, setState, hm]
    exact t.twins_write hq s h
  | state other =>
    rw [step, step, after_state, after_state, hm]
    exact t.twins_read call other h
  | isActiveFor other user =>
    rw [step, step, after_isActiveFor, after_isActiveFor, hm]
    exact t.twins_read call other h
  | clear id => exact ⟨h.put_cache id rfl, h.heeds, h.heeds'⟩
  | wait nanoseconds =>
    exact ⟨⟨congrArg (· + nanoseconds) h.now, h.store, h.entry⟩, h.heeds, h.heeds'⟩

theorem twins_run (hm : m.repository = t.repository call) (hq : call.Idle kind)
    (h : World.Twins kind feature w v) (requests : List Request) :
    World.Twins kind feature (m.run w requests) (m.run v requests) := by
  induction requests generalizing w v with
  | nil => exact h
  | cons r rest ih => exact ih (twins_step hm hq h r)

/-- A manager cannot tell the two worlds apart by asking for the feature. -/
structure Indifferent (m : Manager World) (feature : String) (w v : World) : Prop where
  agree : w.SameFor feature v
  read : Likewise feature (m.repository.read feature) w v
  state : Likewise feature (m.state feature) w v
  isActiveFor : ∀ user, Likewise feature (m.isActiveFor feature user) w v

theorem indifferent (hm : m.repository = t.repository call) (h : w.SameFor feature v) :
    m.Indifferent feature w v := by
  have hread (c d : Nat → Nat) : Parallel (World.Abreast feature c d) Eq
      (m.repository.read feature) (m.repository.read feature) := by
    rw [hm]
    exact t.parallel_read call c d
  have hlift {α : Type} (c d : Nat → Nat) (x : Traced α) :
      Parallel (World.Abreast feature c d) Eq (Action.lift x) (Action.lift x) :=
    fun _ _ h => ⟨rfl, rfl, h⟩
  refine ⟨h, .of_parallel hread h, .of_parallel (fun c d => ?_) h, fun user =>
    .of_parallel (fun c d => ?_) h⟩
  · refine Parallel.bind (hread c d) fun answer => ?_
    split
    · exact Parallel.pure _
    · exact Parallel.pure _
    · exact Parallel.bind (hlift c d _) fun _ => Parallel.pure _
  · refine Parallel.bind (hread c d) fun answer => ?_
    split
    · exact Parallel.pure _
    · exact hlift c d _

/-- A write, whatever becomes of it, does not show at any other feature: no store is asked for one,
and a run with the write and one without answer requests for one in the same way, with the same
reads of stores. And whatever state is answered for a feature, it belongs to that feature. -/
theorem setState_isolated (hm : m.repository = t.repository call) (hq : call.Idle kind)
    (hd : t.Distinct) (hcold : ∀ id ∈ t.cacheIds, w.caches id = .empty) (hw : w.Heeds kind)
    (hv : t.Leads call kind w v) (s : FeatureState) :
    (∀ feature, feature ≠ s.feature →
      (∀ e ∈ (m.setState s).events v, e.readFeature ≠ some feature) ∧
        ∀ later : List Request,
          m.Indifferent feature (m.run v later) (m.run ((m.setState s).after v) later)) ∧
      ∀ feature state,
        ((m.repository.read feature).result v = .ok (some state) → state.feature = feature) ∧
          ((m.state feature).result v = .ok state → state.feature = feature) := by
  have hupright : call.Upright t kind := .quiet hq.toQuiet
  have hheeds := (hv.standing hupright hd hcold hw).heeds
  refine ⟨fun feature hne => ?_, fun feature state => ?_⟩
  · rw [setState, hm]
    refine ⟨fun e he hread => ?_, fun later => ?_⟩
    · obtain ⟨hreads, -, -⟩ := Tree.leaves_scoped_write (s := s) hq t v hheeds
      exact hne (hreads e he feature hread)
    · obtain ⟨hagree, hafter⟩ := Tree.sameFor_write hq t hne hheeds
      exact indifferent hm (twins_run hm hq ⟨hagree, hheeds, hafter⟩ later).toSameFor
  · have hanswer := hv.result_read hupright hd hcold hw feature
    rw [← hm] at hanswer
    have hread {state : FeatureState}
        (h : (m.repository.read feature).result v = .ok (some state)) : state.feature = feature :=
      Tree.feature_of_answer (hanswer.symm.trans h)
    refine ⟨hread, fun h => ?_⟩
    rw [result_state] at h
    cases hstored : (m.repository.read feature).result v with
    | error e =>
      rw [hstored] at h
      cases h
    | ok stored =>
      rw [hstored] at h
      obtain rfl := Except.ok.inj h
      cases stored with
      | none => rfl
      | some state => exact hread hstored

/-- A manager over caches within a cache, in front of two stores. -/
def sheltered : Manager World :=
  { administered with repository := Tree.nestedCaches.repository (callListener fun _ => none) }

theorem setState_isolated_sheltered :
    let v := (sheltered.setState (.of "alpha" true)).after Tree.halfFailing
    let later := [Request.state "alpha", .wait 7]
    Tree.nestedCaches.Distinct ∧ Tree.halfFailing.Heeds Listener.Silent ∧
      (sheltered.setState (.of "beta" true)).result v =
        .error (.partialWrite 2 [(1, .store "1 cannot write beta")]) ∧
      sheltered.Indifferent "alpha" (sheltered.run v later)
        (sheltered.run ((sheltered.setState (.of "beta" true)).after v) later) ∧
      (sheltered.isActiveFor "alpha" none).result
        (sheltered.run ((sheltered.setState (.of "beta" true)).after v) later) = .ok true := by
  intro v later
  have hq : (callListener fun _ => none).Idle Listener.Silent := callListener_idle _
  have hd : Tree.nestedCaches.Distinct := ⟨by decide, by decide⟩
  have hw : Tree.halfFailing.Heeds Listener.Silent := World.heeds_restless
  have hv : Tree.nestedCaches.Leads (callListener fun _ => none) Listener.Silent
      Tree.halfFailing v := .write _ .start
  obtain ⟨hisolated, -⟩ :=
    setState_isolated (m := sheltered) rfl hq hd (fun _ _ => rfl) hw hv (.of "beta" true)
  obtain ⟨-, hlater⟩ := hisolated "alpha" (by decide)
  have hindifferent := hlater later
  exact ⟨hd, hw, rfl, hindifferent, (hindifferent.isActiveFor none).result.symm.trans rfl⟩

end Manager

end FeatureToggle
