import FeatureToggle.Proofs.Coherence

/-!
# Delivery of writes

Over stores that never fail every write succeeds, and the state comes to the targets of the tree and
to no other store. So what is read afterwards is settled by `Tree.Reached` alone.
-/
namespace FeatureToggle

open FeatureToggle.Action Repository

namespace Tree

/-- The state has come to the targets of the tree, and no other store has changed. -/
structure Delivered (s : FeatureState) (t : Tree) (w v : World) : Prop where
  target : ∀ id ∈ t.targets, (v.stores id).states.get? s.feature = some s
  other : ∀ id, id ∉ t.targets → v.kept id = w.kept id

/-- The state has come to the targets of all the trees, and no other store has changed. -/
structure DeliveredEach (s : FeatureState) (ts : List Tree) (w v : World) : Prop where
  target : ∀ t ∈ ts, ∀ id ∈ t.targets, (v.stores id).states.get? s.feature = some s
  other : ∀ id, (∀ t ∈ ts, id ∉ t.targets) → v.kept id = w.kept id

variable {call : Caller World} {kind : Listener → Prop} {s : FeatureState} {t : Tree}
  {w v u : World}

/-- Whoever does not touch what is kept may act before or after the delivery. -/
theorem Delivered.congr {w' v' : World} (h : Delivered s t w v) (hw : w.kept = w'.kept)
    (hv : v'.kept = v.kept) : Delivered s t w' v' := by
  refine ⟨fun id hid => ?_, fun id hid => ?_⟩
  · have hstates := congrArg Store.states (congrFun hv id)
    exact (congrArg (·.get? s.feature) hstates).trans (h.target id hid)
  · rw [hv, ← hw]
    exact h.other id hid

theorem Delivered.reached (h : Delivered s t w v) (hs : t.Sound v.kept) :
    Reached s t w.kept v.kept := by
  refine ⟨fun id hid => ?_, fun id _ hid => ?_⟩
  · rw [(hs id (targets_subset_leaves t hid)).answer]
    exact congrArg Except.ok (h.target id hid)
  · rw [h.other id hid]

theorem Sound.of_within {u : Tree} {feature : String} (hs : t.Sound w.kept)
    (h : Within u feature w v) : t.Sound v.kept :=
  fun id hid => h.sound (hs id hid)

/-- What comes later leaves the targets of the first tree alone or brings the same state. -/
theorem Delivered.cons {ts : List Tree} (h : Delivered s t w v) (hts : DeliveredEach s ts v u) :
    DeliveredEach s (t :: ts) w u := by
  constructor
  · intro t' ht' id hid
    by_cases hlater : ∃ t ∈ ts, id ∈ t.targets
    · obtain ⟨t, ht, hidt⟩ := hlater
      exact hts.target t ht id hidt
    · rcases List.mem_cons.1 ht' with rfl | ht'
      · have hkept := hts.other id fun t ht hidt => hlater ⟨t, ht, hidt⟩
        have hstates := congrArg Store.states hkept
        exact (congrArg (·.get? s.feature) hstates).trans (h.target id hid)
      · exact absurd ⟨t', ht', hid⟩ hlater
  · intro id hid
    rw [hts.other id fun t ht => hid t (List.mem_cons_of_mem _ ht)]
    exact h.other id (hid t List.mem_cons_self)

theorem DeliveredEach.composite {order : ReadOrder} {target : WriteTarget} {ts : List Tree}
    (h : DeliveredEach s (target.chosen ts) w v) :
    Delivered s (composite order target ts) w v := by
  constructor
  · intro id hid
    obtain ⟨t, ht, hidt⟩ := mem_targets_composite.1 hid
    exact h.target t ht id hidt
  · intro id hid
    exact h.other id fun t ht hidt => hid (mem_targets_composite.2 ⟨t, ht, hidt⟩)

/-- The loop over the chosen delegates of a composite, if every single write is delivered. -/
theorem writeEach_of_delivered (hq : call.Quiet kind) {order : ReadOrder} {target : WriteTarget}
    {ts : List Tree} (hd : (Tree.composite order target ts).Distinct)
    (ih : ∀ t ∈ ts, ∀ w, Standing kind t.caches w → t.Sound w.kept →
      ((t.repository call).write s).result w = .ok () ∧
        Delivered s t w (((t.repository call).write s).after w))
    {items : List (Tree × Nat)} (hitems : ∀ p ∈ items, p.1 ∈ ts)
    (hw : Standing kind (Tree.composite order target ts).caches w)
    (hs : (Tree.composite order target ts).Sound w.kept) :
    (writeEach s (items.map (Prod.map (repository call) id))).result w = [] ∧
      DeliveredEach s (items.map Prod.fst) w
        ((writeEach s (items.map (Prod.map (repository call) id))).after w) := by
  induction items generalizing w with
  | nil => exact ⟨rfl, by simp, fun id _ => rfl⟩
  | cons p rest ihrest =>
    obtain ⟨t, position⟩ := p
    have ht : t ∈ ts := hitems _ List.mem_cons_self
    have hwt : Standing kind t.caches w := hw.subset (caches_subset_composite ht)
    have hst : t.Sound w.kept := fun id hid => hs id (leaves_subset_composite ht hid)
    obtain ⟨hok, hdel⟩ := ih t ht w hwt hst
    have hwithin := (confined_write (s := s) hq t w hw.heeds).1
    have hv := hw.of_delegate hd ht hwithin (preserves_write hq (hd.of_mem ht) w hwt)
    obtain ⟨hresult, hrest⟩ :=
      ihrest (fun p hp => hitems p (List.mem_cons_of_mem _ hp)) hv (hs.of_within hwithin)
    have hrun := run_writeEach_of_ok position (rest.map (Prod.map (repository call) id)) hok
    rw [List.map_cons, List.map_cons, Prod.map, Action.result, Action.after]
    dsimp only [id_eq]
    rw [hrun]
    exact ⟨hresult, hdel.cons hrest⟩

/-- Over stores that never fail a write succeeds and is delivered. -/
theorem write_of_sound (hq : call.Quiet kind) (hd : t.Distinct) (hw : Standing kind t.caches w)
    (hs : t.Sound w.kept) :
    ((t.repository call).write s).result w = .ok () ∧
      Delivered s t w (((t.repository call).write s).after w) := by
  induction t generalizing w with
  | store id =>
    have hwrites : (w.stores id).failsWrites = false := (hs id (by simp [leaves])).writes
    rw [Tree.repository, result_store_write, after_store_write]
    refine ⟨by simp [World.store, Store.confirmation, hwrites], fun i hi => ?_, fun i hi => ?_⟩
    · obtain rfl : i = id := by simpa [targets] using hi
      simp [World.store, Store.written, hwrites]
    · have hne : i ≠ id := by simpa [targets] using hi
      simp [World.kept, World.store, World.setAt_of_ne _ _ hne]
  | cache id ttl inner ih =>
    have hinner : Standing kind inner.caches w := hw.subset (List.subset_cons_self _ _)
    obtain ⟨hok, hdel⟩ := ih hd.inner_of_cache hinner hs
    rw [Tree.repository, result_cached_write, after_cached_write]
    exact ⟨hok, hdel.target, hdel.other⟩
  | composite order target ts ih =>
    have hitems : ∀ p ∈ target.select ts, p.1 ∈ ts :=
      fun p hp => target.mem_of_mem_chosen (target.mem_chosen_of_mem_select hp)
    obtain ⟨hresult, hdel⟩ :=
      writeEach_of_delivered hq hd (fun t ht w => ih t ht (hd.of_mem ht)) hitems hw hs
    rw [Tree.repository, repositories_eq]
    simp only [Repository.composite, WriteTarget.select_map, result_bind, after_bind, hresult]
    exact ⟨rfl, hdel.composite⟩
  | listenable id inner ih =>
    have hd' : inner.Distinct := ⟨hd.leaves, hd.caches⟩
    obtain ⟨hread, hcoherent⟩ :=
      read_of_coherent call s.feature hd'.unambiguous (List.Subset.refl _) hw.coherent
    obtain ⟨previous, hprevious⟩ := Sound.exists_answer (t := inner) hs s.feature
    rw [hprevious] at hread
    have hro := inner.readOnly_read call s.feature w
    have hv : Standing kind inner.caches _ := ⟨hro.heeds hw.heeds, hcoherent⟩
    obtain ⟨hok, hdel⟩ := ih hd' hv (Sound.of_within hs hro.toWithin)
    have hrun := @run_listenable_write_of_ok _ (World.listenersAt id) call _ _ _ _ hread hok
    have hheeds := (confined_write (s := s) hq inner _ hv.heeds).2
    obtain ⟨hstores, -, -⟩ := hq.notify (s := s) id previous _ hheeds
    refine ⟨congrArg (·.value.1) hrun, ?_⟩
    rw [show ((repository call (listenable id inner)).write s).after w = _ from
      congrArg (·.value.2) hrun]
    have hdel' := hdel.congr hro.kept (World.kept_of_stores hstores)
    exact ⟨hdel'.target, hdel'.other⟩
  | journal j inner ih =>
    obtain ⟨hok, hdel⟩ := ih ⟨hd.leaves, hd.caches⟩ hw hs
    exact ⟨hok, hdel.target, hdel.other⟩

end Tree

end FeatureToggle
