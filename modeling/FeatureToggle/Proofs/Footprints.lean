import FeatureToggle.Proofs.Answers
import FeatureToggle.Proofs.Listeners

/-!
# Footprints of requests

How far the traces of a request go. A request to a tree on a feature changes nothing but what the
stores and caches of that tree keep of that feature; a read changes no more than the counts of reads
and the caches. None of this depends on what the caches hold.
-/
namespace FeatureToggle

/-- Two worlds that differ at most in what the nodes of `t` keep of `feature`, and in what concerns
the listeners. -/
structure Within (t : Tree) (feature : String) (w v : World) : Prop where
  store : ∀ id, id ∉ t.leaves → v.stores id = w.stores id
  name : ∀ id, (v.stores id).name = (w.stores id).name
  failsReads : ∀ id, (v.stores id).failsReads = (w.stores id).failsReads
  failsWrites : ∀ id, (v.stores id).failsWrites = (w.stores id).failsWrites
  states : ∀ id other, other ≠ feature →
    (v.stores id).states.get? other = (w.stores id).states.get? other
  cache : ∀ id, id ∉ t.cacheIds → v.caches id = w.caches id
  entries : ∀ id other, other ≠ feature → (v.caches id).get? other = (w.caches id).get? other

namespace Within

variable {t t' : Tree} {feature : String} {w v : World}

instance : IsPreorder World (Within t feature) where
  refl _ := ⟨fun _ _ => rfl, fun _ => rfl, fun _ => rfl, fun _ => rfl, fun _ _ _ => rfl,
    fun _ _ => rfl, fun _ _ _ => rfl⟩
  trans _ _ _ huv hvw := {
    store := fun id hid => (hvw.store id hid).trans (huv.store id hid)
    name := fun id => (hvw.name id).trans (huv.name id)
    failsReads := fun id => (hvw.failsReads id).trans (huv.failsReads id)
    failsWrites := fun id => (hvw.failsWrites id).trans (huv.failsWrites id)
    states := fun id g hg => (hvw.states id g hg).trans (huv.states id g hg)
    cache := fun id hid => (hvw.cache id hid).trans (huv.cache id hid)
    entries := fun id g hg => (hvw.entries id g hg).trans (huv.entries id g hg) }

/-- A change within a part of a tree is one within the tree. -/
theorem mono (h : Within t feature w v) (hl : t.leaves ⊆ t'.leaves)
    (hc : t.cacheIds ⊆ t'.cacheIds) : Within t' feature w v :=
  { h with
    store := fun id hid => h.store id fun hmem => hid (hl hmem)
    cache := fun id hid => h.cache id fun hmem => hid (hc hmem) }

theorem of_delegate {order : ReadOrder} {target : WriteTarget} {ts : List Tree} (ht : t ∈ ts)
    (h : Within t feature w v) : Within (.composite order target ts) feature w v :=
  h.mono (Tree.leaves_subset_composite ht)
    (List.map_subset _ (Tree.caches_subset_composite ht))

theorem of_inner {id ttl : Nat} (h : Within t feature w v) :
    Within (.cache id ttl t) feature w v :=
  h.mono (List.Subset.refl _) (List.subset_cons_self _ _)

/-- What is remembered of the feature in a cache of the tree may be replaced. -/
theorem put_cache {id : Nat} (hid : id ∈ t.cacheIds) (c : Cache)
    (hc : ∀ other, other ≠ feature → c.get? other = (w.caches id).get? other) :
    Within t feature w ((World.cache id).put c w) where
  store _ _ := rfl
  name _ := rfl
  failsReads _ := rfl
  failsWrites _ := rfl
  states _ _ _ := rfl
  cache j hj := World.setAt_of_ne _ _ fun heq => hj (heq ▸ hid)
  entries j other ho := by
    by_cases hj : j = id
    · subst hj
      simpa [World.cache] using hc other ho
    · simp [World.cache, World.setAt_of_ne _ _ hj]

/-- What is stored of the feature in a store of the tree may be replaced. -/
theorem put_store {id : Nat} (hid : id ∈ t.leaves) (s : Store)
    (hname : s.name = (w.stores id).name) (hreads : s.failsReads = (w.stores id).failsReads)
    (hwrites : s.failsWrites = (w.stores id).failsWrites)
    (hs : ∀ other, other ≠ feature →
      s.states.get? other = (w.stores id).states.get? other) :
    Within t feature w ((World.store id).put s w) where
  store j hj := World.setAt_of_ne _ _ fun heq => hj (heq ▸ hid)
  name j := by by_cases hj : j = id <;> simp [World.store, World.setAt, hj, hname]
  failsReads j := by by_cases hj : j = id <;> simp [World.store, World.setAt, hj, hreads]
  failsWrites j := by by_cases hj : j = id <;> simp [World.store, World.setAt, hj, hwrites]
  states j other ho := by
    by_cases hj : j = id
    · subst hj
      simpa [World.store] using hs other ho
    · simp [World.store, World.setAt_of_ne _ _ hj]
  cache _ _ := rfl
  entries _ _ _ := rfl

/-- What a store answers for another feature stays. -/
theorem store_answer (h : Within t feature w v) (id : Nat) {other : String} (ho : other ≠ feature) :
    (v.kept id).answer other = (w.kept id).answer other := by
  have hname := h.name id
  have hreads := h.failsReads id
  have hstates := h.states id other ho
  unfold World.kept Store.uncounted Store.answer Store.failure
  dsimp only
  rw [hname, hreads, hstates]

theorem kept_of_not_mem (h : Within t feature w v) {id : Nat} (hid : id ∉ t.leaves) :
    v.kept id = w.kept id := by
  rw [World.kept, World.kept, h.store id hid]

theorem sound (h : Within t feature w v) {id : Nat} (hs : (w.kept id).Sound) :
    (v.kept id).Sound :=
  ⟨(h.failsReads id).trans hs.reads, (h.failsWrites id).trans hs.writes⟩

end Within

/-! ## Reads -/

/-- Two worlds that differ at most in the counts of reads, and in what the caches of `t` remember of
`feature`. -/
structure ReadOnly (t : Tree) (feature : String) (w v : World) : Prop
    extends Within t feature w v, World.SameRoster w v where
  kept : v.kept = w.kept
  reads_le : ∀ id, (w.stores id).reads ≤ (v.stores id).reads

namespace ReadOnly

variable {t t' : Tree} {feature : String} {w v : World}

instance : IsPreorder World (ReadOnly t feature) where
  refl w := ⟨refl_of (Within t feature) w, ⟨rfl, rfl, rfl, rfl⟩, rfl, fun _ => Nat.le_refl _⟩
  trans _ _ _ huv hvw := {
    trans_of (Within t feature) huv.toWithin hvw.toWithin with
    now := huv.now.trans hvw.now
    listeners := huv.listeners.trans hvw.listeners
    registered := huv.registered.trans hvw.registered
    spent := huv.spent.trans hvw.spent
    kept := hvw.kept.trans huv.kept
    reads_le := fun id => Nat.le_trans (huv.reads_le id) (hvw.reads_le id) }

theorem of_within (h : ReadOnly t feature w v) (h' : Within t' feature w v) :
    ReadOnly t' feature w v := { h with toWithin := h' }

theorem put_cache {id : Nat} (hid : id ∈ t.cacheIds) (c : Cache)
    (hc : ∀ other, other ≠ feature → c.get? other = (w.caches id).get? other) :
    ReadOnly t feature w ((World.cache id).put c w) where
  toWithin := Within.put_cache hid c hc
  now := rfl
  listeners := rfl
  registered := rfl
  spent := rfl
  kept := rfl
  reads_le _ := Nat.le_refl _

theorem count_read (id : Nat) :
    ReadOnly (.store id) feature w
      ((World.store id).put { w.stores id with reads := (w.stores id).reads + 1 } w) where
  toWithin := Within.put_store (by simp [Tree.leaves]) _ rfl rfl rfl fun _ _ => rfl
  now := rfl
  listeners := rfl
  registered := rfl
  spent := rfl
  kept := by
    funext j
    by_cases hj : j = id <;> simp [World.kept, World.store, World.setAt, Store.uncounted, hj]
  reads_le j := by by_cases hj : j = id <;> simp [World.store, World.setAt, hj]

end ReadOnly

namespace Tree

open FeatureToggle.Action Repository

variable {call : Caller World} {feature : String} {s : FeatureState}

/-- A read stays within its tree. -/
theorem readOnly_read (call : Caller World) (feature : String) (t : Tree) :
    Keeps (ReadOnly t feature) ((t.repository call).read feature) := by
  induction t with
  | store id =>
    intro w
    rw [Tree.repository, after_store_read]
    exact ReadOnly.count_read id
  | cache id ttl inner ih =>
    have hinner : Keeps (ReadOnly (.cache id ttl inner) feature)
        ((inner.repository call).read feature) :=
      fun w => (ih w).of_within (ih w).toWithin.of_inner
    have hput (state : Option FeatureState) (v : World) : ReadOnly (.cache id ttl inner) feature v
        (((World.cache id).update (·.insert feature ⟨state, v.now⟩)).after v) := by
      rw [Slot.after_update]
      refine ReadOnly.put_cache (by simp [cacheIds, caches]) _ fun other ho => ?_
      rw [SortedMap.get?_insert, if_neg (Ne.symm ho)]
      rfl
    intro w
    show ReadOnly _ _ w (((cached _ _ _ _).read feature).after w)
    cases hfresh : ((World.cache id).get w).fresh? ttl w.now feature with
    | some entry =>
      rw [Action.after, run_cached_read_of_fresh hfresh]
      exact refl_of (ReadOnly _ feature) w
    | none =>
      cases hread : ((inner.repository call).read feature).result w with
      | error e =>
        rw [Action.after, run_cached_read_of_error hfresh hread]
        exact hinner w
      | ok state =>
        rw [Action.after, run_cached_read_of_ok hfresh hread]
        exact trans_of (ReadOnly _ feature) (hinner w) (hput state _)
  | composite order target ts ih =>
    rw [Tree.repository, repositories_eq]
    refine keeps_readFirst fun d hd => ?_
    rw [ReadOrder.mem_arrange] at hd
    obtain ⟨t, ht, rfl⟩ := List.mem_map.1 hd
    exact fun w => (ih t ht w).of_within ((ih t ht w).toWithin.of_delegate ht)
  | listenable id inner ih =>
    exact fun w => (ih w).of_within ((ih w).mono (List.Subset.refl _) (List.Subset.refl _))
  | journal j inner ih =>
    exact fun w => (ih w).of_within ((ih w).mono (List.Subset.refl _) (List.Subset.refl _))

end Tree

/-! ## Writes -/

/-- While only listeners of a kind are registered, the change is within `t`, and so it stays. -/
def Confined (kind : Listener → Prop) (t : Tree) (feature : String) (w v : World) : Prop :=
  w.Heeds kind → Within t feature w v ∧ v.Heeds kind

namespace Confined

variable {kind : Listener → Prop} {t t' : Tree} {feature : String} {w v : World}

instance : IsPreorder World (Confined kind t feature) where
  refl w hw := ⟨refl_of (Within t feature) w, hw⟩
  trans _ _ _ huv hvw hu := by
    obtain ⟨hwithin, hv⟩ := huv hu
    obtain ⟨hwithin', hw⟩ := hvw hv
    exact ⟨trans_of (Within t feature) hwithin hwithin', hw⟩

theorem mono (h : Confined kind t feature w v)
    (hmono : Within t feature w v → Within t' feature w v) : Confined kind t' feature w v :=
  fun hw => ⟨hmono (h hw).1, (h hw).2⟩

theorem of_within (h : Within t feature w v) (hl : v.listeners = w.listeners) :
    Confined kind t feature w v :=
  fun hw => ⟨h, by rw [World.Heeds, hl]; exact hw⟩

end Confined

theorem ReadOnly.heeds {t : Tree} {feature : String} {w v : World} (h : ReadOnly t feature w v)
    {kind : Listener → Prop} (hw : w.Heeds kind) : v.Heeds kind := by
  rw [World.Heeds, ← h.listeners]
  exact hw

/-- While only listeners of a kind are registered, nothing changes but what concerns the listeners,
and so it stays. -/
def Unheard (kind : Listener → Prop) (w v : World) : Prop :=
  w.Heeds kind → v.stores = w.stores ∧ v.caches = w.caches ∧ v.Heeds kind

instance (kind : Listener → Prop) : IsPreorder World (Unheard kind) where
  refl _ hw := ⟨rfl, rfl, hw⟩
  trans _ _ _ huv hvw hu := by
    obtain ⟨hs, hc, hv⟩ := huv hu
    obtain ⟨hs', hc', hw⟩ := hvw hv
    exact ⟨hs'.trans hs, hc'.trans hc, hw⟩

/-- Telling quiet listeners leaves stores and caches alone. -/
theorem Caller.Quiet.notify {call : Caller World} {kind : Listener → Prop} (hq : call.Quiet kind)
    {s : FeatureState} (id : Nat) (previous : Option FeatureState) (w : World) :
    Unheard kind w ((FeatureToggle.notify call previous s (w.listeners id)).after w) := by
  intro hw
  have hcall : ∀ r ∈ w.listeners id, Action.Keeps (Unheard kind) (call r previous s) := by
    intro r hr u hu
    have hkind := hw id r hr
    exact ⟨hq.stores r previous s u hkind, hq.caches r previous s u hkind,
      hq.heeds r previous s u hkind hu⟩
  exact Repository.keeps_notify hcall w hw

theorem Unheard.confined {kind : Listener → Prop} {t : Tree} {feature : String} {w v : World}
    (h : Unheard kind w v) : Confined kind t feature w v := by
  intro hw
  obtain ⟨hs, hc, hv⟩ := h hw
  refine ⟨?_, hv⟩
  exact ⟨fun i _ => congrFun hs i, fun i => by rw [hs], fun i => by rw [hs], fun i => by rw [hs],
    fun i g _ => by rw [hs], fun i _ => congrFun hc i, fun i g _ => by rw [hc]⟩

theorem Store.get?_written (s : Store) (state : FeatureState) {other : String}
    (ho : other ≠ state.feature) :
    (s.written state).states.get? other = s.states.get? other := by
  unfold Store.written
  split
  · rfl
  · simp [Ne.symm ho]

namespace Tree

open FeatureToggle.Action Repository

variable {call : Caller World} {kind : Listener → Prop} {s : FeatureState}

/-- A store changes what it keeps of one feature only. -/
theorem within_store_write (id : Nat) (s : FeatureState) (w : World) :
    Within (.store id) s.feature w ((World.store id).put ((w.stores id).written s) w) := by
  refine Within.put_store (by simp [leaves]) _ ?_ ?_ ?_ fun other ho => Store.get?_written _ s ho
  all_goals
    unfold Store.written
    split
    · rfl
    · rfl

/-- A write, whether it succeeds or not, stays within its tree. -/
theorem confined_write (hq : call.Quiet kind) (t : Tree) :
    Keeps (Confined kind t s.feature) ((t.repository call).write s) := by
  induction t with
  | store id =>
    intro w
    rw [Tree.repository, after_store_write]
    exact Confined.of_within (within_store_write id s w) rfl
  | cache id ttl inner ih =>
    intro w
    rw [Tree.repository, after_cached_write]
    refine trans_of (Confined kind _ s.feature) ((ih w).mono Within.of_inner) ?_
    have hmem : id ∈ (Tree.cache id ttl inner).cacheIds := by simp [cacheIds, caches]
    refine Confined.of_within (Within.put_cache hmem _ fun other ho => ?_) rfl
    rw [SortedMap.get?_erase, if_neg (Ne.symm ho)]
    rfl
  | composite order target ts ih =>
    rw [Tree.repository, repositories_eq]
    refine keeps_composite_write order fun d hd => ?_
    rw [WriteTarget.chosen_map] at hd
    obtain ⟨t, ht, rfl⟩ := List.mem_map.1 hd
    have hts := target.mem_of_mem_chosen ht
    exact fun w => (ih t hts w).mono (Within.of_delegate hts)
  | listenable id inner ih =>
    refine keeps_listenable_write ?_ ?_ fun previous w => (hq.notify id previous w).confined
    · intro w
      have hread := inner.readOnly_read call s.feature w
      have hwithin : Within (.listenable id inner) s.feature w _ :=
        hread.toWithin.mono (List.Subset.refl _) (List.Subset.refl _)
      exact fun hw => ⟨hwithin, hread.heeds hw⟩
    · exact fun w => (ih w).mono fun h => h.mono (List.Subset.refl _) (List.Subset.refl _)
  | journal j inner ih =>
    exact fun w => (ih w).mono fun h => h.mono (List.Subset.refl _) (List.Subset.refl _)

end Tree

end FeatureToggle
