import FeatureToggle.Proofs.Coherence

/-!
# Erasure of caches

A tree and the same tree without its caches are asked side by side. They answer alike, errors
included, call the same listeners with the same states and write the same to the same stores; the
tree with caches never reads a store more often. The relation that carries this is
`World.Resembles`, together with the coherence of the caches that one of the trees has.
-/
namespace FeatureToggle

open FeatureToggle.Action Repository

namespace World.Resembles

variable {w v : World}

theorem store_eq (h : w.Resembles v) (id : Nat) :
    v.stores id = { w.stores id with reads := (v.stores id).reads } := by
  have hkept := congrFun h.kept id
  unfold World.kept Store.uncounted at hkept
  cases hw : w.stores id
  cases hv : v.stores id
  simp_all

/-- The same write to the same store of both worlds. -/
theorem put_written (h : w.Resembles v) (id : Nat) (s : FeatureState) :
    ((World.store id).put ((w.stores id).written s) w).Resembles
      ((World.store id).put ((v.stores id).written s) v) := by
  have hreads (store : Store) : (store.written s).reads = store.reads := by
    unfold Store.written
    split <;> rfl
  refine ⟨⟨h.now, h.listeners, h.registered, h.spent⟩, funext fun j => ?_, fun j => ?_⟩
  · by_cases hj : j = id
    · subst hj
      simp only [World.kept, World.store, World.setAt_self]
      rw [h.store_eq j]
      unfold Store.written Store.uncounted
      cases (w.stores j).failsWrites with
      | false => rfl
      | true => rfl
    · simp only [World.kept, World.store, World.setAt_of_ne _ _ hj]
      exact congrFun h.kept j
  · by_cases hj : j = id
    · subst hj
      simp only [World.store, World.setAt_self, hreads]
      exact h.reads_le j
    · simp only [World.store, World.setAt_of_ne _ _ hj]
      exact h.reads_le j

end World.Resembles

/-- Worlds that resemble each other cannot be told apart by writing to a store. -/
theorem mirrors_store_write (id : Nat) (s : FeatureState) :
    Mirrors World.Resembles ((store (World.store id)).write s)
      ((store (World.store id)).write s) := by
  intro w v h
  have hstore := h.store_eq id
  constructor
  · rw [result_store_write, result_store_write]
    show (w.stores id).confirmation s.feature = (v.stores id).confirmation s.feature
    rw [hstore]
    rfl
  · rw [effects, effects, events_store_write, events_store_write]
    show List.filter _ ((w.stores id).noted (.storeWritten · s (!(w.stores id).failsWrites))) =
      List.filter _ ((v.stores id).noted (.storeWritten · s (!(v.stores id).failsWrites)))
    rw [hstore]
    rfl
  · rw [after_store_write, after_store_write]
    exact h.put_written id s

namespace Tree

/-! ## Requests to the root of a tree -/

inductive Request where
  | read (feature : String)
  | write (state : FeatureState)
  /-- Makes a cache forget everything. -/
  | clear (cache : Nat)
  /-- Lets time pass. -/
  | wait (nanoseconds : Nat)

inductive Reply where
  | state (answer : Except Error (Option FeatureState))
  | written (answer : Except Error Unit)
  | done

variable (call : Caller World)

def serve (t : Tree) : Request → Action World Reply
  | .read feature => do return .state (← (t.repository call).read feature)
  | .write s => do return .written (← (t.repository call).write s)
  | .clear id => do
    (World.cache id).update fun _ => .empty
    return .done
  | .wait nanoseconds => do
    Action.modify fun w => { w with now := w.now + nanoseconds }
    return .done

/-- Serves requests one after the other. -/
def serveAll (t : Tree) : List Request → Action World (List Reply)
  | [] => return []
  | r :: rest => do
    let reply ← t.serve call r
    return reply :: (← t.serveAll rest)

variable {call} {kind : Listener → Prop} {nodes : List (Nat × Tree)} {feature : String}
  {s : FeatureState} {t : Tree} {w v : World}

@[simp] theorem caches_withoutCaches (t : Tree) : t.withoutCaches.caches = [] := by
  induction t with
  | store id => rfl
  | cache id ttl inner ih => exact ih
  | composite order target ts ih =>
    rw [withoutCaches, withoutCachesEach_eq, caches, cachesEach_eq, List.map_map,
      List.flatten_eq_nil_iff]
    intro nodes hnodes
    obtain ⟨t, ht, rfl⟩ := List.mem_map.1 hnodes
    exact ih t ht
  | listenable id inner ih => exact ih
  | journal j inner ih => exact ih

/-! ## Reads have no effects -/

theorem effects_readFirst {delegates : List (Repository World)}
    (h : ∀ d ∈ delegates, ∀ w, (d.read feature).effects w = []) (w : World) :
    (readFirst feature delegates).effects w = [] := by
  induction delegates generalizing w with
  | nil => rfl
  | cons d rest ih =>
    rw [readFirst, effects_bind, h d List.mem_cons_self, List.nil_append]
    split
    · exact ih (fun d' hd' => h d' (List.mem_cons_of_mem d hd')) _
    · rfl

theorem effects_cached_read {slot : Slot World Cache} {clock : World → Nat} {ttl : Nat}
    {inner : Repository World} (w : World) (h : (inner.read feature).effects w = []) :
    ((cached slot clock ttl inner).read feature).effects w = [] := by
  rw [effects, events] at h ⊢
  cases hfresh : (slot.get w).fresh? ttl (clock w) feature with
  | some entry => rw [run_cached_read_of_fresh hfresh]; rfl
  | none =>
    cases hread : (inner.read feature).result w with
    | error e => rw [run_cached_read_of_error hfresh hread]; exact h
    | ok state => rw [run_cached_read_of_ok hfresh hread]; exact h

theorem effects_read (t : Tree) (w : World) :
    ((t.repository call).read feature).effects w = [] := by
  induction t generalizing w with
  | store id =>
    rw [Tree.repository, effects, events_store_read]
    unfold Store.noted
    cases ((World.store id).get w).name with
    | none => rfl
    | some name => rfl
  | cache id ttl inner ih => exact effects_cached_read w (ih w)
  | composite order target ts ih =>
    rw [Tree.repository, repositories_eq]
    refine effects_readFirst (fun d hd => ?_) w
    rw [ReadOrder.mem_arrange] at hd
    obtain ⟨t, ht, rfl⟩ := List.mem_map.1 hd
    exact ih t ht
  | listenable id inner ih => exact ih w
  | journal j inner ih => exact ih w

/-! ## Side by side -/

/-- The caches of the first world are coherent, and the second resembles it. -/
structure Beside (kind : Listener → Prop) (nodes : List (Nat × Tree)) (w v : World) : Prop
    extends Standing kind nodes w, World.Resembles w v

theorem Standing.called {r : Registration} (h : Standing kind nodes w) (hq : call.Quiet kind)
    (hr : kind r.listener) (previous : Option FeatureState) (s : FeatureState) :
    Standing kind nodes ((call r previous s).after w) := by
  have hs := hq.stores r previous s w hr
  have hc := hq.caches r previous s w hr
  exact ⟨hq.heeds r previous s w hr h.heeds, h.coherent.congr (World.kept_of_stores hs) hc⟩

/-- A tree without caches answers a read by what is kept, and leaves what is kept. -/
theorem read_withoutCaches (call : Caller World) (feature : String) (t : Tree) (v : World) :
    ((t.withoutCaches.repository call).read feature).result v = t.answer v.kept feature ∧
      ReadOnly t.withoutCaches feature v
        (((t.withoutCaches.repository call).read feature).after v) := by
  have hcoherent : Coherent t.withoutCaches.caches v := by simp [Coherent]
  have hu : Unambiguous t.withoutCaches.caches := by simp [Unambiguous]
  have hread := read_of_coherent call feature hu (List.Subset.refl _) hcoherent
  rw [answer_withoutCaches] at hread
  exact ⟨hread.1, t.withoutCaches.readOnly_read call feature v⟩

/-- All but the counts of reads is settled by the answers and the footprints. -/
lemma mirrorsAt_read (hu : Unambiguous nodes) (hsub : t.caches ⊆ nodes) (h : Beside kind nodes w v)
    (hreads : ∀ id, ((((t.repository call).read feature).after w).stores id).reads ≤
      ((((t.withoutCaches.repository call).read feature).after v).stores id).reads) :
    MirrorsAt (Beside kind nodes) ((t.repository call).read feature)
      ((t.withoutCaches.repository call).read feature) w v := by
  obtain ⟨hresult, hcoherent⟩ :=
    read_of_coherent call feature hu hsub h.coherent
  obtain ⟨hresult', hro'⟩ := read_withoutCaches call feature t v
  have hro := t.readOnly_read call feature w
  refine ⟨?_, ?_, ⟨⟨hro.heeds h.heeds, hcoherent⟩, ⟨?_, ?_, ?_, ?_⟩, ?_, hreads⟩⟩
  · rw [hresult, hresult', h.kept]
  · rw [effects_read, effects_read]
  · exact hro.now.symm.trans (h.now.trans hro'.now)
  · exact hro.listeners.symm.trans (h.listeners.trans hro'.listeners)
  · exact hro.registered.symm.trans (h.registered.trans hro'.registered)
  · exact hro.spent.symm.trans (h.spent.trans hro'.spent)
  · rw [hro.kept, hro'.kept, h.kept]

/-- Reads with and without caches mirror each other. -/
theorem mirrors_read (hu : Unambiguous nodes) (hsub : t.caches ⊆ nodes) :
    Mirrors (Beside kind nodes) ((t.repository call).read feature)
      ((t.withoutCaches.repository call).read feature) := by
  induction t with
  | store id =>
    intro w v h
    refine mirrorsAt_read hu hsub h fun j => ?_
    rw [withoutCaches, Tree.repository, after_store_read, after_store_read]
    have hle := h.reads_le j
    by_cases hj : j = id
    · subst hj
      simpa [World.store] using hle
    · simpa [World.store, World.setAt_of_ne _ _ hj] using hle
  | cache id ttl inner ih =>
    intro w v h
    refine mirrorsAt_read hu hsub h fun j => ?_
    have hinner := ih (fun n hn => hsub (List.mem_cons_of_mem _ hn)) w v h
    have hle := hinner.after.reads_le j
    rw [withoutCaches, Tree.repository]
    cases hfresh : ((World.cache id).get w).fresh? ttl w.now feature with
    | some entry =>
      rw [Action.after, run_cached_read_of_fresh hfresh]
      exact Nat.le_trans (h.reads_le j) ((read_withoutCaches call feature inner v).2.reads_le j)
    | none =>
      cases hread : ((inner.repository call).read feature).result w with
      | error e =>
        rw [Action.after, run_cached_read_of_error hfresh hread]
        exact hle
      | ok state =>
        rw [Action.after, run_cached_read_of_ok hfresh hread]
        exact hle
  | composite order target ts ih =>
    rw [withoutCaches, withoutCachesEach_eq, Tree.repository, Tree.repository, repositories_eq,
      repositories_eq, List.map_map]
    exact mirrors_composite_read order target fun t ht =>
      ih t ht fun n hn => hsub (caches_subset_composite ht hn)
  | listenable id inner ih => exact ih hsub
  | journal j inner ih => exact ih hsub

/-- The same listeners are told, and they act alike. -/
theorem mirrorsAt_notify (hq : call.Quiet kind) (hb : call.Blind kind) (h : Beside kind nodes w v)
    (id : Nat) (previous : Option FeatureState) (s : FeatureState) :
    MirrorsAt (Beside kind nodes) (notify call previous s (w.listeners id))
      (notify call previous s (v.listeners id)) w v := by
  have hcall : ∀ r ∈ w.listeners id, Mirrors (Beside kind nodes)
      (call r previous s) (call r previous s) := by
    intro r hr u u' h'
    have hkind := h.heeds id r hr
    obtain ⟨hresult, heffects, hafter⟩ := hb r previous s hkind u u' h'.toResembles
    exact ⟨hresult, heffects, h'.toStanding.called hq hkind previous s, hafter⟩
  rw [← congrFun h.listeners id]
  exact mirrors_notify hcall w v h

/-- Writes with and without caches mirror each other. -/
theorem mirrors_write (hq : call.Quiet kind) (hb : call.Blind kind) (hd : t.Distinct) :
    Mirrors (Beside kind t.caches) ((t.repository call).write s)
      ((t.withoutCaches.repository call).write s) := by
  induction t with
  | store id =>
    intro w v h
    have hstanding := preserves_write (s := s) hq hd w h.toStanding
    obtain ⟨hresult, heffects, hafter⟩ := mirrors_store_write id s w v h.toResembles
    exact ⟨hresult, heffects, hstanding, hafter⟩
  | cache id ttl inner ih =>
    intro w v h
    have hstanding := preserves_write (s := s) hq hd w h.toStanding
    have hinner : Beside kind inner.caches w v :=
      ⟨h.toStanding.subset (List.subset_cons_self _ _), h.toResembles⟩
    obtain ⟨hresult, heffects, hafter⟩ := ih hd.inner_of_cache w v hinner
    rw [withoutCaches]
    refine ⟨?_, ?_, hstanding, ?_⟩
    · rw [Tree.repository, result_cached_write]
      exact hresult
    · rw [Tree.repository, effects, events_cached_write, List.filter_append]
      exact (List.append_nil _).trans heffects
    · rw [Tree.repository, after_cached_write]
      exact ⟨⟨hafter.now, hafter.listeners, hafter.registered, hafter.spent⟩, hafter.kept,
        hafter.reads_le⟩
  | composite order target ts ih =>
    rw [withoutCaches, withoutCachesEach_eq, Tree.repository, Tree.repository, repositories_eq,
      repositories_eq, List.map_map]
    refine mirrors_composite_write order target fun t ht w v h => ?_
    have hdelegate : Beside kind t.caches w v :=
      ⟨h.toStanding.subset (caches_subset_composite ht), h.toResembles⟩
    obtain ⟨hresult, heffects, hafter⟩ := ih t ht (hd.of_mem ht) w v hdelegate
    have hwithin := (confined_write (s := s) hq t w h.heeds).1
    exact ⟨hresult, heffects, h.toStanding.of_delegate hd ht hwithin hafter.toStanding,
      hafter.toResembles⟩
  | listenable id inner ih =>
    have hd' : inner.Distinct := ⟨hd.leaves, hd.caches⟩
    exact mirrors_listenable_write (mirrors_read hd'.unambiguous (List.Subset.refl _)) (ih hd')
      fun previous w v h => mirrorsAt_notify hq hb h id previous s
  | journal j inner ih =>
    exact Mirrors.bind (Mirrors.log _) fun _ => ih ⟨hd.leaves, hd.caches⟩

/-! ## Runs -/

/-- Every request is served alike with and without caches. -/
theorem mirrors_serve (hq : call.Quiet kind) (hb : call.Blind kind) (hd : t.Distinct)
    (r : Request) :
    Mirrors (Beside kind t.caches) (t.serve call r) (t.withoutCaches.serve call r) := by
  cases r with
  | read feature =>
    exact Mirrors.bind (mirrors_read hd.unambiguous (List.Subset.refl _)) fun _ => Mirrors.pure _
  | write s => exact Mirrors.bind (mirrors_write hq hb hd) fun _ => Mirrors.pure _
  | clear id =>
    intro w v h
    have hsame : ((World.cache id).put .empty w).SameRoster ((World.cache id).put .empty v) :=
      ⟨h.now, h.listeners, h.registered, h.spent⟩
    exact ⟨rfl, rfl, h.toStanding.forget id, hsame, h.kept, h.reads_le⟩
  | wait nanoseconds =>
    intro w v h
    have hnow : w.now + nanoseconds = v.now + nanoseconds := congrArg (· + nanoseconds) h.now
    have hsame : World.SameRoster { w with now := w.now + nanoseconds }
        { v with now := v.now + nanoseconds } := ⟨hnow, h.listeners, h.registered, h.spent⟩
    exact ⟨rfl, rfl, h.toStanding.wait nanoseconds, hsame, h.kept, h.reads_le⟩

theorem mirrors_serveAll (hq : call.Quiet kind) (hb : call.Blind kind) (hd : t.Distinct)
    (requests : List Request) :
    Mirrors (Beside kind t.caches) (t.serveAll call requests)
      (t.withoutCaches.serveAll call requests) := by
  induction requests with
  | nil => exact Mirrors.pure _
  | cons r rest ih =>
    refine Mirrors.bind (mirrors_serve hq hb hd r) fun reply => ?_
    exact Mirrors.bind ih fun replies => Mirrors.pure _

/-- Started with empty caches, a tree answers every run of requests as it would without its caches.
It has the same effects and leaves the same kept, and it reads no store more often. -/
theorem serveAll_withoutCaches (hq : call.Quiet kind) (hb : call.Blind kind) (hd : t.Distinct)
    (hcold : ∀ id ∈ t.cacheIds, w.caches id = .empty) (hw : w.Heeds kind)
    (requests : List Request) :
    (t.serveAll call requests).result w = (t.withoutCaches.serveAll call requests).result w ∧
      (t.serveAll call requests).effects w =
        (t.withoutCaches.serveAll call requests).effects w ∧
      ((t.serveAll call requests).after w).kept =
        ((t.withoutCaches.serveAll call requests).after w).kept ∧
      ∀ id, (((t.serveAll call requests).after w).stores id).reads ≤
        (((t.withoutCaches.serveAll call requests).after w).stores id).reads := by
  have hbeside : Beside kind t.caches w w :=
    ⟨⟨hw, coherent_of_cold hcold⟩, ⟨rfl, rfl, rfl, rfl⟩, rfl, fun _ => Nat.le_refl _⟩
  obtain ⟨hresult, heffects, hafter⟩ := mirrors_serveAll hq hb hd requests w w hbeside
  exact ⟨hresult, heffects, hafter.kept.symm, hafter.reads_le⟩

/-- Caches within a cache, in front of two stores. -/
def nestedCaches : Tree :=
  .listenable 0 (.cache 0 5 (.composite .lifo .all [.cache 1 0 (.store 0), .store 1]))

/-- The second store fails every write. -/
def halfFailing : World :=
  { World.restless with stores := fun id => ⟨some (toString id), .empty, false, id = 1, 0⟩ }

/-- A write that fails in part, with reads before and after, one of them too late for the outer
cache. -/
def readsAroundWrite : List Request :=
  [.read "a", .write (.of "a" true), .read "a", .clear 1, .wait 7, .read "a"]

theorem serveAll_nestedCaches :
    let cached := nestedCaches.serveAll (callListener fun _ => none) readsAroundWrite
    let bare := nestedCaches.withoutCaches.serveAll (callListener fun _ => none) readsAroundWrite
    nestedCaches.Distinct ∧ halfFailing.Heeds Listener.Silent ∧
      cached.result halfFailing = bare.result halfFailing ∧
      cached.effects halfFailing = bare.effects halfFailing ∧
      (cached.after halfFailing).kept = (bare.after halfFailing).kept ∧
      ∀ id, ((cached.after halfFailing).stores id).reads ≤
        ((bare.after halfFailing).stores id).reads := by
  have hq : (callListener fun _ => none).Quiet Listener.Silent := callListener_quiet _
  have hb : (callListener fun _ => none).Blind Listener.Silent := callListener_blind _
  have hd : nestedCaches.Distinct := ⟨by decide, by decide⟩
  have hcold : ∀ id ∈ nestedCaches.cacheIds, halfFailing.caches id = .empty := fun _ _ => rfl
  have hw : halfFailing.Heeds Listener.Silent := World.heeds_restless
  exact ⟨hd, hw, serveAll_withoutCaches hq hb hd hcold hw readsAroundWrite⟩

end Tree

end FeatureToggle
