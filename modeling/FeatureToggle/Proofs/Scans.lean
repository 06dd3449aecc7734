import FeatureToggle.Proofs.Footprints
import Mathlib.Data.List.Perm.Basic

/-!
# Flat scans

However composites are nested, a tree without caches reads its stores as one flat composite would,
in the order that the read orders of all levels induce: as actions both are equal
(`Tree.read_eq_scan`). With caches this holds of the answer (`Tree.answer_eq_scan`).
-/
namespace FeatureToggle

namespace Repository

variable {σ : Type} {feature : String}

/-! ## Scans of scans -/

/-- The second part of a search is reached if nothing is found in the first. -/
theorem readFirst_append (delegates rest : List (Repository σ)) :
    readFirst feature (delegates ++ rest) = do
      match ← readFirst feature delegates with
      | .ok none => readFirst feature rest
      | answer => return answer := by
  induction delegates with
  | nil => rfl
  | cons d delegates ih =>
    rw [List.cons_append, readFirst, readFirst, bind_assoc]
    congr 1
    funext answer
    rcases answer with e | _ | s
    · exact (pure_bind _ _).symm
    · exact ih
    · exact (pure_bind _ _).symm

/-- Searches that are delegates of a search come to one search. -/
theorem readFirst_flatten {ι : Type} {f : ι → Repository σ} {g : ι → List (Repository σ)}
    {items : List ι} (h : ∀ i ∈ items, (f i).read feature = readFirst feature (g i)) :
    readFirst feature (items.map f) = readFirst feature (items.map g).flatten := by
  induction items with
  | nil => rfl
  | cons i rest ih =>
    have hrest := ih fun j hj => h j (List.mem_cons_of_mem _ hj)
    calc
      readFirst feature (f i :: rest.map f)
        = (do
            match ← (f i).read feature with
            | .ok none => readFirst feature (rest.map f)
            | answer => return answer) := rfl
      _ = (do
            match ← readFirst feature (g i) with
            | .ok none => readFirst feature (rest.map g).flatten
            | answer => return answer) := by rw [h i List.mem_cons_self, hrest]
      _ = readFirst feature ((i :: rest).map g).flatten := (readFirst_append _ _).symm

theorem firstPresent_append (answers rest : List (Except Error (Option FeatureState))) :
    firstPresent (answers ++ rest) =
      match firstPresent answers with
      | .ok none => firstPresent rest
      | answer => answer := by
  induction answers with
  | nil => rfl
  | cons a answers ih =>
    rcases a with e | _ | s
    · rfl
    · exact ih
    · rfl

theorem firstPresent_flatten {ι : Type} {answer : ι → Except Error (Option FeatureState)}
    {answers : ι → List (Except Error (Option FeatureState))} {items : List ι}
    (h : ∀ i ∈ items, answer i = firstPresent (answers i)) :
    firstPresent (items.map answer) = firstPresent (items.map answers).flatten := by
  induction items with
  | nil => rfl
  | cons i rest ih =>
    have hrest := ih fun j hj => h j (List.mem_cons_of_mem _ hj)
    rw [List.map_cons, List.map_cons, List.flatten_cons, firstPresent_append, ← hrest,
      ← h i List.mem_cons_self]
    rcases answer i with e | _ | s
    · rfl
    · rfl
    · rfl

/-- The first answer that is not absence is what a scan comes to. -/
theorem firstPresent_of_first {ι : Type} {answer : ι → Except Error (Option FeatureState)}
    {before after : List ι} {i : ι} (habsent : ∀ j ∈ before, answer j = .ok none)
    (hi : answer i ≠ .ok none) :
    firstPresent ((before ++ i :: after).map answer) = answer i := by
  induction before with
  | nil =>
    rw [List.nil_append, List.map_cons]
    rcases h : answer i with e | _ | s
    · rfl
    · exact absurd h hi
    · rfl
  | cons j before ih =>
    rw [List.cons_append, List.map_cons, habsent j List.mem_cons_self]
    exact ih fun k hk => habsent k (List.mem_cons_of_mem _ hk)

/-- What a scan comes to, if it is not absence, is the first answer that is not. -/
theorem exists_first_of_firstPresent {ι : Type} {answer : ι → Except Error (Option FeatureState)}
    {items : List ι} {a : Except Error (Option FeatureState)} (ha : a ≠ .ok none)
    (h : firstPresent (items.map answer) = a) :
    ∃ before i after, items = before ++ i :: after ∧ (∀ j ∈ before, answer j = .ok none) ∧
      answer i = a := by
  induction items with
  | nil => exact absurd h.symm ha
  | cons i rest ih =>
    by_cases hi : answer i = .ok none
    · rw [List.map_cons, hi, firstPresent] at h
      obtain ⟨before, j, after, rfl, habsent, hj⟩ := ih h
      exact ⟨i :: before, j, after, rfl, List.forall_mem_cons.2 ⟨hi, habsent⟩, hj⟩
    · have hfirst : firstPresent (([] ++ i :: rest).map answer) = answer i :=
        firstPresent_of_first (by simp) hi
      exact ⟨[], i, rest, rfl, by simp, hfirst.symm.trans h⟩

/-- A scan comes to absence if nothing else was answered. -/
theorem firstPresent_eq_none_iff {ι : Type} {answer : ι → Except Error (Option FeatureState)}
    {items : List ι} :
    firstPresent (items.map answer) = .ok none ↔ ∀ i ∈ items, answer i = .ok none := by
  induction items with
  | nil => simp [firstPresent]
  | cons i rest ih =>
    rw [List.map_cons, List.forall_mem_cons]
    rcases h : answer i with e | _ | s
    · simp [firstPresent]
    · simpa [firstPresent] using ih
    · simp [firstPresent]

end Repository

/-- The search through the stores of the given numbers. -/
def Repository.readStores (feature : String) (ids : List Nat) :
    Action World (Except Error (Option FeatureState)) :=
  readFirst feature (ids.map fun id => .store (World.store id))

/-! ## The stores in the order of reading -/

namespace Tree

open Repository (readFirst readStores firstPresent)

mutual

/-- The numbers of the stores in the order in which they are read. -/
def scan : Tree → List Nat
  | store id => [id]
  | cache _ _ inner => inner.scan
  | composite order _ ts => (order.arrange (scanEach ts)).flatten
  | listenable _ inner => inner.scan
  | journal _ inner => inner.scan

def scanEach : List Tree → List (List Nat)
  | [] => []
  | t :: ts => t.scan :: scanEach ts

end

@[simp] theorem scanEach_eq (ts : List Tree) : scanEach ts = ts.map scan := by
  induction ts with
  | nil => rfl
  | cons t ts ih => simp [scanEach, ih]

theorem scan_composite (order : ReadOrder) (target : WriteTarget) (ts : List Tree) :
    (composite order target ts).scan = ((order.arrange ts).map scan).flatten := by
  rw [scan, scanEach_eq, ReadOrder.arrange_map]

/-- A scan comes to every store of the tree, to none of them more often than it occurs. -/
theorem scan_perm (t : Tree) : t.scan.Perm t.leaves := by
  induction t with
  | store id => exact List.Perm.refl _
  | cache id ttl inner ih => exact ih
  | composite order target ts ih =>
    have harrange : (order.arrange ts).Perm ts := by
      cases order with
      | fifo => exact List.Perm.refl _
      | lifo => exact List.reverse_perm ts
    rw [scan_composite, leaves, leavesEach_eq, ← List.flatMap_def, ← List.flatMap_def]
    exact harrange.flatMap fun t ht => ih t ((order.mem_arrange ts t).1 ht)
  | listenable id inner ih => exact ih
  | journal j inner ih => exact ih

/-- The answer of a tree is the first answer of its stores that is not absence. -/
theorem answer_eq_scan (t : Tree) (kept : Nat → Store) (feature : String) :
    t.answer kept feature = firstPresent (t.scan.map fun id => (kept id).answer feature) := by
  induction t with
  | store id =>
    rw [answer, scan, List.map_singleton]
    rcases (kept id).answer feature with e | _ | s
    · rfl
    · rfl
    · rfl
  | cache id ttl inner ih => exact ih
  | composite order target ts ih =>
    rw [answer_composite, scan_composite, List.map_flatten, List.map_map]
    exact Repository.firstPresent_flatten fun t ht => ih t ((order.mem_arrange ts t).1 ht)
  | listenable id inner ih => exact ih
  | journal j inner ih => exact ih

/-- A read of a tree without caches is a search through its stores. -/
theorem read_eq_scan (call : Caller World) (feature : String) {t : Tree} (h : t.caches = []) :
    (t.repository call).read feature = readStores feature t.scan := by
  induction t with
  | store id =>
    rw [Tree.repository, scan, readStores, List.map_singleton, readFirst]
    refine (bind_pure _).symm.trans (congrArg _ (funext fun answer => ?_))
    rcases answer with e | _ | s
    · rfl
    · rfl
    · rfl
  | cache id ttl inner ih => simp [caches] at h
  | composite order target ts ih =>
    have hts : ∀ t ∈ ts, t.caches = [] := by
      intro t ht
      exact List.eq_nil_iff_forall_not_mem.2 fun n hn =>
        List.not_mem_nil (h ▸ caches_subset_composite ht hn)
    rw [Tree.repository, repositories_eq, scan_composite, readStores, List.map_flatten,
      List.map_map]
    simp only [Repository.composite, ReadOrder.arrange_map]
    refine Repository.readFirst_flatten fun t ht => ?_
    have hmem : t ∈ ts := (order.mem_arrange ts t).1 ht
    exact ih t hmem (hts t hmem)
  | listenable id inner ih => exact ih h
  | journal j inner ih => exact ih h

end Tree

/-! ## Searches through stores -/

namespace World

/-- The world after a read of a store. -/
def countRead (w : World) (id : Nat) : World :=
  (store id).put { w.stores id with reads := (w.stores id).reads + 1 } w

/-- What a read of a store leaves in the trace. -/
def readNotes (w : World) (feature : String) (id : Nat) : List Event :=
  (w.stores id).noted (.storeRead · feature ((w.stores id).readOutcome feature))

@[simp] theorem kept_countRead (w : World) (id : Nat) : (w.countRead id).kept = w.kept := by
  have hro : ReadOnly (.store id) "" w (w.countRead id) := ReadOnly.count_read id
  exact hro.kept

theorem readNotes_congr {w v : World} (h : v.kept = w.kept) (feature : String) :
    v.readNotes feature = w.readNotes feature := by
  have hnotes (w : World) (id : Nat) : w.readNotes feature id =
      (w.kept id).noted (.storeRead · feature ((w.kept id).readOutcome feature)) := rfl
  funext id
  rw [hnotes, hnotes, h]

@[simp] theorem kept_foldl_countRead (w : World) (ids : List Nat) :
    (ids.foldl countRead w).kept = w.kept := by
  induction ids generalizing w with
  | nil => rfl
  | cons id rest ih => rw [List.foldl_cons, ih, kept_countRead]

end World

namespace Repository

/-- A search ends at a store that does not answer absence. -/
theorem run_readStores_of_ne {feature : String} {id : Nat} (rest : List Nat) {w : World}
    (h : (w.kept id).answer feature ≠ .ok none) :
    (readStores feature (id :: rest)).run w =
      ⟨((w.kept id).answer feature, w.countRead id), w.readNotes feature id⟩ := by
  have hread : ((store (World.store id)).read feature).result w ≠ .ok none := by
    rw [result_store_read]
    exact h
  rw [readStores, List.map_cons, run_readFirst_of_ne _ hread]
  exact Traced.ext (Prod.ext (result_store_read _ _ _) (after_store_read _ _ _))
    (events_store_read _ _ _)

/-- Stores that answer absence are read one after the other and passed over. -/
theorem run_readStores_of_absent {feature : String} {before : List Nat} (rest : List Nat)
    {w : World} (h : ∀ id ∈ before, (w.kept id).answer feature = .ok none) :
    (readStores feature (before ++ rest)).run w =
      ⟨((readStores feature rest).run (before.foldl World.countRead w)).value,
        before.flatMap (w.readNotes feature) ++
          (readStores feature rest).events (before.foldl World.countRead w)⟩ := by
  induction before generalizing w with
  | nil => rfl
  | cons id before ih =>
    have hid : ((store (World.store id)).read feature).result w = .ok none := by
      rw [result_store_read]
      exact h id List.mem_cons_self
    have hafter : ((store (World.store id)).read feature).after w = w.countRead id :=
      after_store_read _ _ _
    have hevents : ((store (World.store id)).read feature).events w = w.readNotes feature id :=
      events_store_read _ _ _
    have hbefore : ∀ j ∈ before, ((w.countRead id).kept j).answer feature = .ok none := by
      intro j hj
      rw [World.kept_countRead]
      exact h j (List.mem_cons_of_mem _ hj)
    have hrest := ih hbefore
    rw [World.readNotes_congr (World.kept_countRead w id)] at hrest
    rw [List.cons_append, readStores, List.map_cons, run_readFirst_of_eq _ hid, hafter, hevents,
      ← readStores, hrest, List.flatMap_cons, List.append_assoc]
    rfl

/-- A read consults stores: they are read one after the other, as often as they are listed, and
nothing else happens. -/
structure Consults (r : Repository World) (feature : String) (w : World) (ids : List Nat) :
    Prop where
  after : (r.read feature).after w = ids.foldl World.countRead w
  events : (r.read feature).events w = ids.flatMap (w.readNotes feature)

end Repository

namespace Tree

open Repository

variable {call : Caller World} {feature : String} {t : Tree} {w : World}

/-- Without caches a read consults the stores up to the first that does not answer absence. -/
theorem consults_of_first (ht : t.caches = []) {before after : List Nat} {id : Nat}
    (hscan : t.scan = before ++ id :: after)
    (habsent : ∀ j ∈ before, (w.kept j).answer feature = .ok none)
    (hid : (w.kept id).answer feature ≠ .ok none) :
    (t.repository call).Consults feature w (before ++ [id]) := by
  have hkept := World.kept_foldl_countRead w before
  rw [← hkept] at hid
  have hlast := run_readStores_of_ne after hid
  have hrun := run_readStores_of_absent (id :: after) habsent
  rw [Action.events, hlast, hkept, World.readNotes_congr hkept] at hrun
  rw [← hscan, ← read_eq_scan call feature ht] at hrun
  constructor
  · rw [Action.after, hrun, List.foldl_append]
    rfl
  · rw [Action.events, hrun, List.flatMap_append, List.flatMap_singleton]

/-- If all stores answer absence, a read consults every one of them. -/
theorem consults_of_absent (ht : t.caches = [])
    (habsent : ∀ j ∈ t.scan, (w.kept j).answer feature = .ok none) :
    (t.repository call).Consults feature w t.scan := by
  have hrun := run_readStores_of_absent [] habsent
  rw [List.append_nil, ← read_eq_scan call feature ht] at hrun
  constructor
  · rw [Action.after, hrun]
    rfl
  · rw [Action.events, hrun]
    exact List.append_nil _

end Tree

end FeatureToggle
