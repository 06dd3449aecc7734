import FeatureToggle.Proofs.Delegates
import FeatureToggle.Storage.Tree
import Mathlib.Data.List.Nodup
import Mathlib.Data.List.Pairwise

/-!
# The shape of a tree

Which stores a tree has, which of them a write reaches, which caches it has and what they stand in
front of. A tree is distinct if no store and no cache occurs twice; then its delegates keep out of
each other's way.
-/
namespace FeatureToggle.Tree

/-- Induction on trees: a property of a composite may be concluded from that of each delegate. -/
@[elab_as_elim, induction_eliminator]
theorem induction {P : Tree → Prop} (store : ∀ id, P (.store id))
    (cache : ∀ id ttl inner, P inner → P (.cache id ttl inner))
    (composite : ∀ order target ts, (∀ t ∈ ts, P t) → P (.composite order target ts))
    (listenable : ∀ id inner, P inner → P (.listenable id inner))
    (journal : ∀ j inner, P inner → P (.journal j inner)) : ∀ t, P t
  | .store id => store id
  | .cache id ttl inner =>
    cache id ttl inner (induction store cache composite listenable journal inner)
  | .composite order target ts =>
    composite order target ts fun t _ => induction store cache composite listenable journal t
  | .listenable id inner =>
    listenable id inner (induction store cache composite listenable journal inner)
  | .journal j inner => journal j inner (induction store cache composite listenable journal inner)

mutual

/-- The numbers of the stores, from left to right. -/
def leaves : Tree → List Nat
  | store id => [id]
  | cache _ _ inner => inner.leaves
  | composite _ _ ts => (leavesEach ts).flatten
  | listenable _ inner => inner.leaves
  | journal _ inner => inner.leaves

def leavesEach : List Tree → List (List Nat)
  | [] => []
  | t :: ts => t.leaves :: leavesEach ts

end

mutual

/-- The numbers of the stores to which a write is passed on. -/
def targets : Tree → List Nat
  | store id => [id]
  | cache _ _ inner => inner.targets
  | composite _ target ts => (target.chosen (targetsEach ts)).flatten
  | listenable _ inner => inner.targets
  | journal _ inner => inner.targets

def targetsEach : List Tree → List (List Nat)
  | [] => []
  | t :: ts => t.targets :: targetsEach ts

end

mutual

/-- The numbers of the caches, each with the tree that it stands in front of. -/
def caches : Tree → List (Nat × Tree)
  | store _ => []
  | cache id _ inner => (id, inner) :: inner.caches
  | composite _ _ ts => (cachesEach ts).flatten
  | listenable _ inner => inner.caches
  | journal _ inner => inner.caches

def cachesEach : List Tree → List (List (Nat × Tree))
  | [] => []
  | t :: ts => t.caches :: cachesEach ts

end

mutual

/-- The tree that is left when every cache is replaced by what it stands in front of. -/
def withoutCaches : Tree → Tree
  | store id => store id
  | cache _ _ inner => inner.withoutCaches
  | composite order target ts => composite order target (withoutCachesEach ts)
  | listenable id inner => listenable id inner.withoutCaches
  | journal j inner => journal j inner.withoutCaches

def withoutCachesEach : List Tree → List Tree
  | [] => []
  | t :: ts => t.withoutCaches :: withoutCachesEach ts

end

@[simp] theorem leavesEach_eq (ts : List Tree) : leavesEach ts = ts.map leaves := by
  induction ts with
  | nil => rfl
  | cons t ts ih => simp [leavesEach, ih]

@[simp] theorem targetsEach_eq (ts : List Tree) : targetsEach ts = ts.map targets := by
  induction ts with
  | nil => rfl
  | cons t ts ih => simp [targetsEach, ih]

@[simp] theorem cachesEach_eq (ts : List Tree) : cachesEach ts = ts.map caches := by
  induction ts with
  | nil => rfl
  | cons t ts ih => simp [cachesEach, ih]

@[simp] theorem withoutCachesEach_eq (ts : List Tree) :
    withoutCachesEach ts = ts.map withoutCaches := by
  induction ts with
  | nil => rfl
  | cons t ts ih => simp [withoutCachesEach, ih]

@[simp] theorem repositories_eq (call : Caller World) (ts : List Tree) :
    repositories call ts = ts.map (repository call) := by
  induction ts with
  | nil => rfl
  | cons t ts ih => simp [repositories, ih]

/-- The numbers of the caches. -/
def cacheIds (t : Tree) : List Nat := t.caches.map Prod.fst

variable {order : ReadOrder} {target : WriteTarget} {ts : List Tree} {t : Tree} {id : Nat}

theorem mem_leaves_composite :
    id ∈ (composite order target ts).leaves ↔ ∃ t ∈ ts, id ∈ t.leaves := by
  simp [leaves]

theorem mem_targets_composite :
    id ∈ (composite order target ts).targets ↔ ∃ t ∈ target.chosen ts, id ∈ t.targets := by
  simp [targets, WriteTarget.chosen_map]

theorem mem_caches_composite {n : Nat × Tree} :
    n ∈ (composite order target ts).caches ↔ ∃ t ∈ ts, n ∈ t.caches := by
  simp [caches]

theorem caches_subset_composite (ht : t ∈ ts) :
    t.caches ⊆ (composite order target ts).caches :=
  fun _ hn => mem_caches_composite.2 ⟨t, ht, hn⟩

theorem leaves_subset_composite (ht : t ∈ ts) :
    t.leaves ⊆ (composite order target ts).leaves :=
  fun _ hid => mem_leaves_composite.2 ⟨t, ht, hid⟩

/-- A write does not leave the tree. -/
theorem targets_subset_leaves (t : Tree) : t.targets ⊆ t.leaves := by
  induction t with
  | store id => exact List.Subset.refl _
  | cache id ttl inner ih => exact ih
  | composite order target ts ih =>
    intro id hid
    obtain ⟨t, ht, hid⟩ := mem_targets_composite.1 hid
    have hmem := target.mem_of_mem_chosen ht
    exact mem_leaves_composite.2 ⟨t, hmem, ih t hmem hid⟩
  | listenable id inner ih => exact ih
  | journal j inner ih => exact ih

/-- What a cache stands in front of has only stores of the tree. -/
theorem leaves_subset_of_mem_caches {n : Nat × Tree} (hn : n ∈ t.caches) :
    n.2.leaves ⊆ t.leaves := by
  induction t with
  | store id => simp [caches] at hn
  | cache id ttl inner ih =>
    rcases List.mem_cons.1 hn with rfl | hn
    · exact List.Subset.refl _
    · exact ih hn
  | composite order target ts ih =>
    obtain ⟨t, ht, hn⟩ := mem_caches_composite.1 hn
    exact fun id hid => leaves_subset_composite ht (ih t ht hn hid)
  | listenable id inner ih => exact ih hn
  | journal j inner ih => exact ih hn

/-- All caches behind a cache of the tree are caches of the tree. -/
theorem caches_subset_of_mem_caches {n : Nat × Tree} (hn : n ∈ t.caches) :
    n.2.caches ⊆ t.caches := by
  induction t with
  | store id => simp [caches] at hn
  | cache id ttl inner ih =>
    rcases List.mem_cons.1 hn with rfl | hn
    · exact List.subset_cons_self _ _
    · exact fun m hm => List.mem_cons_of_mem _ (ih hn hm)
  | composite order target ts ih =>
    obtain ⟨t, ht, hn⟩ := mem_caches_composite.1 hn
    exact fun m hm => caches_subset_composite ht (ih t ht hn hm)
  | listenable id inner ih => exact ih hn
  | journal j inner ih => exact ih hn

/-! ## Distinct trees -/

/-- No store and no cache occurs twice. -/
structure Distinct (t : Tree) : Prop where
  leaves : t.leaves.Nodup
  caches : t.cacheIds.Nodup

/-- Neither tree has a store or a cache of the other. -/
structure Apart (t u : Tree) : Prop where
  leaves : t.leaves.Disjoint u.leaves
  caches : t.cacheIds.Disjoint u.cacheIds

namespace Distinct

theorem inner_of_cache {ttl : Nat} (h : (cache id ttl t).Distinct) : t.Distinct :=
  ⟨h.leaves, (List.nodup_cons.1 h.caches).2⟩

/-- The number of a cache tells what it stands in front of. -/
theorem eq_of_mem_caches (h : t.Distinct) {m n : Nat × Tree} (hm : m ∈ t.caches)
    (hn : n ∈ t.caches) (hid : m.1 = n.1) : m = n :=
  List.inj_on_of_nodup_map h.caches hm hn hid

theorem of_mem (h : (composite order target ts).Distinct) (ht : t ∈ ts) : t.Distinct := by
  obtain ⟨hl, hc⟩ := h
  constructor
  · rw [Tree.leaves, leavesEach_eq, List.nodup_flatten] at hl
    exact hl.1 _ (List.mem_map_of_mem ht)
  · rw [cacheIds, Tree.caches, cachesEach_eq, List.map_flatten, List.nodup_flatten] at hc
    exact hc.1 _ (by simpa using ⟨t, ht, rfl⟩)

theorem pairwise_apart (h : (composite order target ts).Distinct) : ts.Pairwise Apart := by
  obtain ⟨hl, hc⟩ := h
  rw [Tree.leaves, leavesEach_eq, List.nodup_flatten, List.pairwise_map] at hl
  rw [cacheIds, Tree.caches, cachesEach_eq, List.map_flatten, List.nodup_flatten, List.map_map,
    List.pairwise_map] at hc
  exact hl.2.imp₂ (fun _ _ h h' => ⟨h, h'⟩) hc.2

/-- Two different delegates of a composite are apart. -/
theorem apart (h : (composite order target ts).Distinct) {u : Tree} (ht : t ∈ ts) (hu : u ∈ ts)
    (hne : t ≠ u) : t.Apart u := by
  have : Std.Symm Apart := ⟨fun _ _ h => ⟨List.disjoint_symm h.leaves, List.disjoint_symm h.caches⟩⟩
  exact h.pairwise_apart.forall ht hu hne

end Distinct

/-! ## Parts of a tree -/

/-- The first tree is a part of the second, and maybe all of it. -/
inductive Part (u : Tree) : Tree → Prop
  | whole : Part u u
  | cache (id ttl : Nat) {inner : Tree} : Part u inner → Part u (.cache id ttl inner)
  | composite (order : ReadOrder) (target : WriteTarget) {ts : List Tree} {t : Tree} :
      t ∈ ts → Part u t → Part u (.composite order target ts)
  | listenable (id : Nat) {inner : Tree} : Part u inner → Part u (.listenable id inner)
  | journal (j : Journal) {inner : Tree} : Part u inner → Part u (.journal j inner)

namespace Part

variable {u r : Tree}

theorem trans (h : u.Part t) (h' : t.Part r) : u.Part r := by
  induction h' with
  | whole => exact h
  | cache id ttl _ ih => exact .cache id ttl ih
  | composite order target ht _ ih => exact .composite order target ht ih
  | listenable id _ ih => exact .listenable id ih
  | journal j _ ih => exact .journal j ih

theorem leaves_subset (h : u.Part t) : u.leaves ⊆ t.leaves := by
  induction h with
  | whole => exact List.Subset.refl _
  | cache _ _ _ ih => exact ih
  | composite _ _ ht _ ih => exact fun id hid => leaves_subset_composite ht (ih hid)
  | listenable _ _ ih => exact ih
  | journal _ _ ih => exact ih

theorem caches_subset (h : u.Part t) : u.caches ⊆ t.caches := by
  induction h with
  | whole => exact List.Subset.refl _
  | cache _ _ _ ih => exact fun n hn => List.mem_cons_of_mem _ (ih hn)
  | composite _ _ ht _ ih => exact fun n hn => caches_subset_composite ht (ih hn)
  | listenable _ _ ih => exact ih
  | journal _ _ ih => exact ih

theorem distinct (h : u.Part t) (hd : t.Distinct) : u.Distinct := by
  induction h with
  | whole => exact hd
  | cache _ _ _ ih => exact ih hd.inner_of_cache
  | composite _ _ ht _ ih => exact ih (hd.of_mem ht)
  | listenable _ _ ih => exact ih ⟨hd.leaves, hd.caches⟩
  | journal _ _ ih => exact ih ⟨hd.leaves, hd.caches⟩

end Part

/-- Parts of trees that are apart are apart. -/
theorem Apart.mono {u t' u' : Tree} (h : t.Apart u) (ht : t'.Part t) (hu : u'.Part u) :
    t'.Apart u' where
  leaves := List.disjoint_of_subset_left ht.leaves_subset
    (List.disjoint_of_subset_right hu.leaves_subset h.leaves)
  caches := List.disjoint_of_subset_left (List.map_subset _ ht.caches_subset)
    (List.disjoint_of_subset_right (List.map_subset _ hu.caches_subset) h.caches)

/-- A part of a delegate is a part of a given delegate or apart from it. -/
theorem Distinct.part_or_apart (hd : (composite order target ts).Distinct) (ht : t ∈ ts)
    {t' u : Tree} (ht' : t' ∈ ts) (hu : u.Part t') : u.Part t ∨ t.Apart u := by
  by_cases heq : t = t'
  · exact .inl (heq ▸ hu)
  · exact .inr ((hd.apart ht ht' heq).mono .whole hu)

end FeatureToggle.Tree
