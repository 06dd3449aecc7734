import FeatureToggle.Proofs.Footprints
import FeatureToggle.Proofs.PartialWrites

/-!
# Attribution of failures

Where composites lie in each other, so do their errors. The positions in them lead down to the
stores that were to be written and failed, to all of them and to no other (`Tree.Mute.attributed`).
-/
namespace FeatureToggle

open FeatureToggle.Action Repository

/-! ## Composites in each other -/

mutual

/-- The failures of single requests that an error comes from, each with the positions that lead to
it. -/
def Error.causes : Error → List (List Nat × Error)
  | .partialWrite _ failures => causesEach failures
  | e => [([], e)]

def Error.causesEach : List (Nat × Error) → List (List Nat × Error)
  | [] => []
  | (position, e) :: rest => e.causes.map (Prod.map (position :: ·) id) ++ causesEach rest

end

theorem Store.causes_of_confirmation {s : Store} {feature : String} {e : Error}
    (h : s.confirmation feature = .error e) : e.causes = [([], e)] := by
  unfold confirmation at h
  split at h
  · obtain rfl := Except.error.inj h
    rfl
  · cases h

namespace Tree

mutual

/-- The numbers of the stores to which a write is passed on, each with the positions of the
delegates that lead to it. -/
def places : Tree → List (List Nat × Nat)
  | store id => [([], id)]
  | cache _ _ inner => inner.places
  | composite _ target ts =>
    (target.select (placesEach ts)).flatMap fun p => p.1.map (Prod.map (p.2 :: ·) id)
  | listenable _ inner => inner.places
  | journal _ inner => inner.places

def placesEach : List Tree → List (List (List Nat × Nat))
  | [] => []
  | t :: ts => t.places :: placesEach ts

end

@[simp] theorem placesEach_eq (ts : List Tree) : placesEach ts = ts.map places := by
  induction ts with
  | nil => rfl
  | cons t ts ih => simp [placesEach, ih]

theorem places_composite (order : ReadOrder) (target : WriteTarget) (ts : List Tree) :
    (composite order target ts).places =
      (target.select ts).flatMap fun p => p.1.places.map (Prod.map (p.2 :: ·) id) := by
  rw [places, placesEach_eq, WriteTarget.select_map, List.flatMap_map]
  rfl

/-- What the stores answer to which a write is passed on, with the positions that lead to each. -/
def confirmations (s : FeatureState) (w : World) (t : Tree) :
    List (List Nat × Except Error Unit) :=
  t.places.map fun p => (p.1, (w.stores p.2).confirmation s.feature)

/-- The same for trees that stand at positions. -/
def confirmationsAt (s : FeatureState) (w : World) (selected : List (Tree × Nat)) :
    List (List Nat × Except Error Unit) :=
  selected.flatMap fun p => (p.1.confirmations s w).map (Prod.map (p.2 :: ·) id)

theorem confirmations_composite (s : FeatureState) (w : World) (order : ReadOrder)
    (target : WriteTarget) (ts : List Tree) :
    (composite order target ts).confirmations s w = confirmationsAt s w (target.select ts) := by
  rw [confirmations, places_composite, List.map_flatMap]
  refine List.flatMap_congr fun p _ => ?_
  rw [confirmations, List.map_map, List.map_map]
  rfl

/-- Nobody is told of writes. -/
inductive Mute : Tree → Prop
  | store (id : Nat) : Mute (.store id)
  | cache (id ttl : Nat) {inner : Tree} : Mute inner → Mute (.cache id ttl inner)
  | composite (order : ReadOrder) (target : WriteTarget) {ts : List Tree} :
      (∀ t ∈ ts, Mute t) → Mute (.composite order target ts)
  | journal (j : Journal) {inner : Tree} : Mute inner → Mute (.journal j inner)

variable {call : Caller World} {s : FeatureState} {t : Tree} {w v : World}

/-- Where nobody is told, it does not matter how listeners are called. -/
theorem Mute.repository_eq (h : t.Mute) (call call' : Caller World) :
    t.repository call = t.repository call' := by
  induction h with
  | store id => rfl
  | cache id ttl _ ih => rw [repository, repository, ih]
  | composite order target _ ih =>
    rw [repository, repository, repositories_eq, repositories_eq]
    exact congrArg _ (List.map_congr_left ih)
  | journal j _ ih => rw [repository, repository, ih]

/-- A write that nobody is told of changes no confirmation. -/
theorem Mute.confirmations_after_write (h : t.Mute) (call : Caller World) (s : FeatureState)
    (w : World) (u : Tree) :
    u.confirmations s (((t.repository call).write s).after w) = u.confirmations s w := by
  let silence : Caller World := fun _ _ _ => return .done
  have hq : silence.Quiet fun _ => True :=
    ⟨fun _ _ _ _ _ => rfl, fun _ _ _ _ _ => rfl, fun _ _ _ _ _ hw => hw⟩
  rw [h.repository_eq call silence]
  obtain ⟨hwithin, -⟩ := confined_write (s := s) hq t w fun _ _ _ => trivial
  refine List.map_congr_left fun p _ => congrArg (Prod.mk p.1) ?_
  unfold Store.confirmation Store.failure
  rw [hwithin.failsWrites, hwithin.name]

/-- A write to the tree succeeds if all stores confirm that it reaches, and otherwise the positions
in its error lead to those that do not. -/
structure Attributed (call : Caller World) (s : FeatureState) (w : World) (t : Tree) : Prop where
  ok_iff : ((t.repository call).write s).result w = .ok () ↔ ∀ o ∈ t.confirmations s w, o.2 = .ok ()
  causes : ∀ e, ((t.repository call).write s).result w = .error e →
    e.causes = failures (t.confirmations s w)

/-- The loop of a composite lists no failure if all stores behind its delegates confirm, and
otherwise the positions in the list lead to those that do not. -/
theorem causesEach_writeEach {selected : List (Tree × Nat)} (hmute : ∀ p ∈ selected, p.1.Mute)
    (h : ∀ p ∈ selected, ∀ w, p.1.Attributed call s w) (w : World) :
    let failed := (writeEach s (selected.map (Prod.map (repository call) id))).result w
    (failed = [] ↔ ∀ o ∈ confirmationsAt s w selected, o.2 = .ok ()) ∧
      Error.causesEach failed = failures (confirmationsAt s w selected) := by
  induction selected generalizing w with
  | nil => exact ⟨by simp [confirmationsAt, writeEach], rfl⟩
  | cons p rest ih =>
    obtain ⟨t, position⟩ := p
    let v := ((t.repository call).write s).after w
    have hstay : confirmationsAt s v rest = confirmationsAt s w rest :=
      List.flatMap_congr fun p _ => by
        rw [(hmute _ List.mem_cons_self).confirmations_after_write call s w p.1]
    have hrest := ih (fun p hp => hmute p (List.mem_cons_of_mem _ hp))
      (fun p hp => h p (List.mem_cons_of_mem _ hp)) v
    have hhead := h (t, position) List.mem_cons_self w
    have hsplit : confirmationsAt s w ((t, position) :: rest) =
        (t.confirmations s w).map (Prod.map (position :: ·) id) ++ confirmationsAt s w rest :=
      List.flatMap_cons
    rw [hstay] at hrest
    obtain ⟨hnil, hcauses⟩ := hrest
    rw [hsplit, failures_append, failures_map, List.map_cons, List.forall_mem_append]
    intro failed
    cases hwrite : ((t.repository call).write s).result w with
    | ok _ =>
      have hall := hhead.ok_iff.1 hwrite
      have hfailed : failed = (writeEach s (rest.map (Prod.map (repository call) id))).result v :=
        congrArg (·.value.1) (run_writeEach_of_ok position _ hwrite)
      rw [hfailed, failures_eq_nil_iff.2 hall, hcauses, hnil]
      exact ⟨⟨fun h => ⟨List.forall_mem_map.2 hall, h⟩, And.right⟩, rfl⟩
    | error e =>
      have hfailed : failed =
          (position, e) :: (writeEach s (rest.map (Prod.map (repository call) id))).result v :=
        congrArg (·.value.1) (run_writeEach_of_error position _ hwrite)
      rw [hfailed, Error.causesEach, hcauses, hhead.causes e hwrite]
      refine ⟨⟨fun h => absurd h (List.cons_ne_nil _ _), fun h => ?_⟩, rfl⟩
      have hall := List.forall_mem_map.1 h.1
      rw [hhead.ok_iff.2 hall] at hwrite
      cases hwrite

/-- In a tree without listeners the positions in an error lead to the stores that failed. -/
theorem Mute.attributed (h : t.Mute) (call : Caller World) (s : FeatureState) (w : World) :
    t.Attributed call s w := by
  induction h generalizing w with
  | store id =>
    have hconfirmations : (Tree.store id).confirmations s w =
        [([], (w.stores id).confirmation s.feature)] := rfl
    constructor
    · rw [Tree.repository, result_store_write, hconfirmations, List.forall_mem_singleton]
      rfl
    · intro e he
      rw [Tree.repository, result_store_write] at he
      have he' : (w.stores id).confirmation s.feature = .error e := he
      rw [hconfirmations, he', Store.causes_of_confirmation he']
      rfl
  | cache id ttl _ ih =>
    constructor
    · rw [Tree.repository, result_cached_write]
      exact (ih w).ok_iff
    · rw [Tree.repository, result_cached_write]
      exact (ih w).causes
  | @composite order target ts hmute ih =>
    have hmem : ∀ p ∈ target.select ts, p.1 ∈ ts :=
      fun p hp => target.mem_of_mem_chosen (target.mem_chosen_of_mem_select hp)
    obtain ⟨hnil, hcauses⟩ := causesEach_writeEach (fun p hp => hmute p.1 (hmem p hp))
      (fun p hp w => ih p.1 (hmem p hp) w) w
    have hrun := run_composite_write order target (ts.map (repository call)) s w
    rw [WriteTarget.select_map] at hrun
    constructor
    · rw [Tree.repository, repositories_eq, Action.result, hrun, tally_eq_ok_iff,
        confirmations_composite, hnil]
    · intro e he
      rw [Tree.repository, repositories_eq, Action.result, hrun] at he
      rw [tally_eq_error he, confirmations_composite, Error.causes, hcauses]
  | journal j _ ih => exact ⟨(ih w).ok_iff, (ih w).causes⟩

end Tree

/-! ## Accounts of writes -/

/-- A composite of any delegates accounts for every write: the delegates at the selected positions
are tried one after the other, and the error lists those that failed. In trees without listeners the
positions in the errors lead down to the stores that were to be written and failed, to all of them
and to no other, and each stands there with its own failure. -/
theorem write_accounted {σ : Type} (order : ReadOrder) (target : WriteTarget)
    {delegates : List (Repository σ)} (h : delegates ≠ []) (state : FeatureState) (w : σ)
    {t : Tree} (ht : t.Mute) (call : Caller World) (s : FeatureState) (v : World) :
    (∃ outcomes, Accounted target delegates state
      ((composite order target delegates).write state) w outcomes) ∧
      t.Attributed call s v :=
  ⟨exists_accounted_write order target h state w, ht.attributed call s v⟩

/-- Stores behind composites, of which each is written in another way. -/
def tiers : List Tree :=
  [.store 0, .cache 0 5 (.composite .lifo .last [.store 1, .store 2]),
    .journal .standard (.composite .fifo .all [.store 3, .store 4])]

def tiered : Tree := .composite .fifo .all tiers

/-- Two of the stores refuse every write. -/
def brittle : World :=
  { World.initial with
    stores := fun id => ⟨some (toString id), .empty, false, id = 2 || id = 4, 0⟩ }

theorem write_accounted_tiered :
    let call := callListener fun _ => none
    let write := (tiered.repository call).write (.of "alpha" true)
    tiers.map (Tree.repository call) ≠ [] ∧ tiered.Mute ∧
      ∃ failed, write.result brittle = .error (.partialWrite 3 failed) ∧
        (Error.partialWrite 3 failed).causes =
          [([1, 1], .store "2 cannot write alpha"), ([2, 1], .store "4 cannot write alpha")] := by
  intro call write
  have hne : tiers.map (Tree.repository call) ≠ [] := List.cons_ne_nil _ _
  have hstores (order : ReadOrder) (target : WriteTarget) (ids : List Nat) :
      (Tree.composite order target (ids.map .store)).Mute := by
    refine .composite order target fun t ht => ?_
    obtain ⟨id, -, rfl⟩ := List.mem_map.1 ht
    exact .store id
  have hmute : tiered.Mute := by
    refine .composite .fifo .all (List.forall_mem_cons.2 ⟨.store 0, ?_⟩)
    refine List.forall_mem_cons.2 ⟨.cache 0 5 (hstores .lifo .last [1, 2]), ?_⟩
    exact List.forall_mem_singleton.2 (.journal .standard (hstores .fifo .all [3, 4]))
  obtain ⟨⟨outcomes, haccount⟩, hattributed⟩ :=
    write_accounted .fifo .all hne (.of "alpha" true) brittle hmute call (.of "alpha" true) brittle
  have hlength : outcomes.length = 3 := by
    rw [← List.length_map (f := Prod.fst), haccount.positions]
    rfl
  refine ⟨hne, hmute, ?_⟩
  cases hresult : write.result brittle with
  | ok _ =>
    have hconfirmed := hattributed.ok_iff.1 hresult
    have hrefusal : ([1, 1], .error (.store "2 cannot write alpha")) ∈
        tiered.confirmations (.of "alpha" true) brittle := .tail _ (.head _)
    cases hconfirmed _ hrefusal
  | error e =>
    obtain ⟨failed, rfl, -, -⟩ := haccount.error e hresult
    rw [hlength] at hresult ⊢
    exact ⟨failed, rfl, hattributed.causes _ hresult⟩

end FeatureToggle
