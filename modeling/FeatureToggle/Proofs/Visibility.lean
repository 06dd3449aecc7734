import FeatureToggle.Proofs.PartialWrites
import FeatureToggle.Proofs.Scans
import Mathlib.Data.List.TakeWhile

/-!
# What a composite shows of its writes

A composite may write a delegate that it does not read first. A state whose write succeeded is read
back exactly if nothing that is read before the written delegates hides it; else reads go on as if
nothing had been written (`Repository.shows_write`).
-/
namespace FeatureToggle

open FeatureToggle.Action

/-! ## What is read before it is written -/

namespace WriteTarget

variable {α : Type} {order : ReadOrder} {target : WriteTarget} {items : List α}

/-- Whether a write to `n` items passes over the one at the position of `p`. -/
def passesOver (target : WriteTarget) (n : Nat) (p : α × Nat) : Bool := p.2 ∉ target.positions n

/-- The delegates that are read before the first one that is written. -/
def front (target : WriteTarget) (order : ReadOrder) (items : List α) : List α :=
  ((order.arrange items.zipIdx).takeWhile (target.passesOver items.length)).map Prod.fst

theorem passesOver_iff (hne : items ≠ []) {p : α × Nat} (hp : p ∈ items.zipIdx) :
    target.passesOver items.length p = true ↔ p ∉ target.select items := by
  rw [passesOver, decide_eq_true_iff, not_iff_not, ← map_snd_select target hne]
  constructor
  · intro h
    obtain ⟨q, hq, hpos⟩ := List.mem_map.1 h
    have hsame : some q.1 = some p.1 := by
      rw [← getElem?_of_mem_select target hq, hpos]
      exact List.mem_zipIdx_iff_getElem?.1 hp
    have heq : q = p := Prod.ext (Option.some.inj hsame) hpos
    exact heq ▸ hq
  · exact fun h => List.mem_map_of_mem h

/-- In the order of reading, the first delegate that is written comes right after the front. -/
theorem exists_arrange_eq (order : ReadOrder) (target : WriteTarget) (hne : items ≠ []) :
    ∃ before p after, order.arrange items.zipIdx = before ++ p :: after ∧
      before.map Prod.fst = front target order items ∧
      (∀ q ∈ before, q ∉ target.select items) ∧ p ∈ target.select items := by
  have hzip : ∀ q ∈ order.arrange items.zipIdx, q ∈ items.zipIdx :=
    fun q hq => (order.mem_arrange _ q).1 hq
  have hsplit := List.takeWhile_append_dropWhile (p := target.passesOver items.length)
    (l := order.arrange items.zipIdx)
  cases hrest : (order.arrange items.zipIdx).dropWhile (target.passesOver items.length) with
  | nil =>
    -- somebody is written, so that not everybody is in front
    obtain ⟨a, ha⟩ := target.exists_mem_chosen hne
    obtain ⟨p, hp, rfl⟩ := List.mem_map.1 ha
    have hmem : p ∈ items.zipIdx := (target.select_sublist items).subset hp
    have hall := List.dropWhile_eq_nil_iff.1 hrest p ((order.mem_arrange _ p).2 hmem)
    exact absurd hp ((passesOver_iff hne hmem).1 hall)
  | cons p after =>
    rw [hrest] at hsplit
    refine ⟨_, p, after, hsplit.symm, rfl, fun q hq => ?_, ?_⟩
    · have hmem := hzip q ((List.takeWhile_prefix _).subset hq)
      exact (passesOver_iff hne hmem).1 (List.mem_takeWhile_imp hq)
    · have hmem := hzip p (hsplit ▸ List.mem_append_right _ List.mem_cons_self)
      have hhead := List.head?_dropWhile_not (target.passesOver items.length)
        (order.arrange items.zipIdx)
      rw [hrest] at hhead
      by_contra hnot
      exact absurd ((passesOver_iff hne hmem).2 hnot) (ne_true_of_eq_false hhead)

/-- If the delegate that is read first is written, none is in front. -/
theorem front_of_agree (hne : items ≠ []) (h : Tree.Agree order target ∨ items.length = 1) :
    front target order items = [] := by
  have hzip : items.zipIdx ≠ [] := fun h0 => hne (by simpa using h0)
  obtain ⟨p, rest, harrange, hp⟩ :=
    Tree.arrange_eq_cons_of_agree hzip (h.imp_right fun hlen => by simpa using hlen)
  have hsel : p ∈ target.select items := by
    have hchosen : target.chosen items.zipIdx = target.select items := by
      rw [chosen_eq, List.length_zipIdx]
      rfl
    exact hchosen ▸ hp
  have hnot : ¬ target.passesOver items.length p = true := by
    rw [passesOver_iff hne ((target.select_sublist items).subset hsel), not_not]
    exact hsel
  rw [front, harrange, List.takeWhile_cons_of_neg hnot]
  rfl

/-- Of those that are read in their order the last one is written, and all others are in front. -/
theorem front_fifo_last (items : List α) : front .last .fifo items = items.dropLast := by
  rcases List.eq_nil_or_concat items with rfl | ⟨init, a, rfl⟩
  · rfl
  · rw [List.concat_eq_append]
    have hinit : ∀ p ∈ init.zipIdx, last.passesOver (init ++ [a]).length p = true := by
      intro p hp
      have hlt := List.snd_lt_of_mem_zipIdx hp
      simp only [passesOver, positions, List.length_append, List.length_singleton,
        List.mem_singleton, decide_eq_true_eq]
      omega
    rw [front, ReadOrder.arrange, List.zipIdx_append, List.takeWhile_append_of_pos hinit]
    simp [passesOver, positions]

end WriteTarget

namespace Repository

variable {σ : Type} {I : σ → Prop} {r q : Repository σ}

/-! ## Delegates that keep out of each other's way -/

/-- Worlds of the kind `I` stay so, and `q` answers every read as it did. -/
def Unmoved (I : σ → Prop) (q : Repository σ) (w v : σ) : Prop :=
  I w → I v ∧ ∀ feature, (q.read feature).result v = (q.read feature).result w

instance : IsPreorder σ (Unmoved I q) where
  refl _ hw := ⟨hw, fun _ => rfl⟩
  trans _ _ _ huv hvw hu := by
    obtain ⟨hv, hanswer⟩ := huv hu
    obtain ⟨hw, hanswer'⟩ := hvw hv
    exact ⟨hw, fun feature => (hanswer' feature).trans (hanswer feature)⟩

/-- In worlds of the kind `I` reads change no answer, and a state whose write succeeded is read
back. Other reads may fail, and so may writes. -/
structure Retentive (I : σ → Prop) (r : Repository σ) : Prop where
  read : ∀ feature, Keeps (r.Unmoved I) (r.read feature)
  keeps : ∀ s, Keeps (Preserves I) (r.write s)
  write : ∀ s w, I w → (r.write s).result w = .ok () →
    (r.read s.feature).result ((r.write s).after w) = .ok (some s)

/-- No request to `r` changes an answer of `q`. -/
structure Spares (I : σ → Prop) (r q : Repository σ) : Prop where
  read : ∀ feature, Keeps (q.Unmoved I) (r.read feature)
  write : ∀ s, Keeps (q.Unmoved I) (r.write s)

def Independent (I : σ → Prop) (r q : Repository σ) : Prop := r.Spares I q ∧ q.Spares I r

variable {delegates : List (Repository σ)} {s : FeatureState} {w : σ}

/-! ## Reads of a composite -/

/-- The world `v` is of the kind `I`, and all delegates answer reads there as they do in `w`. -/
structure SameAnswers (I : σ → Prop) (delegates : List (Repository σ)) (w v : σ) : Prop where
  kind : I v
  answers : ∀ d ∈ delegates, ∀ feature, (d.read feature).result v = (d.read feature).result w

/-- Reads of independent delegates change no answer of any of them. -/
theorem SameAnswers.read (hkeep : ∀ d ∈ delegates, d.Retentive I)
    (hind : delegates.Pairwise (Independent I)) {v : σ} (h : SameAnswers I delegates w v)
    {d : Repository σ} (hd : d ∈ delegates) (feature : String) :
    SameAnswers I delegates w ((d.read feature).after v) := by
  have hunmoved : ∀ ⦃r⦄, r ∈ delegates → ∀ ⦃q⦄, q ∈ delegates →
      Keeps (q.Unmoved I) (r.read feature) :=
    List.Pairwise.forall_of_forall_of_flip (fun r hr => (hkeep r hr).read feature)
      (hind.imp fun h => h.1.read feature) (hind.imp fun h => h.2.read feature)
  refine ⟨(hunmoved hd hd v h.kind).1, fun q hq other => ?_⟩
  exact ((hunmoved hd hq v h.kind).2 other).trans (h.answers q hq other)

/-- Independent delegates can be asked one after the other as if each were asked alone. -/
theorem result_composite_read (order : ReadOrder) (target : WriteTarget)
    (hkeep : ∀ d ∈ delegates, d.Retentive I) (hind : delegates.Pairwise (Independent I)) (hw : I w)
    (feature : String) :
    ((composite order target delegates).read feature).result w =
      firstPresent ((order.arrange delegates).map fun d => (d.read feature).result w) := by
  have hstep : ∀ d ∈ order.arrange delegates, ∀ v, SameAnswers I delegates w v →
      (d.read feature).result v = (d.read feature).result w ∧
        SameAnswers I delegates w ((d.read feature).after v) := by
    intro d hd v hv
    have hmem := (order.mem_arrange delegates d).1 hd
    exact ⟨hv.answers d hmem feature, hv.read hkeep hind hmem feature⟩
  have hfirst := (result_readFirst (f := id) hstep ⟨hw, fun _ _ _ => rfl⟩).1
  rwa [List.map_id] at hfirst

/-! ## Writes to a composite -/

theorem unmoved_writeEach {selected : List (Repository σ × Nat)}
    (h : ∀ p ∈ selected, p.1.Spares I q) : Keeps (q.Unmoved I) (writeEach s selected) :=
  leaves_writeEach (T := fun w _ v => q.Unmoved I w v) fun p hp => (h p hp).write s

/-- If no delegate failed, all of them give the state back. -/
theorem written_writeEach {selected : List (Repository σ × Nat)}
    (hkeep : ∀ p ∈ selected, p.1.Retentive I)
    (hind : selected.Pairwise fun p p' => Independent I p.1 p'.1) (hw : I w)
    (hok : (writeEach s selected).result w = []) :
    I ((writeEach s selected).after w) ∧ ∀ p ∈ selected,
      (p.1.read s.feature).result ((writeEach s selected).after w) = .ok (some s) := by
  induction selected generalizing w with
  | nil => exact ⟨hw, fun p hp => absurd hp List.not_mem_nil⟩
  | cons p rest ih =>
    obtain ⟨d, position⟩ := p
    obtain ⟨hhead, hrest⟩ := List.pairwise_cons.1 hind
    have hd := hkeep _ List.mem_cons_self
    cases hwrite : (d.write s).result w with
    | error e =>
      rw [Action.result, run_writeEach_of_error position rest hwrite] at hok
      cases hok
    | ok _ =>
      have hrun := run_writeEach_of_ok position rest hwrite
      rw [Action.result, hrun] at hok
      have hv : I ((d.write s).after w) := hd.keeps s w hw
      obtain ⟨hlast, hall⟩ := ih (fun p hp => hkeep p (List.mem_cons_of_mem _ hp)) hrest hv hok
      have hspared : Keeps (d.Unmoved I) (writeEach s rest) :=
        unmoved_writeEach fun p hp => (hhead p hp).2
      have hback := ((hspared _ hv).2 s.feature).trans (hd.write s w hw hwrite)
      rw [Action.after, hrun]
      exact ⟨hlast, List.forall_mem_cons.2 ⟨hback, hall⟩⟩

/-- After a write that failed nowhere the written delegates answer the state, and all others
answer as they did. -/
theorem result_read_written (order : ReadOrder) (target : WriteTarget)
    (hkeep : ∀ d ∈ delegates, d.Retentive I) (hind : delegates.Pairwise (Independent I)) (hw : I w)
    (hok : ((composite order target delegates).write s).result w = .ok ()) :
    let v := ((composite order target delegates).write s).after w
    I v ∧ (∀ p ∈ target.select delegates, (p.1.read s.feature).result v = .ok (some s)) ∧
      ∀ p ∈ delegates.zipIdx, p ∉ target.select delegates →
        (p.1.read s.feature).result v = (p.1.read s.feature).result w := by
  have hrun := run_composite_write order target delegates s w
  have hloop : (writeEach s (target.select delegates)).result w = [] := by
    rw [Action.result, hrun] at hok
    exact tally_eq_ok_iff.1 hok
  have hsub := target.select_sublist delegates
  have hzip : delegates.zipIdx.Pairwise fun p p' => Independent I p.1 p'.1 := by
    rw [← List.pairwise_map, List.zipIdx_map_fst]
    exact hind
  have hspares : ∀ ⦃p⦄, p ∈ delegates.zipIdx → ∀ ⦃p'⦄, p' ∈ delegates.zipIdx → p' ≠ p →
      p'.1.Spares I p.1 :=
    List.Pairwise.forall_of_forall_of_flip (fun _ _ h => absurd rfl h) (hzip.imp fun h _ => h.2)
      (hzip.imp fun h _ => h.1)
  have hmem : ∀ p ∈ delegates.zipIdx, p.1 ∈ delegates := fun p hp => List.fst_mem_of_mem_zipIdx hp
  rw [Action.after, hrun]
  dsimp only
  obtain ⟨hv, hwritten⟩ :=
    written_writeEach (fun p hp => hkeep _ (hmem p (hsub.subset hp))) (hzip.sublist hsub) hw hloop
  refine ⟨hv, hwritten, fun p hp hnot => ?_⟩
  have hunmoved : Keeps (p.1.Unmoved I) (writeEach s (target.select delegates)) :=
    unmoved_writeEach fun p' hp' => hspares hp (hsub.subset hp') fun heq => hnot (heq ▸ hp')
  exact (hunmoved w hw).2 s.feature

/-! ## What is shown -/

/-- Nothing hides the state: all answer absence, or the first that does not answers the state. -/
def Unhidden (s : FeatureState) (w : σ) (front : List (Repository σ)) : Prop :=
  (∀ d ∈ front, (d.read s.feature).result w = .ok none) ∨
    ∃ before d after, front = before ++ d :: after ∧
      (∀ d' ∈ before, (d'.read s.feature).result w = .ok none) ∧
      (d.read s.feature).result w = .ok (some s)

theorem unhidden_iff {front : List (Repository σ)} :
    Unhidden s w front ↔
      firstPresent (front.map fun d => (d.read s.feature).result w) = .ok none ∨
      firstPresent (front.map fun d => (d.read s.feature).result w) = .ok (some s) := by
  refine or_congr firstPresent_eq_none_iff.symm ⟨?_, fun h => ?_⟩
  · rintro ⟨before, d, after, rfl, habsent, hd⟩
    have hpresent : (d.read s.feature).result w ≠ .ok none := by
      rw [hd]
      simp
    exact (firstPresent_of_first habsent hpresent).trans hd
  · exact exists_first_of_firstPresent (by simp) h

/-- What the next read of a composite gives after a write that succeeded. -/
structure Shows (order : ReadOrder) (target : WriteTarget) (delegates : List (Repository σ))
    (s : FeatureState) (w : σ) (next : Except Error (Option FeatureState)) : Prop where
  /-- The state is given if and only if nothing in front hides it. -/
  iff : next = .ok (some s) ↔ Unhidden s w (target.front order delegates)
  /-- What hides the state is given as it was before. -/
  hidden : ¬ Unhidden s w (target.front order delegates) →
    next = ((composite order target delegates).read s.feature).result w
  /-- Nothing can hide the state if the delegate that is read first is written. -/
  agree : Tree.Agree order target ∨ delegates.length = 1 → next = .ok (some s)
  /-- If the delegate that is read last is the written one, all others can hide the state. -/
  last : order = .fifo → target = .last →
    (next = .ok (some s) ↔ Unhidden s w delegates.dropLast)

/-- The delegates in front answer as they did, and right after them comes one that was written. -/
theorem result_next_read (order : ReadOrder) (target : WriteTarget) (hne : delegates ≠ [])
    (hkeep : ∀ d ∈ delegates, d.Retentive I) (hind : delegates.Pairwise (Independent I)) (hw : I w)
    (hok : ((composite order target delegates).write s).result w = .ok ()) :
    let c := composite order target delegates
    let front := firstPresent ((target.front order delegates).map fun d =>
      (d.read s.feature).result w)
    (front = .ok none → (c.read s.feature).result ((c.write s).after w) = .ok (some s)) ∧
      (front ≠ .ok none → (c.read s.feature).result ((c.write s).after w) = front ∧
        (c.read s.feature).result w = front) := by
  intro c front
  obtain ⟨hv, hwritten, hothers⟩ := result_read_written order target hkeep hind hw hok
  obtain ⟨before, p, after, hzip, hfront, hbefore, hp⟩ :=
    WriteTarget.exists_arrange_eq order target hne
  have harrange : order.arrange delegates =
      target.front order delegates ++ p.1 :: after.map Prod.fst := by
    rw [← hfront, ← List.map_cons, ← List.map_append, ← hzip, ← ReadOrder.arrange_map,
      List.zipIdx_map_fst]
  have hsame : (target.front order delegates).map
      (fun d => (d.read s.feature).result ((c.write s).after w)) =
        (target.front order delegates).map fun d => (d.read s.feature).result w := by
    rw [← hfront, List.map_map, List.map_map]
    refine List.map_congr_left fun q hq => hothers q ?_ (hbefore q hq)
    exact (order.mem_arrange _ q).1 (hzip ▸ List.mem_append_left _ hq)
  have hread := result_composite_read order target hkeep hind hw s.feature
  have hnext := result_composite_read order target hkeep hind hv s.feature
  rw [harrange, List.map_append, firstPresent_append] at hread hnext
  rw [hsame, List.map_cons, hwritten p hp] at hnext
  constructor
  · intro h
    simp only [front] at h
    rw [h] at hnext
    exact hnext
  · intro h
    refine ⟨hnext.trans ?_, hread.trans ?_⟩
    · split
      · contradiction
      · rfl
    · split
      · contradiction
      · rfl

/-- Whatever the delegates answer before, and be it a failure, a composite shows what was written to
it exactly if nothing in front of the written delegates hides it. -/
theorem shows_write (order : ReadOrder) (target : WriteTarget) (hne : delegates ≠ [])
    (hkeep : ∀ d ∈ delegates, d.Retentive I) (hind : delegates.Pairwise (Independent I)) (hw : I w)
    (hok : ((composite order target delegates).write s).result w = .ok ()) :
    Shows order target delegates s w (((composite order target delegates).read s.feature).result
      (((composite order target delegates).write s).after w)) := by
  obtain ⟨habsent, hpresent⟩ := result_next_read order target hne hkeep hind hw hok
  have hiff : ((composite order target delegates).read s.feature).result
      (((composite order target delegates).write s).after w) = .ok (some s) ↔
        Unhidden s w (target.front order delegates) := by
    rw [unhidden_iff]
    constructor
    · intro h
      by_cases hfront : firstPresent ((target.front order delegates).map fun d =>
          (d.read s.feature).result w) = .ok none
      · exact .inl hfront
      · exact .inr ((hpresent hfront).1.symm.trans h)
    · rintro (hfront | hfront)
      · exact habsent hfront
      · exact (hpresent (by simp [hfront])).1.trans hfront
  refine ⟨hiff, fun h => ?_, fun h => ?_, ?_⟩
  · obtain ⟨hnext, hread⟩ := hpresent fun hfront => h (unhidden_iff.2 (.inl hfront))
    exact hnext.trans hread.symm
  · refine hiff.2 (.inl ?_)
    rw [WriteTarget.front_of_agree hne h]
    exact fun d hd => absurd hd List.not_mem_nil
  · rintro rfl rfl
    rwa [WriteTarget.front_fifo_last] at hiff

end Repository

/-! ## Stores -/

/-- No store takes writes while it fails reads. -/
def World.Prudent (w : World) : Prop :=
  ∀ id, (w.stores id).failsReads = true → (w.stores id).failsWrites = true

namespace Repository

/-- What a request to a store leaves in its place fails as the store did. -/
theorem unmoved_put {id : Nat} {w : World} (st : Store)
    (hreads : st.failsReads = (w.stores id).failsReads)
    (hwrites : st.failsWrites = (w.stores id).failsWrites) {other : Nat}
    (h : other = id → ∀ feature, st.answer feature = (w.stores id).answer feature) :
    (store (World.store other)).Unmoved World.Prudent w ((World.store id).put st w) := by
  intro hw
  refine ⟨fun i => ?_, fun feature => ?_⟩
  · by_cases hi : i = id
    · subst hi
      have hput : ((World.store i).put st w).stores i = st := World.setAt_self _ _ _
      rw [hput, hreads, hwrites]
      exact hw i
    · have hput : ((World.store id).put st w).stores i = w.stores i := World.setAt_of_ne _ _ hi
      rw [hput]
      exact hw i
  · rw [result_store_read, result_store_read]
    by_cases hi : other = id
    · subst hi
      rw [Slot.get_put]
      exact h rfl feature
    · have hput : ((World.store id).put st w).stores other = w.stores other :=
        World.setAt_of_ne _ _ hi
      exact congrArg (·.answer feature) hput

theorem unmoved_store_read (id other : Nat) (feature : String) :
    Keeps ((store (World.store other)).Unmoved World.Prudent)
      ((store (World.store id)).read feature) := by
  intro w
  rw [after_store_read]
  exact unmoved_put { w.stores id with reads := (w.stores id).reads + 1 } rfl rfl fun _ _ => rfl

theorem unmoved_store_write {id other : Nat} (hne : other ≠ id) (s : FeatureState) :
    Keeps ((store (World.store other)).Unmoved World.Prudent)
      ((store (World.store id)).write s) := by
  intro w
  have hflags (st : Store) : (st.written s).failsReads = st.failsReads ∧
      (st.written s).failsWrites = st.failsWrites := by
    unfold Store.written
    split <;> exact ⟨rfl, rfl⟩
  rw [after_store_write]
  exact unmoved_put _ (hflags _).1 (hflags _).2 fun h => absurd h hne

/-- Different stores are independent. -/
theorem independent_store {id other : Nat} (hne : id ≠ other) :
    Independent World.Prudent (store (World.store id)) (store (World.store other)) :=
  ⟨⟨unmoved_store_read id other, unmoved_store_write hne.symm⟩,
    ⟨unmoved_store_read other id, unmoved_store_write hne⟩⟩

theorem retentive_store (id : Nat) : (store (World.store id)).Retentive World.Prudent where
  read := unmoved_store_read id id
  keeps s w hw := (unmoved_store_write (Nat.succ_ne_self id) s w hw).1
  write s w hw hok := by
    rw [result_store_write] at hok
    rw [after_store_write, result_store_read, Slot.get_put]
    have hwrites : (w.stores id).failsWrites = false := by
      by_contra h
      have htrue : ((World.store id).get w).failsWrites = true := eq_true_of_ne_false h
      rw [Store.confirmation, if_pos htrue] at hok
      cases hok
    have hreads : (w.stores id).failsReads = false := by
      by_contra h
      have htrue := hw id (eq_true_of_ne_false h)
      rw [hwrites] at htrue
      cases htrue
    have hget : (World.store id).get w = w.stores id := rfl
    simp [hget, Store.written, Store.answer, hwrites, hreads]

theorem retentive_stores (ids : List Nat) :
    ∀ d ∈ ids.map fun id => store (World.store id), d.Retentive World.Prudent :=
  List.forall_mem_map.2 fun id _ => retentive_store id

theorem pairwise_independent_stores {ids : List Nat} (h : ids.Nodup) :
    (ids.map fun id => store (World.store id)).Pairwise (Independent World.Prudent) :=
  List.pairwise_map.2 (h.imp independent_store)

/-- Of these stores one has `"alpha"`, one fails all requests, and the others are empty. -/
def stacked : World :=
  { World.initial with
    stores := fun id =>
      ⟨none, .ofList (if id = 1 then [.of "alpha" true] else []), id = 2, id = 2, 0⟩ }

/-- The state of a store in front hides another one, and so does a failure in front. -/
theorem shows_write_stacked :
    let stores := [0, 1, 3].map fun id => store (World.store id)
    let failing := [4, 2].map fun id => store (World.store id)
    let s : FeatureState := .of "alpha" false
    let v := ((composite .fifo .last stores).write s).after stacked
    let u := ((composite .lifo .first failing).write s).after stacked
    stacked.Prudent ∧
      ((composite .fifo .last stores).write s).result stacked = .ok () ∧
      ((composite .fifo .last stores).read "alpha").result v = .ok (some (.of "alpha" true)) ∧
      ((composite .lifo .first failing).write s).result stacked = .ok () ∧
      ((composite .lifo .first failing).read "alpha").result u =
        .error (.store " cannot read alpha") := by
  intro stores failing s v u
  have hw : stacked.Prudent := fun _ h => h
  have hok : ((composite .fifo .last stores).write s).result stacked = .ok () := rfl
  have hok' : ((composite .lifo .first failing).write s).result stacked = .ok () := rfl
  have hfront : firstPresent ((WriteTarget.last.front .fifo stores).map
      fun d => (d.read s.feature).result stacked) = .ok (some (.of "alpha" true)) := rfl
  have hfront' : firstPresent ((WriteTarget.first.front .lifo failing).map
      fun d => (d.read s.feature).result stacked) = .error (.store " cannot read alpha") := rfl
  have hshows := shows_write .fifo .last (by simp) (retentive_stores _)
    (pairwise_independent_stores (by decide)) hw hok
  have hshows' := shows_write .lifo .first (by simp) (retentive_stores _)
    (pairwise_independent_stores (by decide)) hw hok'
  have hhidden : ¬ Unhidden s stacked (WriteTarget.last.front .fifo stores) := by
    rw [unhidden_iff, hfront]
    simp [s, FeatureState.of]
  have hhidden' : ¬ Unhidden s stacked (WriteTarget.first.front .lifo failing) := by
    rw [unhidden_iff, hfront']
    simp
  exact ⟨hw, hok, hshows.hidden hhidden, hok', hshows'.hidden hhidden'⟩

end Repository

end FeatureToggle
