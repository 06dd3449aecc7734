import FeatureToggle.Proofs.Trees

/-!
# Answers of a tree

What a tree would answer if it had no caches, as a function of what its stores keep. Two questions
are settled here without any run. A write that reaches the first delegate of every composite is read
back (`WriteThrough.answer_of_reached`). A write of what was read, or of anything where nothing was
read, is read back whatever the composites select (`answer_of_reached`): a store that shadows the
written one either answers the same state or has been written itself.
-/
namespace FeatureToggle

/-! ## What is kept -/

/-- The store as if it had never been read. -/
def Store.uncounted (s : Store) : Store := { s with reads := 0 }

/-- A store that never fails. -/
structure Store.Sound (s : Store) : Prop where
  reads : s.failsReads = false
  writes : s.failsWrites = false

theorem Store.Sound.answer {s : Store} (h : s.Sound) (feature : String) :
    s.answer feature = .ok (s.states.get? feature) := by
  simp [Store.answer, h.reads]

/-- What the stores keep, the counts of their reads apart. -/
def World.kept (w : World) (id : Nat) : Store := (w.stores id).uncounted

theorem World.kept_of_stores {w v : World} (h : v.stores = w.stores) : v.kept = w.kept :=
  funext fun id => congrArg Store.uncounted (congrFun h id)

namespace Repository

/-! ## The first state present -/

theorem firstPresent_eq_or_mem (answers : List (Except Error (Option FeatureState))) :
    firstPresent answers = .ok none ∨ firstPresent answers ∈ answers := by
  induction answers with
  | nil => exact .inl rfl
  | cons a rest ih =>
    match a with
    | .ok none => exact ih.imp id (List.mem_cons_of_mem _)
    | .ok (some s) => exact .inr List.mem_cons_self
    | .error e => exact .inr List.mem_cons_self

/-- If the first state present is `s` or missing, and a change makes nothing but `s` of answers that
are `s` or missing, and does make it of one of them, then the first state present is `s`. -/
theorem firstPresent_of_changed {ι : Type} {before after : ι → Except Error (Option FeatureState)}
    {s : FeatureState} {items : List ι}
    (hchange : ∀ i ∈ items, before i = .ok none ∨ before i = .ok (some s) →
      after i = before i ∨ after i = .ok (some s))
    (hone : ∃ i ∈ items, before i = .ok none ∨ before i = .ok (some s) → after i = .ok (some s))
    (h : firstPresent (items.map before) = .ok none ∨
      firstPresent (items.map before) = .ok (some s)) :
    firstPresent (items.map after) = .ok (some s) := by
  induction items with
  | nil => simp at hone
  | cons i rest ih =>
    have hhead := hchange i List.mem_cons_self
    rw [List.map_cons] at h ⊢
    match hb : before i with
    | .ok none =>
      rw [hb, firstPresent] at h
      rcases hhead (.inl hb) with ha | ha
      · -- the head is still missing, so it is not the answer that became `s`
        rw [ha, hb, firstPresent]
        refine ih (fun j hj => hchange j (List.mem_cons_of_mem _ hj)) ?_ h
        obtain ⟨j, hj, hjs⟩ := hone
        rcases List.mem_cons.1 hj with rfl | hj
        · rw [ha, hb] at hjs
          simp at hjs
        · exact ⟨j, hj, hjs⟩
      · rw [ha, firstPresent]
        simp
    | .ok (some s') =>
      rw [hb, firstPresent] at h
      · have hs : before i = .ok (some s) := by simpa [hb] using h
        rcases hhead (.inr hs) with ha | ha
        · rw [ha, hs, firstPresent]
          simp
        · rw [ha, firstPresent]
          simp
      · simp
    | .error e =>
      rw [hb, firstPresent] at h
      · simp at h
      · simp

end Repository

namespace Tree

open Repository (firstPresent)

mutual

/-- The answer to a read by what is kept, caches left aside. -/
def answer (kept : Nat → Store) (feature : String) : Tree → Except Error (Option FeatureState)
  | store id => (kept id).answer feature
  | cache _ _ inner => inner.answer kept feature
  | composite order _ ts => firstPresent (order.arrange (answerEach kept feature ts))
  | listenable _ inner => inner.answer kept feature
  | journal _ inner => inner.answer kept feature

def answerEach (kept : Nat → Store) (feature : String) :
    List Tree → List (Except Error (Option FeatureState))
  | [] => []
  | t :: ts => t.answer kept feature :: answerEach kept feature ts

end

variable {kept kept' : Nat → Store} {feature : String} {t : Tree}

@[simp] theorem answerEach_eq (ts : List Tree) :
    answerEach kept feature ts = ts.map (answer kept feature) := by
  induction ts with
  | nil => rfl
  | cons t ts ih => simp [answerEach, ih]

theorem answer_composite (order : ReadOrder) (target : WriteTarget) (ts : List Tree) :
    (composite order target ts).answer kept feature =
      firstPresent ((order.arrange ts).map (answer kept feature)) := by
  rw [answer, answerEach_eq, ReadOrder.arrange_map]

/-- Only the stores of a tree count. -/
theorem answer_congr
    (h : ∀ id ∈ t.leaves, (kept' id).answer feature = (kept id).answer feature) :
    t.answer kept' feature = t.answer kept feature := by
  induction t with
  | store id => exact h id (by simp [leaves])
  | cache id ttl inner ih => exact ih h
  | composite order target ts ih =>
    rw [answer_composite, answer_composite]
    congr 1
    refine List.map_congr_left fun t ht => ?_
    have hmem : t ∈ ts := (order.mem_arrange ts t).1 ht
    exact ih t hmem fun id hid => h id (leaves_subset_composite hmem hid)
  | listenable id inner ih => exact ih h
  | journal j inner ih => exact ih h

@[simp] theorem answer_withoutCaches (t : Tree) :
    t.withoutCaches.answer kept feature = t.answer kept feature := by
  induction t with
  | store id => rfl
  | cache id ttl inner ih => exact ih
  | composite order target ts ih =>
    rw [withoutCaches, withoutCachesEach_eq, answer_composite, answer_composite,
      ReadOrder.arrange_map, List.map_map]
    congr 1
    exact List.map_congr_left fun t ht => ih t ((order.mem_arrange ts t).1 ht)
  | listenable id inner ih => exact ih
  | journal j inner ih => exact ih

/-- What holds of every answer of the stores, and of absence, holds of the answer of the tree. -/
theorem answer_of_stores {P : Except Error (Option FeatureState) → Prop} (hnone : P (.ok none))
    (h : ∀ id ∈ t.leaves, P ((kept id).answer feature)) : P (t.answer kept feature) := by
  induction t with
  | store id => exact h id (by simp [leaves])
  | cache id ttl inner ih => exact ih h
  | composite order target ts ih =>
    rw [answer_composite]
    rcases Repository.firstPresent_eq_or_mem ((order.arrange ts).map (answer kept feature)) with
      heq | hmem
    · rw [heq]
      exact hnone
    · obtain ⟨t, ht, heq⟩ := List.mem_map.1 hmem
      rw [← heq]
      have hts : t ∈ ts := (order.mem_arrange ts t).1 ht
      exact ih t hts fun id hid => h id (leaves_subset_composite hts hid)
  | listenable id inner ih => exact ih h
  | journal j inner ih => exact ih h

/-- A state is only answered for the feature that it belongs to. -/
theorem feature_of_answer {s : FeatureState} (h : t.answer kept feature = .ok (some s)) :
    s.feature = feature := by
  have hstore (store : Store) (s : FeatureState) (hs : store.answer feature = .ok (some s)) :
      s.feature = feature := by
    unfold Store.answer at hs
    split at hs
    · simp at hs
    · exact States.feature_of_get? (by simpa using hs)
  have hall : ∀ s, t.answer kept feature = .ok (some s) → s.feature = feature :=
    answer_of_stores (P := fun a => ∀ s, a = .ok (some s) → s.feature = feature) (by simp)
      fun id _ => hstore (kept id)
  exact hall s h

/-- All stores of the tree never fail. -/
def Sound (kept : Nat → Store) (t : Tree) : Prop := ∀ id ∈ t.leaves, (kept id).Sound

theorem Sound.exists_answer (h : t.Sound kept) (feature : String) :
    ∃ state, t.answer kept feature = .ok state :=
  answer_of_stores (P := fun a => ∃ state, a = .ok state) ⟨none, rfl⟩ fun id hid =>
    ⟨_, (h id hid).answer feature⟩

/-! ## Writes that are read back -/

/-- The state has come to all targets of the tree, and to no other store of it. -/
structure Reached (s : FeatureState) (t : Tree) (kept kept' : Nat → Store) : Prop where
  target : ∀ id ∈ t.targets, (kept' id).answer s.feature = .ok (some s)
  other : ∀ id ∈ t.leaves, id ∉ t.targets →
    (kept' id).answer s.feature = (kept id).answer s.feature

namespace Reached

variable {s : FeatureState} {order : ReadOrder} {target : WriteTarget} {ts : List Tree}

theorem of_chosen (h : Reached s (composite order target ts) kept kept')
    (hd : (composite order target ts).Distinct) (ht : t ∈ target.chosen ts) :
    Reached s t kept kept' := by
  have hts := target.mem_of_mem_chosen ht
  refine ⟨fun id hid => h.target id (mem_targets_composite.2 ⟨t, ht, hid⟩), fun id hid hnot => ?_⟩
  refine h.other id (leaves_subset_composite hts hid) fun hmem => ?_
  obtain ⟨u, hu, hidu⟩ := mem_targets_composite.1 hmem
  by_cases hut : t = u
  · exact hnot (hut ▸ hidu)
  · exact (hd.apart hts (target.mem_of_mem_chosen hu) hut).leaves hid
      (targets_subset_leaves u hidu)

/-- A delegate that was not chosen answers as before. -/
theorem answer_of_not_chosen (h : Reached s (composite order target ts) kept kept')
    (hd : (composite order target ts).Distinct) (hts : t ∈ ts) (ht : t ∉ target.chosen ts) :
    t.answer kept' s.feature = t.answer kept s.feature := by
  refine answer_congr fun id hid => h.other id (leaves_subset_composite hts hid) fun hmem => ?_
  obtain ⟨u, hu, hidu⟩ := mem_targets_composite.1 hmem
  have hne : t ≠ u := fun heq => ht (heq ▸ hu)
  exact (hd.apart hts (target.mem_of_mem_chosen hu) hne).leaves hid (targets_subset_leaves u hidu)

end Reached

/-- Every composite has a delegate. -/
inductive Populated : Tree → Prop
  | store (id : Nat) : Populated (.store id)
  | cache (id ttl : Nat) {inner : Tree} : Populated inner → Populated (.cache id ttl inner)
  | composite (order : ReadOrder) (target : WriteTarget) {ts : List Tree} :
      ts ≠ [] → (∀ t ∈ ts, Populated t) → Populated (.composite order target ts)
  | listenable (id : Nat) {inner : Tree} : Populated inner → Populated (.listenable id inner)
  | journal (j : Journal) {inner : Tree} : Populated inner → Populated (.journal j inner)

/-- Absence becomes the written state, and the written state stays: both halves are needed, since
the delegates in front of one that answers are absent and may be written as well. -/
theorem answer_of_reached {s : FeatureState} (hp : t.Populated) (hd : t.Distinct)
    (hr : Reached s t kept kept')
    (h : t.answer kept s.feature = .ok none ∨ t.answer kept s.feature = .ok (some s)) :
    t.answer kept' s.feature = .ok (some s) := by
  induction hp with
  | store id => exact hr.target id (by simp [targets])
  | cache id ttl _ ih => exact ih hd.inner_of_cache ⟨hr.target, hr.other⟩ h
  | @composite order target ts hne _ ih =>
    rw [answer_composite] at h ⊢
    refine Repository.firstPresent_of_changed ?_ ?_ h
    · intro t ht hb
      have hts : t ∈ ts := (order.mem_arrange ts t).1 ht
      by_cases hc : t ∈ target.chosen ts
      · exact .inr (ih t hts (hd.of_mem hts) (hr.of_chosen hd hc) hb)
      · exact .inl (hr.answer_of_not_chosen hd hts hc)
    · obtain ⟨t, ht⟩ := target.exists_mem_chosen hne
      have hts := target.mem_of_mem_chosen ht
      exact ⟨t, (order.mem_arrange ts t).2 hts, ih t hts (hd.of_mem hts) (hr.of_chosen hd ht)⟩
  | listenable id _ ih => exact ih ⟨hd.leaves, hd.caches⟩ ⟨hr.target, hr.other⟩ h
  | journal j _ ih => exact ih ⟨hd.leaves, hd.caches⟩ ⟨hr.target, hr.other⟩ h

/-- The delegate that is read first is among those that are written. -/
def Agree : ReadOrder → WriteTarget → Prop
  | .fifo, .last => False
  | .lifo, .first => False
  | _, _ => True

/-- Every composite has a delegate, and if it has several, it writes the one that it reads first. -/
inductive WriteThrough : Tree → Prop
  | store (id : Nat) : WriteThrough (.store id)
  | cache (id ttl : Nat) {inner : Tree} : WriteThrough inner → WriteThrough (.cache id ttl inner)
  | composite {order : ReadOrder} {target : WriteTarget} {ts : List Tree} :
      ts ≠ [] → (Agree order target ∨ ts.length = 1) → (∀ t ∈ ts, WriteThrough t) →
      WriteThrough (.composite order target ts)
  | listenable (id : Nat) {inner : Tree} : WriteThrough inner → WriteThrough (.listenable id inner)
  | journal (j : Journal) {inner : Tree} : WriteThrough inner → WriteThrough (.journal j inner)

lemma arrange_eq_cons_of_agree {α : Type} {order : ReadOrder} {target : WriteTarget}
    {items : List α} (hne : items ≠ []) (h : Agree order target ∨ items.length = 1) :
    ∃ a rest, order.arrange items = a :: rest ∧ a ∈ target.chosen items := by
  have hlast : items.reverse = items.getLast hne :: items.dropLast.reverse := by
    conv_lhs => rw [← List.dropLast_concat_getLast hne]
    simp
  rcases h with h | h
  · match order, target, h with
    | .fifo, .first, _ =>
      obtain ⟨a, rest, rfl⟩ := List.exists_cons_of_ne_nil hne
      exact ⟨a, rest, rfl, by simp [WriteTarget.chosen_eq]⟩
    | .fifo, .all, _ =>
      obtain ⟨a, rest, rfl⟩ := List.exists_cons_of_ne_nil hne
      exact ⟨a, rest, rfl, by simp [WriteTarget.chosen_eq]⟩
    | .lifo, .last, _ =>
      exact ⟨_, _, hlast, by simp [WriteTarget.chosen_eq, List.drop_length_sub_one hne]⟩
    | .lifo, .all, _ => exact ⟨_, _, hlast, by simp [WriteTarget.chosen_eq]⟩
  · obtain ⟨a, rfl⟩ := List.length_eq_one_iff.1 h
    exact ⟨a, [], by cases order <;> rfl, by simp [WriteTarget.chosen_singleton]⟩

/-- In a tree that writes through, the written state is answered whatever was there. -/
theorem WriteThrough.answer_of_reached {s : FeatureState} (hw : t.WriteThrough) (hd : t.Distinct)
    (hr : Reached s t kept kept') : t.answer kept' s.feature = .ok (some s) := by
  induction hw with
  | store id => exact hr.target id (by simp [targets])
  | cache id ttl _ ih => exact ih hd.inner_of_cache ⟨hr.target, hr.other⟩
  | @composite order target ts hne hagree _ ih =>
    obtain ⟨t, rest, harrange, hc⟩ := arrange_eq_cons_of_agree hne hagree
    have hts := target.mem_of_mem_chosen hc
    have hanswer := ih t hts (hd.of_mem hts) (hr.of_chosen hd hc)
    rw [answer_composite, harrange, List.map_cons, hanswer, firstPresent]
    simp
  | listenable id _ ih => exact ih ⟨hd.leaves, hd.caches⟩ ⟨hr.target, hr.other⟩
  | journal j _ ih => exact ih ⟨hd.leaves, hd.caches⟩ ⟨hr.target, hr.other⟩

end Tree

end FeatureToggle
