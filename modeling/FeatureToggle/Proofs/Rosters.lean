import FeatureToggle.Proofs.Reachability

/-!
# Rosters of listeners

The listeners of a node stand in the order in which they are called: by ascending priority, and
those of one priority in the order of their registration. Whatever requests are made to trees, and
whatever the listeners do when they are called, lists of listeners change only in that further ones
come, each to its place (`Additive.of_tree`).
-/
namespace FeatureToggle

open FeatureToggle.Action Repository

/-! ## The order of calls -/

/-- Whether `r` is called before `r'`. -/
def Registration.Before (r r' : Registration) : Prop :=
  r.priority < r'.priority ∨ r.priority = r'.priority ∧ r.serial < r'.serial

theorem Registration.Before.ne {r r' : Registration} (h : r.Before r') : r ≠ r' := by
  rintro rfl
  rcases h with h | ⟨-, h⟩
  · exact Int.lt_irrefl _ h
  · exact Nat.lt_irrefl _ h

/-- A new registration comes to its place. -/
theorem before_insertRegistration {r : Registration} {rs : List Registration}
    (hrs : rs.Pairwise Registration.Before) (hnew : ∀ x ∈ rs, x.serial < r.serial) :
    (insertRegistration r rs).Pairwise Registration.Before := by
  induction rs with
  | nil => exact List.pairwise_singleton _ _
  | cons s rest ih =>
    obtain ⟨hs, hrest⟩ := List.pairwise_cons.1 hrs
    obtain ⟨hserial, hserials⟩ := List.forall_mem_cons.1 hnew
    rw [insertRegistration]
    split
    · next hlt =>
      refine List.pairwise_cons.2 ⟨List.forall_mem_cons.2 ⟨.inl hlt, fun x hx => .inl ?_⟩, hrs⟩
      have hle : s.priority ≤ x.priority := (hs x hx).elim Int.le_of_lt fun h => Int.le_of_eq h.1
      exact Int.lt_of_lt_of_le hlt hle
    · next hge =>
      refine List.pairwise_cons.2 ⟨fun x hx => ?_, ih hrest hserials⟩
      rcases mem_insertRegistration hx with rfl | hx
      · rcases Int.lt_or_eq_of_le (Int.not_lt.1 hge) with hlt | heq
        · exact .inl hlt
        · exact .inr ⟨heq, hserial⟩
      · exact hs x hx

/-- Further registrations came to the list, with higher numbers than there were. -/
inductive Joined (rs : List Registration) : List Registration → Prop
  | refl : Joined rs rs
  | insert {rs' : List Registration} {r : Registration} : Joined rs rs' →
      (∀ x ∈ rs', x.serial < r.serial) → Joined rs (insertRegistration r rs')

namespace Joined

variable {rs rs' rs'' : List Registration}

theorem trans (h : Joined rs rs') (h' : Joined rs' rs'') : Joined rs rs'' := by
  induction h' with
  | refl => exact h
  | insert _ hnew ih => exact ih.insert hnew

theorem sublist (h : Joined rs rs') : rs.Sublist rs' := by
  induction h with
  | refl => exact List.Sublist.refl _
  | insert _ _ ih => exact ih.trans (sublist_insertRegistration _ _)

theorem pairwise_before (h : Joined rs rs') (hrs : rs.Pairwise Registration.Before) :
    rs'.Pairwise Registration.Before := by
  induction h with
  | refl => exact hrs
  | insert _ hnew ih => exact before_insertRegistration ih hnew

end Joined

theorem mem_insertRegistration_self (r : Registration) (rs : List Registration) :
    r ∈ insertRegistration r rs := by
  induction rs with
  | nil => exact List.mem_singleton_self r
  | cons s rest ih =>
    rw [insertRegistration]
    split
    · exact List.mem_cons_self
    · exact List.mem_cons_of_mem s ih

/-- On the way from one list to the other `r` was registered. -/
def Entered (r : Registration) (rs rs'' : List Registration) : Prop :=
  ∃ rs', Joined rs rs' ∧ (∀ x ∈ rs', x.serial < r.serial) ∧ Joined (insertRegistration r rs') rs''

theorem Entered.not_mem {r : Registration} {rs rs'' : List Registration}
    (h : Entered r rs rs'') : r ∉ rs := by
  obtain ⟨rs', hjoined, hnew, -⟩ := h
  exact fun hr => Nat.lt_irrefl _ (hnew r (hjoined.sublist.subset hr))

theorem Entered.mem {r : Registration} {rs rs'' : List Registration}
    (h : Entered r rs rs'') : r ∈ rs'' := by
  obtain ⟨rs', -, -, hjoined⟩ := h
  exact hjoined.sublist.subset (mem_insertRegistration_self r rs')

/-- In worlds of the kind `I`, which stay so, nothing is done to the list but that others join. -/
def Slot.Grows {σ : Type} (slot : Slot σ (List Registration)) (I : σ → Prop) (w v : σ) : Prop :=
  I w → I v ∧ Joined (slot.get w) (slot.get v)

instance {σ : Type} (slot : Slot σ (List Registration)) (I : σ → Prop) :
    IsPreorder σ (slot.Grows I) where
  refl _ hw := ⟨hw, .refl⟩
  trans _ _ _ huv hvw hu := by
    obtain ⟨hv, hjoined⟩ := huv hu
    obtain ⟨hw, hjoined'⟩ := hvw hv
    exact ⟨hw, hjoined.trans hjoined'⟩

/-- All that a repository and its listeners do to the list is to let others join. -/
structure Additive {σ : Type} (slot : Slot σ (List Registration)) (I : σ → Prop) (call : Caller σ)
    (inner : Repository σ) : Prop where
  call : ∀ r previous current, Keeps (slot.Grows I) (call r previous current)
  read : ∀ feature, Keeps (slot.Grows I) (inner.read feature)
  write : ∀ s, Keeps (slot.Grows I) (inner.write s)

/-! ## Registrations in a world -/

/-- Registrations have the numbers of the listeners that are registered. -/
def World.Numbered (w : World) : Prop := ∀ id, ∀ r ∈ w.listeners id, r.serial < w.registered.length

section World

variable {id : Nat} {w v : World}

theorem grows_of_eq (hlisteners : v.listeners = w.listeners)
    (hregistered : v.registered = w.registered) :
    (World.listenersAt id).Grows World.Numbered w v := by
  intro hw
  refine ⟨?_, ?_⟩
  · rw [World.Numbered, hlisteners, hregistered]
    exact hw
  · have hget : (World.listenersAt id).get v = (World.listenersAt id).get w :=
      congrFun hlisteners id
    rw [hget]
    exact .refl

theorem grows_register (id node : Nat) (l : Listener) (w : World) :
    (World.listenersAt id).Grows World.Numbered w (w.register node l) := by
  intro hw
  have hlength : (w.register node l).registered.length = w.registered.length + 1 :=
    List.length_append
  have hself : (w.register node l).listeners node =
      insertRegistration ⟨w.registered.length, l⟩ (w.listeners node) := World.setAt_self _ _ _
  have hother : ∀ i, i ≠ node → (w.register node l).listeners i = w.listeners i :=
    fun i hi => World.setAt_of_ne _ _ hi
  constructor
  · intro i r hr
    rw [hlength]
    by_cases hi : i = node
    · subst hi
      rw [hself] at hr
      rcases mem_insertRegistration hr with rfl | hr
      · exact Nat.lt_succ_self _
      · exact Nat.lt_succ_of_lt (hw i r hr)
    · rw [hother i hi] at hr
      exact Nat.lt_succ_of_lt (hw i r hr)
  · have hget (u : World) : (World.listenersAt id).get u = u.listeners id := rfl
    rw [hget, hget]
    by_cases hi : id = node
    · subst hi
      rw [hself]
      exact Joined.refl.insert (hw id)
    · rw [hother id hi]
      exact Joined.refl

theorem grows_foldl_register (id node : Nat) (listeners : List Listener) (w : World) :
    (World.listenersAt id).Grows World.Numbered w
      (listeners.foldl (fun w l => w.register node l) w) := by
  induction listeners generalizing w with
  | nil => exact refl_of ((World.listenersAt id).Grows World.Numbered) w
  | cons l rest ih =>
    exact trans_of ((World.listenersAt id).Grows World.Numbered) (grows_register id node l w)
      (ih (w.register node l))

end World

/-! ## Requests to trees -/

/-- What is said of a world before and after holds whenever listeners are registered, and whenever
none are. -/
structure OfRosters (P : World → World → Prop) : Prop where
  aside : ∀ w v : World, v.listeners = w.listeners → v.registered = w.registered → P w v
  register : ∀ (id : Nat) (l : Listener) (w : World), P w (w.register id l)

theorem ofRosters_grows (id : Nat) : OfRosters ((World.listenersAt id).Grows World.Numbered) :=
  ⟨fun _ _ => grows_of_eq, grows_register id⟩

namespace OfRosters

variable {P : World → World → Prop} {call : Caller World}

theorem tree_read (h : OfRosters P) (call : Caller World) (t : Tree) (feature : String) :
    Keeps P ((t.repository call).read feature) := by
  intro w
  have hread := t.readOnly_read call feature w
  exact h.aside _ _ hread.listeners.symm hread.registered.symm

variable [IsPreorder World P]

theorem tree_write (h : OfRosters P)
    (hcall : ∀ r previous current, Keeps P (call r previous current)) (t : Tree)
    (s : FeatureState) : Keeps P ((t.repository call).write s) := by
  induction t with
  | store i =>
    intro w
    rw [Tree.repository, after_store_write]
    exact h.aside _ _ rfl rfl
  | cache i ttl inner ih =>
    intro w
    rw [Tree.repository, after_cached_write]
    refine trans_of P (ih w) ?_
    exact h.aside _ _ rfl rfl
  | composite order target ts ih =>
    rw [Tree.repository, Tree.repositories_eq]
    refine keeps_composite_write order fun d hd => ?_
    obtain ⟨t, ht, rfl⟩ := List.mem_map.1 (target.mem_of_mem_chosen hd)
    exact ih t ht
  | listenable i inner ih =>
    refine keeps_listenable_write (h.tree_read call inner s.feature) ih fun previous w => ?_
    exact keeps_notify (fun r _ => hcall r previous s) w
  | journal j inner ih => exact ih

/-! ## Calls of listeners -/

theorem called (h : OfRosters P) (parts : String → Option Tree) (r : Registration) (w : World) :
    P w (w.called parts r) := by
  obtain ⟨spent, heq | ⟨node, l, -, heq⟩⟩ := w.called_cases parts r
  · rw [heq]
    exact h.aside _ _ rfl rfl
  · rw [heq]
    have haside : P w { w with spent } := h.aside _ _ rfl rfl
    exact trans_of P haside (h.register node l { w with spent })

/-- The induction is on how deep calls can lie in each other. -/
theorem react (h : OfRosters P) (parts : String → Option Tree) (depth : Nat) (r : Registration)
    (previous : Option FeatureState) (current : FeatureState) :
    Keeps P (FeatureToggle.react parts depth r previous current) := by
  induction depth generalizing r previous current with
  | zero =>
    intro w
    rcases after_react_cases r 0 previous current w with heq | ⟨_, _, rest, _, _, hrest, _⟩
    · rw [heq]
      exact h.called parts r w
    · cases hrest
  | succ depth ih =>
    intro w
    rcases after_react_cases r (depth + 1) previous current w with
      heq | ⟨target, feature, rest, t, -, hrest, -, heq⟩
    · rw [heq]
      exact h.called parts r w
    · obtain rfl := Nat.succ.inj hrest
      rw [heq]
      exact h.tree_write ih t (.of feature current.enabled) w

theorem callListener (h : OfRosters P) (parts : String → Option Tree) (r : Registration)
    (previous : Option FeatureState) (current : FeatureState) :
    Keeps P (FeatureToggle.callListener parts r previous current) :=
  fun w => h.react parts w.nesting r previous current w

end OfRosters

/-- Whatever tree stands behind, and whatever the listeners do, lists only grow. -/
theorem Additive.of_tree (id : Nat) (parts : String → Option Tree) (t : Tree) :
    Additive (World.listenersAt id) World.Numbered (callListener parts)
      (t.repository (callListener parts)) where
  call := (ofRosters_grows id).callListener parts
  read := (ofRosters_grows id).tree_read (callListener parts) t
  write := (ofRosters_grows id).tree_write ((ofRosters_grows id).callListener parts) t

end FeatureToggle
