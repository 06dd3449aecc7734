import FeatureToggle.Proofs.Rosters
import Mathlib.Data.List.Induction

/-!
# Registration one by one

Each registration goes to its place in a list that is sorted already. This comes to the same as to
append it and to sort the list again, and the list that is left in the end is what one stable sort
makes of all registrations in the order in which they came (`arranged_listenable`): whether listeners
come with the node or later, and with whatever priorities.
-/
namespace FeatureToggle

/-! ## Stable sorting -/

/-- Whether `r` may stand before `r'`. -/
def Registration.notAfter (r r' : Registration) : Bool := r.priority ≤ r'.priority

/-- The registrations `rs` by ascending priority, those of one priority in the order of `rs`. -/
structure StablySorted (rs roster : List Registration) : Prop where
  perm : roster.Perm rs
  sorted : roster.Pairwise fun r r' => r.priority ≤ r'.priority
  ties : ∀ p, roster.filter (·.priority = p) = rs.filter (·.priority = p)

theorem notAfter_trans (a b c : Registration) (hab : a.notAfter b = true)
    (hbc : b.notAfter c = true) : a.notAfter c = true := by
  simp only [Registration.notAfter, decide_eq_true_eq] at *
  exact Int.le_trans hab hbc

theorem notAfter_total (a b : Registration) : (a.notAfter b || b.notAfter a) = true := by
  simp only [Registration.notAfter, Bool.or_eq_true, decide_eq_true_eq]
  exact Int.le_total _ _

theorem filter_mergeSort (rs : List Registration) (p : Int) :
    (rs.mergeSort Registration.notAfter).filter (·.priority = p) = rs.filter (·.priority = p) := by
  -- Those of one priority are sorted as they stand, so that sorting keeps their order.
  have hequal : (rs.filter (·.priority = p)).Pairwise
      fun r r' => Registration.notAfter r r' = true := by
    refine List.pairwise_of_forall_mem_list fun r hr r' hr' => ?_
    have hp : r.priority = p := by simpa using (List.mem_filter.1 hr).2
    have hp' : r'.priority = p := by simpa using (List.mem_filter.1 hr').2
    simp [Registration.notAfter, hp, hp']
  have hsub : (rs.filter (·.priority = p)).Sublist (rs.mergeSort Registration.notAfter) :=
    List.sublist_mergeSort notAfter_trans notAfter_total hequal List.filter_sublist
  have hsub' : (rs.filter (·.priority = p)).Sublist
      ((rs.mergeSort Registration.notAfter).filter (·.priority = p)) := by
    simpa [List.filter_filter] using hsub.filter (·.priority = p)
  have hperm := (List.mergeSort_perm rs Registration.notAfter).filter (·.priority = p)
  exact (hsub'.eq_of_length hperm.length_eq.symm).symm

theorem stablySorted_mergeSort (rs : List Registration) :
    StablySorted rs (rs.mergeSort Registration.notAfter) where
  perm := List.mergeSort_perm rs _
  sorted := by
    refine (List.pairwise_mergeSort notAfter_trans notAfter_total rs).imp fun h => ?_
    simpa [Registration.notAfter] using h
  ties := filter_mergeSort rs

theorem filter_insertRegistration (r : Registration) {roster : List Registration}
    (h : roster.Pairwise fun r r' => r.priority ≤ r'.priority) (p : Int) :
    (insertRegistration r roster).filter (·.priority = p) =
      roster.filter (·.priority = p) ++ [r].filter (·.priority = p) := by
  induction roster with
  | nil => rfl
  | cons s rest ih =>
    obtain ⟨hs, hrest⟩ := List.pairwise_cons.1 h
    rw [insertRegistration]
    split
    · next hlt =>
      by_cases hp : r.priority = p
      · -- Nobody behind has the priority of the newcomer.
        have hnone : (s :: rest).filter (·.priority = p) = [] := by
          rw [List.filter_eq_nil_iff]
          intro x hx
          have hle : s.priority ≤ x.priority := by
            rcases List.mem_cons.1 hx with rfl | hx
            · exact Int.le_refl _
            · exact hs x hx
          simp only [decide_eq_true_eq]
          omega
        rw [List.filter_cons_of_pos (by simpa using hp), hnone, List.nil_append]
        simp [hp]
      · rw [List.filter_cons_of_neg (by simpa using hp)]
        simp [hp]
    · rw [List.filter_cons, List.filter_cons, ih hrest]
      split
      · rfl
      · rfl

theorem perm_insertRegistration (r : Registration) (roster : List Registration) :
    (insertRegistration r roster).Perm (r :: roster) := by
  induction roster with
  | nil => exact .refl _
  | cons s rest ih =>
    rw [insertRegistration]
    split
    · exact .refl _
    · exact (ih.cons s).trans (.swap r s rest)

theorem sorted_insertRegistration (r : Registration) {roster : List Registration}
    (h : roster.Pairwise fun r r' => r.priority ≤ r'.priority) :
    (insertRegistration r roster).Pairwise fun r r' => r.priority ≤ r'.priority := by
  induction roster with
  | nil => exact List.pairwise_singleton _ _
  | cons s rest ih =>
    obtain ⟨hs, hrest⟩ := List.pairwise_cons.1 h
    rw [insertRegistration]
    split
    · next hlt =>
      refine List.pairwise_cons.2 ⟨List.forall_mem_cons.2 ⟨Int.le_of_lt hlt, fun x hx => ?_⟩, h⟩
      exact Int.le_trans (Int.le_of_lt hlt) (hs x hx)
    · next hge =>
      refine List.pairwise_cons.2 ⟨fun x hx => ?_, ih hrest⟩
      rcases mem_insertRegistration hx with rfl | hx
      · exact Int.not_lt.1 hge
      · exact hs x hx

section Ties

variable {as bs : List Registration}

theorem mem_iff_of_ties (h : ∀ p, as.filter (·.priority = p) = bs.filter (·.priority = p))
    (x : Registration) : x ∈ as ↔ x ∈ bs := by
  have hx := congrArg (x ∈ ·) (h x.priority)
  simpa using hx

/-- Sorted lists in which the same stand for each priority, in the same order, are the same. -/
theorem eq_of_sorted_of_ties (ha : as.Pairwise fun r r' => r.priority ≤ r'.priority)
    (hb : bs.Pairwise fun r r' => r.priority ≤ r'.priority)
    (h : ∀ p, as.filter (·.priority = p) = bs.filter (·.priority = p)) : as = bs := by
  have hmem := mem_iff_of_ties h
  induction as generalizing bs with
  | nil =>
    cases bs with
    | nil => rfl
    | cons b bs => exact absurd ((hmem b).2 List.mem_cons_self) List.not_mem_nil
  | cons a as ih =>
    cases bs with
    | nil => exact absurd ((hmem a).1 List.mem_cons_self) List.not_mem_nil
    | cons b bs =>
      have hle {x y : Registration} {rest : List Registration}
          (hsorted : (x :: rest).Pairwise fun r r' => r.priority ≤ r'.priority)
          (hy : y ∈ x :: rest) : x.priority ≤ y.priority := by
        rcases List.mem_cons.1 hy with rfl | hy
        · exact Int.le_refl _
        · exact (List.pairwise_cons.1 hsorted).1 y hy
      have hsame : a.priority = b.priority :=
        Int.le_antisymm (hle ha ((hmem b).2 List.mem_cons_self))
          (hle hb ((hmem a).1 List.mem_cons_self))
      have hfirst := h a.priority
      rw [List.filter_cons_of_pos (by simp), List.filter_cons_of_pos (by simp [hsame]),
        List.cons.injEq] at hfirst
      obtain ⟨rfl, hrest⟩ := hfirst
      have htail : ∀ p, as.filter (·.priority = p) = bs.filter (·.priority = p) := by
        intro p
        by_cases hp : a.priority = p
        · rw [← hp, hrest]
        · have hfilter := h p
          rwa [List.filter_cons_of_neg (by simpa using hp),
            List.filter_cons_of_neg (by simpa using hp)] at hfilter
      rw [ih (List.pairwise_cons.1 ha).2 (List.pairwise_cons.1 hb).2 htail (mem_iff_of_ties htail)]

end Ties

namespace StablySorted

variable {rs roster roster' : List Registration} {r : Registration}

theorem nil : StablySorted [] [] := ⟨.refl _, .nil, fun _ => rfl⟩

/-- There is only one way. -/
theorem unique (h : StablySorted rs roster) (h' : StablySorted rs roster') : roster = roster' :=
  eq_of_sorted_of_ties h.sorted h'.sorted fun p => (h.ties p).trans (h'.ties p).symm

/-- A further registration goes to its place. -/
theorem insert (h : StablySorted rs roster) (r : Registration) :
    StablySorted (rs ++ [r]) (insertRegistration r roster) where
  perm := by
    have hperm : (insertRegistration r roster).Perm (r :: rs) :=
      (perm_insertRegistration r roster).trans (h.perm.cons r)
    exact hperm.trans (List.perm_append_singleton r rs).symm
  sorted := sorted_insertRegistration r h.sorted
  ties p := by rw [filter_insertRegistration r h.sorted, h.ties, List.filter_append]

/-- Or it is appended, and all are sorted again. -/
theorem sortAgain (h : StablySorted rs roster) (r : Registration) :
    StablySorted (rs ++ [r]) ((roster ++ [r]).mergeSort Registration.notAfter) where
  perm := (List.mergeSort_perm _ _).trans (h.perm.append_right [r])
  sorted := (stablySorted_mergeSort _).sorted
  ties p := by rw [filter_mergeSort, List.filter_append, List.filter_append, h.ties]

/-- In what order the listeners are called, if the registrations have ascending numbers. -/
theorem pairwise_before (h : StablySorted rs roster)
    (hserials : rs.Pairwise fun r r' => r.serial < r'.serial) :
    roster.Pairwise Registration.Before := by
  rw [List.pairwise_iff_forall_sublist]
  intro r r' hsub
  have hle : r.priority ≤ r'.priority := List.pairwise_iff_forall_sublist.1 h.sorted hsub
  rcases Int.lt_or_eq_of_le hle with hlt | heq
  · exact .inl hlt
  · have hfilter := hsub.filter (·.priority = r'.priority)
    have htie : [r, r'].filter (·.priority = r'.priority) = [r, r'] := by simp [heq]
    rw [h.ties, htie] at hfilter
    have hrs : [r, r'].Sublist rs := hfilter.trans List.filter_sublist
    exact .inr ⟨heq, List.pairwise_iff_forall_sublist.1 hserials hrs⟩

end StablySorted

/-- Whatever keeps lists stably sorted when one more comes, does so when all come one by one. -/
theorem stablySorted_foldl {add : List Registration → Registration → List Registration}
    (hadd : ∀ {rs roster}, StablySorted rs roster → ∀ r, StablySorted (rs ++ [r]) (add roster r))
    (rs : List Registration) : StablySorted rs (rs.foldl add []) := by
  induction rs using List.reverseRecOn with
  | nil => exact .nil
  | append_singleton rs r ih =>
    rw [List.foldl_append]
    exact hadd ih r

/-! ## Registrations in a world -/

/-- Registers listeners one after the other, each with the node that is given with it. -/
def World.registerAll (w : World) (history : List (Nat × Listener)) : World :=
  history.foldl (fun w e => w.register e.1 e.2) w

/-- The registrations with a node, if the first of them all has the number `first`. -/
def registrationsAt (id first : Nat) (history : List (Nat × Listener)) : List Registration :=
  ((history.zipIdx first).filter (·.1.1 = id)).map fun e => ⟨e.2, e.1.2⟩

/-- The listeners that are registered with a node. -/
def listenersOf (id : Nat) (history : List (Nat × Listener)) : List Listener :=
  (history.filter (·.1 = id)).map (·.2)

theorem registrationsAt_cons (id first : Nat) (e : Nat × Listener) (history : List (Nat × Listener)) :
    registrationsAt id first (e :: history) =
      if e.1 = id then ⟨first, e.2⟩ :: registrationsAt id (first + 1) history
      else registrationsAt id (first + 1) history := by
  rw [registrationsAt, List.zipIdx_cons, List.filter_cons]
  by_cases he : e.1 = id
  · simp [he, registrationsAt]
  · simp [he, registrationsAt]

theorem map_listener_registrationsAt (id first : Nat) (history : List (Nat × Listener)) :
    (registrationsAt id first history).map (·.listener) = listenersOf id history := by
  induction history generalizing first with
  | nil => rfl
  | cons e history ih =>
    rw [registrationsAt_cons, listenersOf, List.filter_cons]
    by_cases he : e.1 = id
    · simp [he, ih, listenersOf]
    · simp [he, ih, listenersOf]

theorem le_serial_of_mem {id first : Nat} {history : List (Nat × Listener)} {r : Registration}
    (h : r ∈ registrationsAt id first history) : first ≤ r.serial := by
  obtain ⟨e, he, rfl⟩ := List.mem_map.1 h
  exact (List.mem_zipIdx (List.mem_filter.1 he).1).1

theorem serials_registrationsAt (id first : Nat) (history : List (Nat × Listener)) :
    (registrationsAt id first history).Pairwise fun r r' => r.serial < r'.serial := by
  induction history generalizing first with
  | nil => exact .nil
  | cons e history ih =>
    rw [registrationsAt_cons]
    split
    · exact List.pairwise_cons.2 ⟨fun r hr => le_serial_of_mem hr, ih (first + 1)⟩
    · exact ih (first + 1)

theorem listeners_registerAll (w : World) (history : List (Nat × Listener)) (id : Nat) :
    (w.registerAll history).listeners id =
      (registrationsAt id w.registered.length history).foldl
        (fun roster r => insertRegistration r roster) (w.listeners id) := by
  induction history generalizing w with
  | nil => rfl
  | cons e history ih =>
    have hall : w.registerAll (e :: history) = (w.register e.1 e.2).registerAll history := rfl
    have hlength : (w.register e.1 e.2).registered.length = w.registered.length + 1 :=
      List.length_append
    rw [hall, ih, hlength, registrationsAt_cons]
    by_cases he : e.1 = id
    · have hself : (w.register e.1 e.2).listeners id =
          insertRegistration ⟨w.registered.length, e.2⟩ (w.listeners id) := by
        rw [← he]
        exact World.setAt_self _ _ _
      rw [if_pos he, List.foldl_cons, hself]
    · have hother : (w.register e.1 e.2).listeners id = w.listeners id :=
        World.setAt_of_ne _ _ (Ne.symm he)
      rw [if_neg he, hother]

/-! ## What brings registrations -/

/-- The rosters of `v` are those of `w` after the registrations in `history`. -/
structure World.Gains (w : World) (history : List (Nat × Listener)) (v : World) : Prop where
  listeners : v.listeners = (w.registerAll history).listeners
  registered : v.registered = (w.registerAll history).registered

namespace World

variable {w v u : World} {history more : List (Nat × Listener)}

/-- Nothing but the rosters matters for what registrations make of them. -/
theorem Gains.registerAll (h : w.Gains history v) (more : List (Nat × Listener)) :
    w.Gains (history ++ more) (v.registerAll more) := by
  induction more generalizing history v with
  | nil => rwa [List.append_nil]
  | cons e more ih =>
    have hall : w.registerAll (history ++ [e]) = (w.registerAll history).register e.1 e.2 :=
      List.foldl_append
    have hstep : w.Gains (history ++ [e]) (v.register e.1 e.2) := by
      refine ⟨?_, ?_⟩
      · rw [hall, World.register, World.register, h.listeners, h.registered]
      · rw [hall, World.register, World.register, h.registered]
    rw [List.append_cons]
    exact ih hstep

theorem Gains.trans (h : w.Gains history v) (h' : v.Gains more u) : w.Gains (history ++ more) u :=
  ⟨h'.listeners.trans (h.registerAll more).listeners,
    h'.registered.trans (h.registerAll more).registered⟩

end World

/-! ## Nodes that are built -/

theorem bind_eq_ok_iff {ε α β : Type} {x : Except ε α} {f : α → Except ε β} {b : β} :
    x >>= f = .ok b ↔ ∃ a, x = .ok a ∧ f a = .ok b := by
  cases x with
  | error e =>
    constructor
    · intro h
      cases h
    · rintro ⟨a, ha, -⟩
      cases ha
  | ok a =>
    constructor
    · exact fun h => ⟨a, rfl, h⟩
    · rintro ⟨a, ⟨⟩, h⟩
      exact h

/-- No listeners are registered with the nodes that are still to be numbered. -/
def Workshop.Fresh (w : Workshop) : Prop := ∀ id, w.next ≤ id → w.world.listeners id = []

theorem Workshop.fresh_empty : Workshop.empty.Fresh := fun _ _ => rfl

theorem Workshop.Fresh.name {w : Workshop} (h : w.Fresh) (name : String) (t : Tree) :
    (w.name name t).Fresh := h

/-- A node is numbered, and nobody else gets listeners. -/
theorem Workshop.Fresh.of_next {w w' : Workshop} (h : w.Fresh) (hnext : w'.next = w.next + 1)
    (hlisteners : ∀ id, id ≠ w.next → w'.world.listeners id = w.world.listeners id) : w'.Fresh := by
  intro id hid
  rw [hnext] at hid
  rw [hlisteners id (by omega), h id (by omega)]

theorem listeners_foldl_register {node id : Nat} (hid : id ≠ node) (listeners : List Listener)
    (w : World) : (listeners.foldl (fun w l => w.register node l) w).listeners id =
      w.listeners id := by
  induction listeners generalizing w with
  | nil => rfl
  | cons l listeners ih =>
    rw [List.foldl_cons, ih]
    exact World.setAt_of_ne _ _ hid

theorem build_listenable_eq_ok {name : String} {listeners : List Listener} {inner : Blueprint}
    {w w' : Workshop} {t : Tree}
    (h : (Blueprint.listenable name listeners inner).build w = .ok (t, w')) :
    ∃ behind w₁, inner.build w = .ok (behind, w₁) ∧ t = .listenable w₁.next behind ∧
      w'.next = w₁.next + 1 ∧
      w'.world = listeners.foldl (fun world l => world.register w₁.next l) w₁.world := by
  rw [Blueprint.build, bind_eq_ok_iff] at h
  obtain ⟨⟨behind, w₁⟩, hinner, h⟩ := h
  cases h
  exact ⟨behind, w₁, hinner, rfl, rfl, rfl⟩

mutual

/-- Building a part registers listeners with nodes of its own. -/
theorem fresh_build {w w' : Workshop} {t : Tree} (hw : w.Fresh) :
    (b : Blueprint) → b.build w = .ok (t, w') → w'.Fresh
  | .store name states failsReads failsWrites, h => by
    cases h
    exact hw.of_next rfl fun _ _ => rfl
  | .cache name expiry inner, h => by
    rw [Blueprint.build, bind_eq_ok_iff] at h
    obtain ⟨⟨behind, w₁⟩, hinner, h⟩ := h
    obtain ⟨ttl, -, h⟩ := bind_eq_ok_iff.1 h
    cases h
    exact (fresh_build hw inner hinner).of_next rfl fun _ _ => rfl
  | .composite name order target delegates, h => by
    rw [Blueprint.build, bind_eq_ok_iff] at h
    obtain ⟨⟨ts, w₁⟩, hdelegates, h⟩ := h
    simp only at h
    split at h
    · cases h
    · cases h
      exact (fresh_buildAll hw delegates hdelegates).name name _
  | .listenable name listeners inner, h => by
    obtain ⟨behind, w₁, hinner, -, hnext, hworld⟩ := build_listenable_eq_ok h
    refine (fresh_build hw inner hinner).of_next hnext fun id hid => ?_
    rw [hworld, listeners_foldl_register hid]
  | .journal name j inner, h => by
    rw [Blueprint.build, bind_eq_ok_iff] at h
    obtain ⟨⟨behind, w₁⟩, hinner, h⟩ := h
    cases h
    exact (fresh_build hw inner hinner).name name _
  | .named name inner, h => by
    rw [Blueprint.build, bind_eq_ok_iff] at h
    obtain ⟨⟨behind, w₁⟩, hinner, h⟩ := h
    cases h
    exact (fresh_build hw inner hinner).name name _
  | .shared name, h => by
    rw [Blueprint.build] at h
    split at h
    · cases h
      exact hw
    · cases h
      exact hw.of_next rfl fun _ _ => rfl

theorem fresh_buildAll {w w' : Workshop} {ts : List Tree} (hw : w.Fresh) :
    (bs : List Blueprint) → Blueprint.buildAll w bs = .ok (ts, w') → w'.Fresh
  | [], h => by
    cases h
    exact hw
  | b :: bs, h => by
    rw [Blueprint.buildAll, bind_eq_ok_iff] at h
    obtain ⟨⟨t, w₁⟩, hfirst, h⟩ := h
    obtain ⟨⟨rest, w₂⟩, hrest, h⟩ := bind_eq_ok_iff.1 h
    cases h
    exact fresh_buildAll (fresh_build hw b hfirst) bs hrest

end

/-- What the list of a node is after the registrations `rs`, in this order. -/
structure Arranged (rs roster : List Registration) : Prop where
  /-- Nobody is lost, and nobody is there twice. -/
  perm : roster.Perm rs
  nodup : roster.Nodup
  /-- By ascending priority, and for one priority in the order of registration. -/
  ordered : roster.Pairwise Registration.Before
  ties : ∀ p, roster.filter (·.priority = p) = rs.filter (·.priority = p)
  sorted : roster = rs.mergeSort Registration.notAfter
  /-- The same as if the list was sorted again after each registration. -/
  sortedAgain : roster = rs.foldl
    (fun roster r => (roster ++ [r]).mergeSort Registration.notAfter) []

theorem StablySorted.arranged {rs roster : List Registration} (h : StablySorted rs roster)
    (hserials : rs.Pairwise fun r r' => r.serial < r'.serial) : Arranged rs roster where
  perm := h.perm
  nodup := (h.pairwise_before hserials).imp fun hbefore => hbefore.ne
  ordered := h.pairwise_before hserials
  ties := h.ties
  sorted := h.unique (stablySorted_mergeSort rs)
  sortedAgain := h.unique (stablySorted_foldl StablySorted.sortAgain rs)

theorem World.registerAll_map (w : World) (id : Nat) (listeners : List Listener) :
    w.registerAll (listeners.map fun l => (id, l)) =
      listeners.foldl (fun w l => w.register id l) w :=
  List.foldl_map

theorem listenersOf_append (id : Nat) (history more : List (Nat × Listener)) :
    listenersOf id (history ++ more) = listenersOf id history ++ listenersOf id more := by
  rw [listenersOf, List.filter_append, List.map_append, listenersOf, listenersOf]

theorem listenersOf_map (id : Nat) (listeners : List Listener) :
    listenersOf id (listeners.map fun l => (id, l)) = listeners := by
  induction listeners with
  | nil => rfl
  | cons l listeners ih => simpa [listenersOf] using ih

/-- A node that is built with some listeners, and whatever is registered later, with this node or with
others: the list of the node is what one stable sort makes of its registrations. -/
theorem arranged_listenable {name : String} {initial : List Listener} {inner : Blueprint}
    {w w' : Workshop} {t : Tree} (hw : w.Fresh)
    (hbuild : (Blueprint.listenable name initial inner).build w = .ok (t, w'))
    {later : List (Nat × Listener)} {a : Assembly} (ha : w'.world.Gains later a.world) :
    ∃ id behind rs, t = .listenable id behind ∧
      rs.map (·.listener) = initial ++ listenersOf id later ∧
      rs.Pairwise (fun r r' => r.serial < r'.serial) ∧ Arranged rs (a.world.listeners id) ∧
      a.listenerCount id = initial.length + (listenersOf id later).length := by
  obtain ⟨behind, w₁, hinner, ht, -, hworld⟩ := build_listenable_eq_ok hbuild
  let id := w₁.next
  let history := initial.map (fun l => (id, l)) ++ later
  let rs := registrationsAt id w₁.world.registered.length history
  have hgains : w₁.world.Gains history a.world := by
    have hinitial : w₁.world.Gains (initial.map fun l => (id, l)) w'.world := by
      rw [hworld, ← World.registerAll_map]
      exact ⟨rfl, rfl⟩
    exact hinitial.trans ha
  have hempty : w₁.world.listeners id = [] := fresh_build hw inner hinner id (Nat.le_refl _)
  have hroster : a.world.listeners id = rs.foldl (fun roster r => insertRegistration r roster) [] := by
    rw [hgains.listeners, listeners_registerAll, hempty]
  have hlisteners : rs.map (·.listener) = initial ++ listenersOf id later := by
    rw [map_listener_registrationsAt, listenersOf_append, listenersOf_map]
  have hserials := serials_registrationsAt id w₁.world.registered.length history
  have hsorted : StablySorted rs (a.world.listeners id) := by
    rw [hroster]
    exact stablySorted_foldl StablySorted.insert rs
  refine ⟨id, behind, rs, ht, hlisteners, hserials, hsorted.arranged hserials, ?_⟩
  rw [Assembly.listenerCount, hsorted.perm.length_eq, ← List.length_append, ← hlisteners,
    List.length_map]

/-- A node with three listeners in front of a store. -/
def attended : Blueprint :=
  .listenable "root" [⟨"last", 2147483647, true, .nothing⟩, ⟨"first", 0, true, .nothing⟩,
    ⟨"second", 0, true, .fail⟩] (.store "a" [] false false)

/-- The workshop in which it was built. -/
def attendedWorkshop : Workshop :=
  match attended.build .empty with
  | .ok (_, w) => w
  | .error _ => .empty

/-- Some come later, among them one with the lowest of all priorities of 32 bits, one to another
node, and one for whom there is a tie with two others. -/
theorem arranged_listenable_attended :
    let later : List (Nat × Listener) := [(1, ⟨"early", -2147483648, true, .nothing⟩),
      (7, ⟨"elsewhere", 0, true, .nothing⟩), (1, ⟨"third", 0, true, .panic⟩)]
    let a : Assembly :=
      ⟨[], .listenable 1 (.store 0), attendedWorkshop.world.registerAll later⟩
    Workshop.empty.Fresh ∧
      attended.build .empty = .ok (.listenable 1 (.store 0), attendedWorkshop) ∧
      attendedWorkshop.world.Gains later a.world ∧
      (∃ rs, rs.map (·.listener.name) = ["last", "first", "second", "early", "third"] ∧
        Arranged rs (a.world.listeners 1)) ∧
      (a.world.listeners 1).map (·.listener.name) =
        ["early", "first", "second", "third", "last"] ∧
      a.listenerCount 1 = 5 := by
  intro later a
  have hbuild : attended.build .empty = .ok (.listenable 1 (.store 0), attendedWorkshop) := rfl
  have ha : attendedWorkshop.world.Gains later a.world := ⟨rfl, rfl⟩
  obtain ⟨id, behind, rs, ht, hlisteners, -, harranged, hcount⟩ :=
    arranged_listenable Workshop.fresh_empty hbuild ha
  obtain ⟨rfl, rfl⟩ : 1 = id ∧ .store 0 = behind := by simpa using ht
  have hnames : rs.map (·.listener.name) = (rs.map (·.listener)).map (·.name) := by simp
  refine ⟨Workshop.fresh_empty, hbuild, ha, ⟨rs, ?_, harranged⟩, ?_, hcount⟩
  · rw [hnames, hlisteners]
    decide
  · decide +kernel

end FeatureToggle
