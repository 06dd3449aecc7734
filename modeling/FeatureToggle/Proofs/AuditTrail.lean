import FeatureToggle.Proofs.Contract
import FeatureToggle.Proofs.Listeners

/-!
# Audit trails

What a listener is told of a feature is a record of its changes without gaps: it begins with the
state that was stored when the listener came, each entry goes on from where the one before ended,
and the last one ends with what is stored now (`Audited.heard_run`). The repository behind may fail
at any time, and other listeners may fail, panic and bring in further ones.
-/
namespace FeatureToggle

open FeatureToggle.Action Repository

/-! ## What is heard -/

/-- The listener that is told of a change, if the event tells of one. -/
def Event.listener : Event → Option String
  | .notified listener _ _ => some listener
  | _ => none

/-- The change of a feature that the event tells a listener, with the states before and after. -/
def Event.tells (name feature : String) : Event → Option (Option FeatureState × FeatureState)
  | .notified listener previous current =>
    if listener = name ∧ current.feature = feature then some (previous, current) else none
  | _ => none

/-- What a listener is told of a feature. -/
def heard (name feature : String) (events : List Event) :
    List (Option FeatureState × FeatureState) :=
  events.filterMap (·.tells name feature)

/-- The record of changes to the given states, of which the first one replaces `previous` and every
other one the state before it. -/
def trail (previous : Option FeatureState) :
    List FeatureState → List (Option FeatureState × FeatureState)
  | [] => []
  | s :: rest => (previous, s) :: trail (some s) rest

theorem heard_append (name feature : String) (events rest : List Event) :
    heard name feature (events ++ rest) = heard name feature events ++ heard name feature rest :=
  List.filterMap_append

theorem heard_notified (name feature listener : String) (previous : Option FeatureState)
    (current : FeatureState) :
    heard name feature [.notified listener previous current] =
      if listener = name ∧ current.feature = feature then [(previous, current)] else [] := by
  by_cases h : listener = name ∧ current.feature = feature
  · simp [heard, Event.tells, h]
  · rw [if_neg h]
    simp only [heard, List.filterMap_cons, Event.tells, if_neg h, List.filterMap_nil]

theorem heard_of_ne {name : String} {events : List Event}
    (h : ∀ e ∈ events, e.listener ≠ some name) (feature : String) :
    heard name feature events = [] := by
  refine List.filterMap_eq_nil_iff.2 fun e he => ?_
  cases e with
  | notified listener previous current =>
    have hne : listener ≠ name := fun heq => h _ he (congrArg some heq)
    exact if_neg fun hboth => hne hboth.1
  | _ => rfl

theorem listener_of_mem_logOutcome {σ : Type} {r : Registration} {feature : String} {o : Outcome}
    {w : σ} {e : Event} (he : e ∈ (logOutcome r feature o : Action σ Unit).events w) :
    e.listener = none := by
  cases o with
  | done => cases he
  | failed reason =>
    obtain rfl := List.mem_singleton.1 he
    rfl
  | panicked =>
    obtain rfl := List.mem_singleton.1 he
    rfl

/-! ## Audited repositories -/

/-- A repository whose changes are told, with the way in which listeners come. -/
structure Audited (σ : Type) where
  slot : Slot σ (List Registration)
  call : Caller σ
  inner : Repository σ
  enrol : Listener → σ → σ

namespace Audited

variable {σ : Type} (a : Audited σ)

def repository : Repository σ := .listenable a.slot a.call a.inner

inductive Step where
  | write (state : FeatureState)
  | read (feature : String)
  | register (listener : Listener)

/-- A step, as an action that gives no result. -/
def step : Step → Action σ Unit
  | .write s => (fun _ => ()) <$> a.repository.write s
  | .read feature => (fun _ => ()) <$> a.repository.read feature
  | .register listener => Action.modify (a.enrol listener)

def run : List Step → Action σ Unit
  | [] => return ()
  | s :: rest => do
    a.step s
    run rest

/-- The state that a step brings to the feature, if it brings one. -/
def change (feature : String) (w : σ) : Step → Option FeatureState
  | .write s =>
    match (a.repository.write s).result w with
    | .ok () => if s.feature = feature then some s else none
    | .error _ => none
  | _ => none

/-- The states that were written to the feature with success, in the order of the run. -/
def changes (feature : String) (w : σ) : List Step → List FeatureState
  | [] => []
  | s :: rest => (a.change feature w s).toList ++ changes feature ((a.step s).after w) rest

/-- The registrations under a name. -/
def named (name : String) (w : σ) : List Registration :=
  (a.slot.get w).filter (·.listener.name = name)

/-- Every registered listener is of a kind. -/
def Heeds (kind : Listener → Prop) (w : σ) : Prop := ∀ r ∈ a.slot.get w, kind r.listener

theorem run_append (steps rest : List Step) :
    a.run (steps ++ rest) = a.run steps >>= fun _ => a.run rest := by
  induction steps with
  | nil => rfl
  | cons s steps ih => rw [List.cons_append, run, run, ih, bind_assoc]

/-! ## What an audit relies on -/

/-- An action that leaves the registrations alone and tells the listener of the name nothing. -/
structure Aloof {α : Type} (name : String) (x : Action σ α) : Prop where
  slot : ∀ w, a.slot.get (x.after w) = a.slot.get w
  events : ∀ w, ∀ e ∈ x.events w, e.listener ≠ some name

/-- Nothing that is stored changes. Listeners of the kind may come, but none goes. -/
structure Stays (stored : σ → String → Option FeatureState) (kind : Listener → Prop) (w v : σ) :
    Prop where
  stored : stored v = stored w
  slot : (a.slot.get w).Sublist (a.slot.get v)
  heeds : a.Heeds kind w → a.Heeds kind v

instance (stored : σ → String → Option FeatureState) (kind : Listener → Prop) :
    IsPreorder σ (a.Stays stored kind) where
  refl _ := ⟨rfl, List.Sublist.refl _, id⟩
  trans _ _ _ huv hvw :=
    ⟨hvw.stored.trans huv.stored, huv.slot.trans hvw.slot, hvw.heeds ∘ huv.heeds⟩

/-- The repository behind keeps its contract and knows nothing of these listeners, and listeners of
the kind do not write. The listener of the given name is told of changes from nowhere else. -/
structure Lawful (stored : σ → String → Option FeatureState) (kind : Listener → Prop)
    (name : String) : Prop where
  faithful : a.inner.Faithful stored
  read : ∀ feature, a.Aloof name (a.inner.read feature)
  write : ∀ s, a.Aloof name (a.inner.write s)
  enrol_slot : ∀ listener w, ∃ serial,
    a.slot.get (a.enrol listener w) = insertRegistration ⟨serial, listener⟩ (a.slot.get w)
  enrol_stored : ∀ listener w, stored (a.enrol listener w) = stored w
  call : ∀ r previous current, kind r.listener →
    Keeps (a.Stays stored kind) (a.call r previous current)
  call_events : ∀ r previous current w, kind r.listener →
    ∀ e ∈ (a.call r previous current).events w, e.listener ≠ some name

variable {a} {stored : σ → String → Option FeatureState} {kind : Listener → Prop}
  {name feature : String} {w : σ}

theorem Stays.of_slot_eq {v : σ} (hstored : stored v = stored w)
    (hslot : a.slot.get v = a.slot.get w) : a.Stays stored kind w v := by
  refine ⟨hstored, ?_, fun hw => ?_⟩
  · rw [hslot]
  · rw [Heeds, hslot]
    exact hw

theorem Stays.of_inserted {v : σ} (hstored : stored v = stored w) {r : Registration}
    (hr : kind r.listener) (hslot : a.slot.get v = insertRegistration r (a.slot.get w)) :
    a.Stays stored kind w v := by
  refine ⟨hstored, ?_, fun hw x hx => ?_⟩
  · rw [hslot]
    exact sublist_insertRegistration r _
  · rw [hslot] at hx
    rcases mem_insertRegistration hx with rfl | hx
    · exact hr
    · exact hw x hx

/-- Each listener of the name that is on the list is told once. -/
theorem heard_notify (h : a.Lawful stored kind name) {rs : List Registration}
    (hrs : ∀ r ∈ rs, kind r.listener) (feature : String) (previous : Option FeatureState)
    (s : FeatureState) (w : σ) :
    heard name feature ((notify a.call previous s rs).events w) =
      if s.feature = feature then
        (rs.filter (·.listener.name = name)).map fun _ => (previous, s)
      else [] := by
  induction rs generalizing w with
  | nil => exact (ite_self _).symm
  | cons r rest ih =>
    obtain ⟨hr, hrest⟩ := List.forall_mem_cons.1 hrs
    let v := (a.call r previous s).after w
    let o := (a.call r previous s).result w
    have hevents : (notify a.call previous s (r :: rest)).events w =
        [.notified r.listener.name previous s] ++ ((a.call r previous s).events w ++
          ((logOutcome r s.feature o).events v ++ (notify a.call previous s rest).events
            ((logOutcome r s.feature o).after v))) := rfl
    have hlog : ∀ e ∈ (logOutcome r s.feature o).events v, e.listener ≠ some name := by
      intro e he
      rw [listener_of_mem_logOutcome he]
      exact (Option.some_ne_none name).symm
    rw [hevents, heard_append, heard_append, heard_append, heard_notified, ih hrest,
      heard_of_ne (h.call_events r previous s w hr), heard_of_ne hlog, List.nil_append,
      List.nil_append, List.filter_cons]
    by_cases hf : s.feature = feature
    · by_cases hn : r.listener.name = name
      · simp [hf, hn]
      · simp [hf, hn]
    · simp [hf]

/-- Telling listeners of the kind changes nothing that is stored. -/
theorem stays_notify (h : a.Lawful stored kind name) {rs : List Registration}
    (hrs : ∀ r ∈ rs, kind r.listener) (previous : Option FeatureState) (s : FeatureState) :
    Keeps (a.Stays stored kind) (notify a.call previous s rs) :=
  keeps_notify fun r hr => h.call r previous s (hrs r hr)

/-! ## Single steps -/

/-- The action brings a state to the feature, or none, and whoever has the name is told of it. -/
structure Brings {α : Type} (a : Audited σ) (stored : σ → String → Option FeatureState)
    (kind : Listener → Prop) (name feature : String) (x : Action σ α) (w : σ)
    (change : Option FeatureState) : Prop where
  brought : stored (x.after w) feature = change.or (stored w feature)
  slot : (a.slot.get w).Sublist (a.slot.get (x.after w))
  heeds : a.Heeds kind (x.after w)
  told : heard name feature (x.events w) =
    change.toList.flatMap fun s => (a.named name w).map fun _ => (stored w feature, s)

theorem Brings.none {α : Type} {x : Action σ α} (hstays : a.Stays stored kind w (x.after w))
    (hw : a.Heeds kind w) (hevents : ∀ e ∈ x.events w, e.listener ≠ some name) :
    a.Brings stored kind name feature x w none where
  brought := congrFun hstays.stored feature
  slot := hstays.slot
  heeds := hstays.heeds hw
  told := heard_of_ne hevents feature

/-- A write that succeeds brings its state. The listeners that are told are those from before the
write, and what they are told as the previous state is what was stored. -/
theorem brings_write_of_ok (h : a.Lawful stored kind name) (hw : a.Heeds kind w) (feature : String)
    {s : FeatureState} {previous : Option FeatureState}
    (hr : (a.inner.read s.feature).result w = .ok previous)
    (hwrite : (a.inner.write s).result ((a.inner.read s.feature).after w) = .ok ()) :
    a.Brings stored kind name feature (a.repository.write s) w
      (a.change feature w (.write s)) := by
  let u := (a.inner.read s.feature).after w
  let v := (a.inner.write s).after u
  have hslot : a.slot.get v = a.slot.get w :=
    ((h.write s).slot u).trans ((h.read s.feature).slot w)
  have hkind : ∀ r ∈ a.slot.get v, kind r.listener := hslot ▸ hw
  have hstays := stays_notify h hkind previous s v
  have hrun : (a.repository.write s).run w = _ := run_listenable_write_of_ok hr hwrite
  have hchange : a.change feature w (.write s) = if s.feature = feature then some s else none := by
    rw [change, Action.result, hrun]
  rw [hchange]
  constructor
  · have hstored := h.faithful.stored_write s u hwrite feature
    rw [h.faithful.stored_read] at hstored
    rw [Action.after, hrun]
    refine (congrFun hstays.stored feature).trans (hstored.trans ?_)
    split
    · rfl
    · rfl
  · rw [Action.after, hrun, ← hslot]
    exact hstays.slot
  · rw [Action.after, hrun]
    exact hstays.heeds hkind
  · have hquiet : ∀ e ∈ (a.inner.read s.feature).events w ++ (a.inner.write s).events u,
        e.listener ≠ some name :=
      List.forall_mem_append.2 ⟨(h.read s.feature).events w, (h.write s).events u⟩
    have hnamed : a.named name v = a.named name w := congrArg (List.filter _) hslot
    have hevents : (a.repository.write s).events w =
        ((a.inner.read s.feature).events w ++ (a.inner.write s).events u) ++
          (notify a.call previous s (a.slot.get v)).events v :=
      (congrArg Traced.events hrun).trans (List.append_assoc _ _ _).symm
    rw [hevents, heard_append, heard_of_ne hquiet, List.nil_append, heard_notify h hkind,
      h.faithful.eq_stored _ w _ hr, ← named, hnamed]
    by_cases hf : s.feature = feature
    · rw [if_pos hf, if_pos hf, hf]
      exact (List.flatMap_singleton _ _).symm
    · rw [if_neg hf, if_neg hf]
      rfl

/-- A write brings its state if it succeeds, and nothing if it fails. -/
theorem brings_write (h : a.Lawful stored kind name) (hw : a.Heeds kind w) (feature : String)
    (s : FeatureState) :
    a.Brings stored kind name feature (a.repository.write s) w
      (a.change feature w (.write s)) := by
  let u := (a.inner.read s.feature).after w
  have hread : a.Stays stored kind w u :=
    .of_slot_eq (h.faithful.stored_read _ w) ((h.read s.feature).slot w)
  cases hr : (a.inner.read s.feature).result w with
  | error e =>
    have hrun : (a.repository.write s).run w = _ := run_listenable_write_of_read_error hr
    rw [change, Action.result, hrun]
    refine .none ?_ hw ?_
    · rw [Action.after, hrun]
      exact hread
    · rw [Action.events, hrun]
      exact (h.read s.feature).events w
  | ok previous =>
    cases hwrite : (a.inner.write s).result u with
    | error e =>
      have hrun : (a.repository.write s).run w = _ := run_listenable_write_of_write_error hr hwrite
      have hfailed : a.Stays stored kind u ((a.inner.write s).after u) :=
        .of_slot_eq (h.faithful.stored_failed s u e hwrite) ((h.write s).slot u)
      rw [change, Action.result, hrun]
      refine .none ?_ hw ?_
      · rw [Action.after, hrun]
        exact trans_of (a.Stays stored kind) hread hfailed
      · rw [Action.events, hrun]
        exact List.forall_mem_append.2 ⟨(h.read s.feature).events w, (h.write s).events u⟩
    | ok _ => exact brings_write_of_ok h hw feature hr hwrite

theorem brings_step (h : a.Lawful stored kind name) (hw : a.Heeds kind w) (feature : String)
    {s : Step} (hs : ∀ listener, s = .register listener → kind listener) :
    a.Brings stored kind name feature (a.step s) w (a.change feature w s) := by
  cases s with
  | write s =>
    have hwrite := brings_write h hw feature s
    refine ⟨hwrite.brought, hwrite.slot, hwrite.heeds, ?_⟩
    rw [step, Action.events_map]
    exact hwrite.told
  | read other =>
    refine .none (.of_slot_eq (h.faithful.stored_read other w) ((h.read other).slot w)) hw ?_
    rw [step, Action.events_map]
    exact (h.read other).events w
  | register listener =>
    obtain ⟨serial, hslot⟩ := h.enrol_slot listener w
    refine .none (.of_inserted (h.enrol_stored listener w) ?_ hslot) hw ?_
    · exact hs listener rfl
    · exact fun e he => absurd he List.not_mem_nil

/-! ## Runs -/

theorem grows_run (h : a.Lawful stored kind name) (hw : a.Heeds kind w) {steps : List Step}
    (hkind : ∀ listener, .register listener ∈ steps → kind listener) :
    (a.slot.get w).Sublist (a.slot.get ((a.run steps).after w)) ∧
      a.Heeds kind ((a.run steps).after w) := by
  induction steps generalizing w with
  | nil => exact ⟨List.Sublist.refl _, hw⟩
  | cons s rest ih =>
    have hstep := brings_step h hw "" (s := s) fun listener hs => hkind listener (by simp [hs])
    have hrest := ih hstep.heeds fun listener hl => hkind listener (List.mem_cons_of_mem _ hl)
    exact ⟨hstep.slot.trans hrest.1, hrest.2⟩

/-- While the same are registered under the name, each of them hears of every change. -/
theorem heard_run_of_named (h : a.Lawful stored kind name) (hw : a.Heeds kind w)
    {steps : List Step} (hkind : ∀ listener, .register listener ∈ steps → kind listener)
    {rs : List Registration} (hstart : a.named name w = rs)
    (hend : a.named name ((a.run steps).after w) = rs) (feature : String) :
    heard name feature ((a.run steps).events w) =
        (trail (stored w feature) (a.changes feature w steps)).flatMap
          (fun c => rs.map fun _ => c) ∧
      stored ((a.run steps).after w) feature =
        (a.changes feature w steps).getLast?.or (stored w feature) := by
  induction steps generalizing w with
  | nil => exact ⟨rfl, rfl⟩
  | cons s rest ih =>
    have hstep := brings_step h hw feature (s := s) fun listener hs => hkind listener (by simp [hs])
    have hrestKind : ∀ listener, Step.register listener ∈ rest → kind listener :=
      fun listener hl => hkind listener (List.mem_cons_of_mem _ hl)
    let v := (a.step s).after w
    have hmid : a.named name v = rs := by
      have hlater := (grows_run h hstep.heeds hrestKind).1
      have hup : (a.named name v).Sublist rs := hend ▸ hlater.filter _
      have hdown : rs.Sublist (a.named name v) := hstart ▸ hstep.slot.filter _
      exact hup.antisymm hdown
    obtain ⟨htold, hstored⟩ := ih hstep.heeds hrestKind hmid hend
    have hevents : (a.run (s :: rest)).events w =
        (a.step s).events w ++ (a.run rest).events v := rfl
    have hchanges : a.changes feature w (s :: rest) =
        (a.change feature w s).toList ++ a.changes feature v rest := rfl
    have hfirst := hstep.told
    have hbrought := hstep.brought
    rw [hstart] at hfirst
    rw [hbrought] at htold hstored
    rw [hevents, heard_append, hfirst, htold, hchanges]
    refine ⟨?_, hstored.trans ?_⟩
    · cases a.change feature w s with
      | none => rfl
      | some state =>
        rw [Option.toList_some, List.flatMap_singleton, List.singleton_append, trail,
          List.flatMap_cons]
        rfl
    · rw [List.getLast?_append, Option.or_assoc]
      cases a.change feature w s with
      | none => rfl
      | some state => rfl

/-- What a listener hears of a feature is a record without gaps of what was written to it since the
listener came: it begins with what was stored then and ends with what is stored now. It does not
matter in which step the listener came, by itself or because another one brought it in, as long as
it is the only one of its name. -/
theorem heard_run (h : a.Lawful stored kind name) (hw : a.Heeds kind w) {earlier later : List Step}
    {s : Step} (hkind : ∀ listener, .register listener ∈ earlier ++ s :: later → kind listener)
    {r : Registration} (hbefore : a.named name ((a.run earlier).after w) = [])
    (hcome : a.named name ((a.run (earlier ++ [s])).after w) = [r])
    (hend : a.named name ((a.run (earlier ++ s :: later)).after w) = [r]) (feature : String) :
    let v := (a.run (earlier ++ [s])).after w
    let changes := a.changes feature v later
    heard name feature ((a.run (earlier ++ s :: later)).events w) =
        trail (stored v feature) changes ∧
      stored ((a.run (earlier ++ s :: later)).after w) feature =
        changes.getLast?.or (stored v feature) := by
  let u := (a.run earlier).after w
  let v := (a.step s).after u
  have hv : (a.run (earlier ++ [s])).after w = v := by
    rw [run_append]
    rfl
  have hlater : (a.run (earlier ++ s :: later)).after w = (a.run later).after v := by
    rw [run_append]
    rfl
  have hevents : (a.run (earlier ++ s :: later)).events w =
      (a.run earlier).events w ++ ((a.step s).events u ++ (a.run later).events v) := by
    rw [run_append]
    rfl
  have hearlierKind : ∀ listener, Step.register listener ∈ earlier → kind listener :=
    fun listener hl => hkind listener (List.mem_append_left _ hl)
  have hstepKind : ∀ listener, s = .register listener → kind listener :=
    fun listener hl => hkind listener (by simp [hl])
  have hlaterKind : ∀ listener, Step.register listener ∈ later → kind listener :=
    fun listener hl => hkind listener (List.mem_append_right _ (List.mem_cons_of_mem _ hl))
  rw [hv] at hcome ⊢
  rw [hlater] at hend ⊢
  obtain ⟨hgrows, hheeds⟩ := grows_run h hw hearlierKind
  have hstart : a.named name w = [] := List.sublist_nil.1 (hbefore ▸ hgrows.filter _)
  have hstep := brings_step h hheeds feature hstepKind
  obtain ⟨htold, hstored⟩ := heard_run_of_named h hstep.heeds hlaterKind hcome hend feature
  have hearlier : heard name feature ((a.run earlier).events w) = [] := by
    rw [(heard_run_of_named h hw hearlierKind hstart hbefore feature).1]
    exact List.flatMap_eq_nil_iff.2 fun _ _ => rfl
  have hcoming : heard name feature ((a.step s).events u) = [] := by
    have hunnamed : a.named name u = [] := hbefore
    rw [hstep.told, hunnamed]
    exact List.flatMap_eq_nil_iff.2 fun _ _ => rfl
  refine ⟨?_, hstored⟩
  rw [hevents, heard_append, heard_append, hearlier, hcoming]
  exact htold.trans (List.flatMap_singleton' _)

/-! ## Listenable nodes -/

/-- A listenable node in front of a repository. -/
def ofNode (parts : String → Option Tree) (id : Nat) (inner : Repository World) : Audited World :=
  ⟨World.listenersAt id, callListener parts, inner, fun listener w => w.register id listener⟩

/-- A call of a silent listener adds at most one silent listener to the list of a node. -/
theorem listeners_called (parts : String → Option Tree) {r : Registration} (hr : r.listener.Silent)
    (id : Nat) (w : World) :
    (w.called parts r).listeners id = w.listeners id ∨
      ∃ new : Registration, new.listener.Silent ∧
        (w.called parts r).listeners id = insertRegistration new (w.listeners id) := by
  obtain ⟨spent, h | ⟨node, l, hl, h⟩⟩ := w.called_cases parts r
  · exact .inl (by rw [h])
  · by_cases hid : id = node
    · subst hid
      refine .inr ⟨⟨w.registered.length, l⟩, hr.of_brings hl, ?_⟩
      rw [h]
      exact World.setAt_self _ _ _
    · left
      rw [h]
      exact World.setAt_of_ne _ _ hid

theorem stays_callListener (parts : String → Option Tree) (id : Nat) (inner : Repository World)
    {stored : World → String → Option FeatureState}
    (hstored : ∀ w v : World, v.stores = w.stores → stored v = stored w) {r : Registration}
    (hr : r.listener.Silent) (previous : Option FeatureState) (current : FeatureState) :
    Keeps ((ofNode parts id inner).Stays stored Listener.Silent)
      (callListener parts r previous current) := by
  intro w
  rw [after_callListener_of_silent hr]
  have hstays := hstored _ _ (w.stores_called parts r)
  rcases listeners_called parts hr id w with h | ⟨new, hnew, h⟩
  · exact .of_slot_eq hstays h
  · exact .of_inserted hstays hnew h

/-- A listenable node in front of a repository that keeps its contract by what stores hold, if the
repository has no listeners of its own. -/
theorem lawful_ofNode (parts : String → Option Tree) (id : Nat) {inner : Repository World}
    {stored : World → String → Option FeatureState} (hinner : inner.Faithful stored)
    (hread : ∀ feature, (ofNode parts id inner).Aloof name (inner.read feature))
    (hwrite : ∀ s, (ofNode parts id inner).Aloof name (inner.write s))
    (hstored : ∀ w v : World, v.stores = w.stores → stored v = stored w) :
    (ofNode parts id inner).Lawful stored Listener.Silent name where
  faithful := hinner
  read := hread
  write := hwrite
  enrol_slot listener w := ⟨w.registered.length, World.setAt_self _ _ _⟩
  enrol_stored _ _ := hstored _ _ rfl
  call r previous current hr := stays_callListener parts id inner hstored hr previous current
  call_events r previous current w hr := by
    show ∀ e ∈ (callListener parts r previous current).events w, _
    rw [Action.events, run_callListener_of_silent hr]
    exact fun e he => absurd he List.not_mem_nil

/-- A store that takes enabled states only. -/
def demanding : Repository World where
  read := (Repository.store (World.store 0)).read
  write s :=
    if s.enabled then (Repository.store (World.store 0)).write s
    else return .error (.store "refused")

theorem demanding_write_cases (s : FeatureState) :
    demanding.write s = (Repository.store (World.store 0)).write s ∨
      demanding.write s = return .error (.store "refused") := by
  by_cases h : s.enabled = true
  · exact .inl (if_pos h)
  · exact .inr (if_neg h)

theorem lawful_demanding (parts : String → Option Tree) (name : String) :
    (ofNode parts 0 demanding).Lawful (fun w feature => (w.stores 0).states.get? feature)
      Listener.Silent name := by
  have hstore := Repository.faithful_store (World.store 0)
  have hnoted (store : Store) (event : String → Event) (hevent : ∀ id, (event id).listener = none) :
      ∀ e ∈ store.noted event, e.listener ≠ some name := by
    intro e he
    obtain ⟨id, -, rfl⟩ := Option.map_eq_some_iff.1 (Option.mem_toList.1 he)
    rw [hevent]
    exact (Option.some_ne_none name).symm
  refine lawful_ofNode parts 0 ⟨hstore.stored_read, hstore.eq_stored, ?_, ?_⟩ ?_ ?_ ?_
  · intro s w h
    rcases demanding_write_cases s with hs | hs
    · rw [hs] at h ⊢
      exact hstore.stored_write s w h
    · rw [hs] at h
      cases h
  · intro s w e h
    rcases demanding_write_cases s with hs | hs
    · rw [hs] at h ⊢
      exact hstore.stored_failed s w e h
    · rw [hs]
      rfl
  · intro feature
    refine ⟨fun w => ?_, fun w => ?_⟩
    · rw [demanding, after_store_read]
      rfl
    · rw [demanding, events_store_read]
      exact hnoted (w.stores 0) _ fun _ => rfl
  · intro s
    rcases demanding_write_cases s with hs | hs
    · rw [hs]
      refine ⟨fun w => ?_, fun w => ?_⟩
      · rw [after_store_write]
        rfl
      · rw [events_store_write]
        exact hnoted (w.stores 0) _ fun _ => rfl
    · rw [hs]
      exact ⟨fun w => rfl, fun w e he => absurd he List.not_mem_nil⟩
  · intro w v h
    rw [h]

/-- Listeners that fail, panic and bring in another one, which is called first from then on. -/
def opening : List Step :=
  [.register ⟨"failing", 0, true, .fail⟩, .register ⟨"panicking", 0, true, .panic⟩,
    .register ⟨"inviting", 1, true, .register "root" "late" (-1) true .nothing⟩]

theorem heard_run_demanding :
    let root := Tree.listenable 0 (.store 0)
    let a := ofNode (fun _ => some root) 0 demanding
    let first : FeatureState := .of "alpha" true
    let second : FeatureState := ⟨"alpha", true, some "gradual", .empty⟩
    let later : List Step :=
      [.write second, .read "alpha", .write (.of "alpha" false), .write (.of "beta" true),
        .write first]
    let run := a.run (opening ++ .write first :: later)
    a.named "late" (run.after World.initial) = [⟨3, ⟨"late", -1, true, .nothing⟩⟩] ∧
      heard "late" "alpha" (run.events World.initial) =
        [(some first, second), (some second, first)] := by
  intro root a first second later run
  have hlawful := lawful_demanding (fun _ => some root) "late"
  have hkind : ∀ listener, Step.register listener ∈ opening ++ .write first :: later →
      listener.Silent := by
    intro listener hl
    simp only [opening, later, List.cons_append, List.nil_append, List.mem_cons, List.not_mem_nil,
      Step.register.injEq, reduceCtorEq, or_false] at hl
    rcases hl with rfl | rfl | rfl
    · decide
    · decide
    · decide
  have hheeds : a.Heeds Listener.Silent World.initial := fun _ hr => absurd hr List.not_mem_nil
  have hbefore : a.named "late" ((a.run opening).after World.initial) = [] := by decide +kernel
  have hcome : a.named "late" ((a.run (opening ++ [.write first])).after World.initial) =
      [⟨3, ⟨"late", -1, true, .nothing⟩⟩] := by decide +kernel
  have hend : a.named "late" (run.after World.initial) = [⟨3, ⟨"late", -1, true, .nothing⟩⟩] := by
    decide +kernel
  obtain ⟨htold, -⟩ := heard_run hlawful hheeds hkind hbefore hcome hend "alpha"
  refine ⟨hend, htold.trans ?_⟩
  decide +kernel

end Audited

end FeatureToggle
