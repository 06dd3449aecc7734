import FeatureToggle.Proofs.Answers
import FeatureToggle.Storage.Assembly

/-!
# Listeners that do not write

Listeners are code of the caller. What a repository may rely on is said of a kind of listeners:
calling them is quiet if they leave alone what is stored and remembered, and bring in listeners of
the same kind only; it is blind if what they do depends neither on caches nor on how often stores
were read. Silent listeners, which may fail, panic and register others but never write, are of such
a kind.
-/
namespace FeatureToggle

/-- Every registered listener is of a kind. -/
def World.Heeds (w : World) (kind : Listener → Prop) : Prop :=
  ∀ id, ∀ r ∈ w.listeners id, kind r.listener

/-- Two worlds with the same time and the same listeners. -/
structure World.SameRoster (w v : World) : Prop where
  now : w.now = v.now
  listeners : w.listeners = v.listeners
  registered : w.registered = v.registered
  spent : w.spent = v.spent

/-- Two worlds that nobody can tell apart who neither looks into caches nor counts reads. In the
first one no store was read more often. -/
structure World.Resembles (w v : World) : Prop extends SameRoster w v where
  kept : v.kept = w.kept
  reads_le : ∀ id, (w.stores id).reads ≤ (v.stores id).reads

namespace Caller

variable (call : Caller World) (kind : Listener → Prop)

/-- A listener of the kind, when called, touches neither stores nor caches. Not even reads through a
repository are quiet, since stores count them and caches remember what was found: listeners that read
are upright instead (`Caller.Upright`), if they do it through the root of the tree. -/
structure Quiet : Prop where
  stores : ∀ r previous current w, kind r.listener →
    ((call r previous current).after w).stores = w.stores
  caches : ∀ r previous current w, kind r.listener →
    ((call r previous current).after w).caches = w.caches
  heeds : ∀ r previous current w, kind r.listener → w.Heeds kind →
    ((call r previous current).after w).Heeds kind

/-- A listener of the kind does the same in worlds that resemble each other. -/
def Blind : Prop :=
  ∀ r previous current, kind r.listener →
    Action.Mirrors World.Resembles (call r previous current) (call r previous current)

end Caller

namespace Repository

open FeatureToggle.Action

variable {σ : Type} {feature : String} {state : FeatureState}

/-! ## Telling the listeners -/

section Leaves

variable {T : σ → List Event → σ → Prop} [Tracing T]

lemma leaves_logOutcome (r : Registration) (o : Outcome) : Leaves T (logOutcome r feature o) := by
  cases o with
  | done => exact Leaves.pure _
  | failed reason => exact Leaves.log _
  | panicked => exact Leaves.log _

theorem leaves_notify {call : Caller σ} {previous : Option FeatureState} {rs : List Registration}
    (h : ∀ r ∈ rs, Leaves T (call r previous state)) :
    Leaves T (notify call previous state rs) := by
  induction rs with
  | nil => exact Leaves.pure _
  | cons r rest ih =>
    refine Leaves.bind (Leaves.note rfl) fun _ => ?_
    refine Leaves.bind (h r (by simp)) fun o => ?_
    refine Leaves.bind (leaves_logOutcome r o) fun _ => ?_
    exact ih fun r' hr' => h r' (by simp [hr'])

/-- The listeners that are told are those of the world that a successful write leaves. -/
theorem leaves_listenable_write {slot : Slot σ (List Registration)} {call : Caller σ}
    {inner : Repository σ} (hread : Leaves T (inner.read state.feature))
    (hwrite : Leaves T (inner.write state))
    (hnotify : ∀ previous w, T w ((notify call previous state (slot.get w)).events w)
      ((notify call previous state (slot.get w)).after w)) :
    Leaves T ((listenable slot call inner).write state) := by
  refine Leaves.bind hread fun previous => ?_
  split
  · exact Leaves.pure _
  · refine Leaves.bind hwrite fun answer => ?_
    split
    · exact Leaves.pure _
    · next previous _ =>
      intro w
      have hevents (es : List Event) : [] ++ (es ++ []) = es := List.append_nil es
      rw [events_bind, events_bind, events_get, events_pure, hevents]
      exact hnotify previous w

end Leaves

section Keeps

variable {P : σ → σ → Prop} [IsPreorder σ P]

theorem keeps_notify {call : Caller σ} {previous : Option FeatureState} {rs : List Registration}
    (h : ∀ r ∈ rs, Keeps P (call r previous state)) : Keeps P (notify call previous state rs) :=
  leaves_notify (T := fun w _ v => P w v) h

theorem keeps_listenable_write {slot : Slot σ (List Registration)} {call : Caller σ}
    {inner : Repository σ} (hread : Keeps P (inner.read state.feature))
    (hwrite : Keeps P (inner.write state))
    (hnotify : ∀ previous w, P w ((notify call previous state (slot.get w)).after w)) :
    Keeps P ((listenable slot call inner).write state) :=
  leaves_listenable_write (T := fun w _ v => P w v) hread hwrite hnotify

end Keeps

section Parallel

variable {R : σ → σ → Prop} {E : List Event → List Event → Prop} [Matching E]

lemma parallel_logOutcome (r : Registration) (o : Outcome) :
    Parallel R E (logOutcome r feature o) (logOutcome r feature o) := by
  cases o with
  | done => exact Parallel.pure _
  | failed reason => exact Parallel.log _
  | panicked => exact Parallel.log _

theorem parallel_notify {call : Caller σ} {previous : Option FeatureState} {rs : List Registration}
    (h : ∀ r ∈ rs, Parallel R E (call r previous state) (call r previous state)) :
    Parallel R E (notify call previous state rs) (notify call previous state rs) := by
  induction rs with
  | nil => exact Parallel.pure _
  | cons r rest ih =>
    refine Parallel.bind (Parallel.note rfl) fun _ => ?_
    refine Parallel.bind (h r (by simp)) fun o => ?_
    refine Parallel.bind (parallel_logOutcome r o) fun _ => ?_
    exact ih fun r' hr' => h r' (by simp [hr'])

/-- Here too the listeners are those of the worlds that successful writes leave. They need not be
the same in both. -/
theorem parallel_listenable_write {slot : Slot σ (List Registration)} {call : Caller σ}
    {inner inner' : Repository σ}
    (hread : Parallel R E (inner.read state.feature) (inner'.read state.feature))
    (hwrite : Parallel R E (inner.write state) (inner'.write state))
    (hnotify : ∀ previous w v, R w v →
      ParallelAt R E (notify call previous state (slot.get w))
        (notify call previous state (slot.get v)) w v) :
    Parallel R E ((listenable slot call inner).write state)
      ((listenable slot call inner').write state) := by
  refine Parallel.bind hread fun previous => ?_
  match previous with
  | .error e => exact Parallel.pure _
  | .ok previous =>
    refine Parallel.bind hwrite fun answer => ?_
    match answer with
    | .error e => exact Parallel.pure _
    | .ok () =>
      intro w v hR
      obtain ⟨_, hevents, hafter⟩ := hnotify previous w v hR
      exact ⟨rfl, Matching.append Matching.nil (Matching.append hevents Matching.nil), hafter⟩

end Parallel

section Mirrors

variable {R : σ → σ → Prop}

theorem mirrors_notify {call : Caller σ} {previous : Option FeatureState} {rs : List Registration}
    (h : ∀ r ∈ rs, Mirrors R (call r previous state) (call r previous state)) :
    Mirrors R (notify call previous state rs) (notify call previous state rs) :=
  mirrors_iff.2 (parallel_notify fun r hr => mirrors_iff.1 (h r hr))

theorem mirrors_listenable_write {slot : Slot σ (List Registration)} {call : Caller σ}
    {inner inner' : Repository σ}
    (hread : Mirrors R (inner.read state.feature) (inner'.read state.feature))
    (hwrite : Mirrors R (inner.write state) (inner'.write state))
    (hnotify : ∀ previous w v, R w v →
      MirrorsAt R (notify call previous state (slot.get w))
        (notify call previous state (slot.get v)) w v) :
    Mirrors R ((listenable slot call inner).write state)
      ((listenable slot call inner').write state) :=
  mirrors_iff.2 <| parallel_listenable_write (mirrors_iff.1 hread) (mirrors_iff.1 hwrite)
    fun previous w v hR => mirrorsAt_iff.1 (hnotify previous w v hR)

end Mirrors

end Repository

/-! ## Silent listeners -/

/-- Whether neither the reaction nor any that it brings in ever writes. -/
def Reaction.isSilent : Reaction → Bool
  | .register _ _ _ _ reaction => reaction.isSilent
  | .copy _ _ => false
  | _ => true

/-- The listener that a reaction brings in. -/
def Reaction.brings : Reaction → Option Listener
  | .register _ name priority reports reaction => some ⟨name, priority, reports, reaction⟩
  | _ => none

def Listener.Silent (l : Listener) : Prop := l.reaction.isSilent = true

instance (l : Listener) : Decidable l.Silent := inferInstanceAs (Decidable (_ = true))

theorem Listener.Silent.of_brings {l brought : Listener} (h : l.Silent)
    (hb : l.reaction.brings = some brought) : brought.Silent := by
  unfold Reaction.brings at hb
  split at hb
  · next hr =>
    obtain rfl := Option.some.inj hb
    simpa [Silent, hr, Reaction.isSilent] using h
  · cases hb

theorem mem_insertRegistration {r x : Registration} {rs : List Registration}
    (h : x ∈ insertRegistration r rs) : x = r ∨ x ∈ rs := by
  induction rs with
  | nil => exact .inl (by simpa [insertRegistration] using h)
  | cons s rest ih =>
    unfold insertRegistration at h
    split at h
    · simpa using h
    · rcases List.mem_cons.1 h with rfl | h
      · exact .inr List.mem_cons_self
      · exact (ih h).imp id (List.mem_cons_of_mem s)

theorem sublist_insertRegistration (r : Registration) (rs : List Registration) :
    rs.Sublist (insertRegistration r rs) := by
  induction rs with
  | nil => exact List.nil_sublist _
  | cons s rest ih =>
    rw [insertRegistration]
    split
    · exact List.sublist_cons_self _ _
    · exact ih.cons_cons s

theorem World.Heeds.register {w : World} {kind : Listener → Prop} (h : w.Heeds kind) (id : Nat)
    {l : Listener} (hl : kind l) : (w.register id l).Heeds kind := by
  intro j r hr
  by_cases hj : j = id
  · subst hj
    rw [World.register] at hr
    simp only [World.setAt_self] at hr
    rcases mem_insertRegistration hr with rfl | hr
    · exact hl
    · exact h j r hr
  · exact h j r (by simpa [World.register, World.setAt_of_ne _ _ hj] using hr)

namespace World

variable (parts : String → Option Tree)

/-- The world after a listener brought in another one, which it does once. -/
def enrol (r : Registration) (target : String) (l : Listener) (w : World) : World :=
  if w.spent.contains r.serial then w
  else
    match parts target with
    | some (.listenable id _) => World.register { w with spent := r.serial :: w.spent } id l
    | _ => { w with spent := r.serial :: w.spent }

/-- The world after a call of a listener that does not write. -/
def called (r : Registration) (w : World) : World :=
  match r.listener.reaction with
  | .register target name priority reports reaction =>
    w.enrol parts r target ⟨name, priority, reports, reaction⟩
  | _ => w

end World

/-- What becomes of a call of a listener that does not write. -/
def Listener.outcome (l : Listener) : Outcome :=
  match l.reaction with
  | .fail => l.failure (l.name ++ " failed")
  | .panic => .panicked
  | _ => .done

section Silent

variable {parts : String → Option Tree} {r : Registration}

/-- A listener that does not write leaves no events of its own, and at most registers another. -/
theorem run_react_of_ne_copy (h : ∀ target feature, r.listener.reaction ≠ .copy target feature)
    (depth : Nat) (previous : Option FeatureState) (current : FeatureState) (w : World) :
    (react parts depth r previous current).run w =
      ⟨(r.listener.outcome, w.called parts r), []⟩ := by
  unfold react Listener.outcome World.called
  match hr : r.listener.reaction with
  | .nothing => rfl
  | .fail => rfl
  | .panic => rfl
  | .register target name priority reports reaction =>
    simp only [Action.run_bind, World.enrol]
    by_cases hs : w.spent.contains r.serial = true
    · rw [if_pos hs, Action.result_get, if_pos hs]
      rfl
    · rw [if_neg hs, Action.result_get, if_neg hs]
      cases parts target with
      | none => rfl
      | some t =>
        cases t with
        | store id => rfl
        | cache id ttl inner => rfl
        | composite order target ts => rfl
        | listenable id inner => rfl
        | journal j inner => rfl
  | .copy target feature => exact absurd hr (h target feature)

theorem run_react_of_silent (h : r.listener.Silent) (depth : Nat) (previous : Option FeatureState)
    (current : FeatureState) (w : World) :
    (react parts depth r previous current).run w =
      ⟨(r.listener.outcome, w.called parts r), []⟩ := by
  refine run_react_of_ne_copy (fun target feature hr => ?_) depth previous current w
  simp [Listener.Silent, hr, Reaction.isSilent] at h

theorem run_callListener_of_silent (h : r.listener.Silent) (previous : Option FeatureState)
    (current : FeatureState) (w : World) :
    (callListener parts r previous current).run w =
      ⟨(r.listener.outcome, w.called parts r), []⟩ :=
  run_react_of_silent h _ _ _ w

theorem after_callListener_of_silent (h : r.listener.Silent) (previous : Option FeatureState)
    (current : FeatureState) (w : World) :
    (callListener parts r previous current).after w = w.called parts r := by
  rw [Action.after, run_callListener_of_silent h]

variable (parts r)

/-- A call of a listener that does not write changes the roster only. -/
lemma World.called_cases (w : World) :
    ∃ spent, w.called parts r = { w with spent } ∨
      ∃ id l, r.listener.reaction.brings = some l ∧
        w.called parts r = World.register { w with spent } id l := by
  unfold World.called
  split
  · next target name priority reports reaction hr =>
    unfold World.enrol
    split
    · exact ⟨w.spent, .inl rfl⟩
    · split
      · exact ⟨_, .inr ⟨_, _, by rw [hr, Reaction.brings], rfl⟩⟩
      · exact ⟨_, .inl rfl⟩
  · exact ⟨w.spent, .inl rfl⟩

lemma World.stores_called (w : World) : (w.called parts r).stores = w.stores := by
  obtain ⟨spent, h | ⟨id, l, -, h⟩⟩ := w.called_cases parts r
  · rw [h]
  · rw [h]
    rfl

lemma World.caches_called (w : World) : (w.called parts r).caches = w.caches := by
  obtain ⟨spent, h | ⟨id, l, -, h⟩⟩ := w.called_cases parts r
  · rw [h]
  · rw [h]
    rfl

lemma World.now_called (w : World) : (w.called parts r).now = w.now := by
  obtain ⟨spent, h | ⟨id, l, -, h⟩⟩ := w.called_cases parts r
  · rw [h]
  · rw [h]
    rfl

lemma World.Heeds.called {w : World} {kind : Listener → Prop} (hw : w.Heeds kind)
    (hr : ∀ l, r.listener.reaction.brings = some l → kind l) : (w.called parts r).Heeds kind := by
  obtain ⟨spent, h | ⟨id, l, hl, h⟩⟩ := w.called_cases parts r
  · rw [h]
    exact hw
  · rw [h]
    have hw' : World.Heeds { w with spent } kind := hw
    exact hw'.register id (hr l hl)

lemma World.sameRoster_called {w v : World} (h : w.SameRoster v) :
    (w.called parts r).SameRoster (v.called parts r) := by
  obtain ⟨hn, hl, hr, hs⟩ := h
  unfold World.called World.enrol
  split
  · rw [hs]
    split
    · exact ⟨hn, hl, hr, hs⟩
    · split
      · exact ⟨hn, by simp [World.register, hl, hr], by simp [World.register, hr], rfl⟩
      · exact ⟨hn, hl, hr, by simp⟩
  · exact ⟨hn, hl, hr, hs⟩

/-- Calls of silent listeners are quiet. -/
theorem callListener_quiet : (callListener parts).Quiet Listener.Silent where
  stores r previous current w h := by
    rw [after_callListener_of_silent h, w.stores_called]
  caches r previous current w h := by
    rw [after_callListener_of_silent h, w.caches_called]
  heeds r previous current w h hw := by
    rw [after_callListener_of_silent h]
    exact hw.called parts r fun l hl => h.of_brings hl

/-- Calls of silent listeners are blind. -/
theorem callListener_blind : (callListener parts).Blind Listener.Silent := by
  intro r previous current h w v hR
  constructor
  · simp only [Action.result, run_callListener_of_silent h]
  · simp only [Action.effects, Action.events, run_callListener_of_silent h]
  · rw [after_callListener_of_silent h, after_callListener_of_silent h]
    have hw := w.stores_called parts r
    have hv := v.stores_called parts r
    refine ⟨World.sameRoster_called parts r hR.toSameRoster, ?_, fun id => ?_⟩
    · funext id
      rw [World.kept, World.kept, hw, hv]
      exact congrFun hR.kept id
    · rw [hw, hv]
      exact hR.reads_le id

end Silent

/-- A world in which everybody is told to a listener that fails, to one that panics, and to one that
brings in another. -/
def World.restless : World :=
  let register : Reaction := .register "root" "late" 2 true .nothing
  let listeners : List Listener :=
    [⟨"failing", 0, true, .fail⟩, ⟨"panicking", 0, true, .panic⟩, ⟨"inviting", 1, true, register⟩]
  { World.initial with
    listeners := fun _ => [⟨0, listeners[0]⟩, ⟨1, listeners[1]⟩, ⟨2, listeners[2]⟩]
    registered := listeners }

theorem World.heeds_restless : World.restless.Heeds Listener.Silent := by
  intro id r hr
  have hall : ∀ r ∈ World.restless.listeners 0, r.listener.Silent := by decide
  exact hall r hr

end FeatureToggle
