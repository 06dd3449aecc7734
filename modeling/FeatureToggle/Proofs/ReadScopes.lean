import FeatureToggle.Proofs.Footprints

/-!
# The features that a request reads

A write to a tree asks stores for the feature that is written, where listeners are to be told of the
previous state, and for no other (`Tree.leaves_scoped_write`). This takes listeners that do not ask
for features themselves; if they do not dawdle either, a write takes no time.
-/
namespace FeatureToggle

open FeatureToggle.Action Repository

/-! ## Listeners that neither write nor read -/

/-- A listener of the kind, when called, takes no time and touches neither stores nor caches, be it
to read or to write. Those who merely look something up in a repository are not idle: their reads
would stand among those of the request that they are told of. -/
structure Caller.Idle (call : Caller World) (kind : Listener → Prop) : Prop
    extends Caller.Quiet call kind where
  now : ∀ r previous current w, kind r.listener →
    ((call r previous current).after w).now = w.now
  unread : ∀ r previous current w, kind r.listener →
    ∀ e ∈ (call r previous current).events w, e.readFeature = none

/-- Calls of silent listeners are idle. -/
theorem callListener_idle (parts : String → Option Tree) :
    (callListener parts).Idle Listener.Silent where
  toQuiet := callListener_quiet parts
  now r previous current w h := by
    rw [after_callListener_of_silent h, w.now_called]
  unread r previous current w h := by
    rw [Action.events, run_callListener_of_silent h]
    exact fun e he => absurd he List.not_mem_nil

/-! ## Requests that read one feature -/

/-- No event tells of a read of another feature. -/
def ReadsOnly (feature : String) (events : List Event) : Prop :=
  ∀ e ∈ events, ∀ other, e.readFeature = some other → other = feature

namespace ReadsOnly

variable {feature : String} {events rest : List Event}

theorem of_unread (h : ∀ e ∈ events, e.readFeature = none) : ReadsOnly feature events := by
  intro e he other hother
  rw [h e he] at hother
  cases hother

theorem single {e : Event} (h : e.readFeature = none) : ReadsOnly feature [e] :=
  of_unread (List.forall_mem_singleton.2 h)

theorem append (h : ReadsOnly feature events) (hrest : ReadsOnly feature rest) :
    ReadsOnly feature (events ++ rest) :=
  List.forall_mem_append.2 ⟨h, hrest⟩

end ReadsOnly

/-- While only listeners of a kind are registered, no other feature is read, and no time passes. -/
def Scoped (kind : Listener → Prop) (feature : String) (w : World) (events : List Event)
    (v : World) : Prop :=
  w.Heeds kind → ReadsOnly feature events ∧ v.now = w.now ∧ v.Heeds kind

instance (kind : Listener → Prop) (feature : String) : Tracing (Scoped kind feature) where
  done w hw := ⟨fun _ he => absurd he List.not_mem_nil, rfl, hw⟩
  note w e he hw := ⟨.single he, rfl, hw⟩
  append huv hvw hu := by
    obtain ⟨ha, hnow, hv⟩ := huv hu
    obtain ⟨hb, hnow', hw⟩ := hvw hv
    exact ⟨ha.append hb, hnow'.trans hnow, hw⟩

section Calls

variable {call : Caller World} {kind : Listener → Prop} {w : World}

/-- Calls of idle listeners read nothing. -/
theorem Caller.Idle.leaves_scoped (hq : call.Idle kind) {r : Registration} (hr : kind r.listener)
    (previous : Option FeatureState) (current : FeatureState) (feature : String) :
    Leaves (Scoped kind feature) (call r previous current) := fun w hw =>
  ⟨.of_unread (hq.unread r previous current w hr), hq.now r previous current w hr,
    hq.heeds r previous current w hr hw⟩

theorem Caller.Idle.scoped_notify (hq : call.Idle kind) (feature : String) {s : FeatureState}
    (id : Nat) (previous : Option FeatureState) (w : World) :
    Scoped kind feature w ((FeatureToggle.notify call previous s (w.listeners id)).events w)
      ((FeatureToggle.notify call previous s (w.listeners id)).after w) := fun hw =>
  leaves_notify (fun r hr => hq.leaves_scoped (hw id r hr) previous s feature) w hw

end Calls

namespace Tree

variable {call : Caller World} {kind : Listener → Prop} {s : FeatureState}

theorem leaves_scoped_read (call : Caller World) (feature : String) (t : Tree) :
    Leaves (Scoped kind feature) ((t.repository call).read feature) := by
  induction t with
  | store id =>
    intro w hw
    rw [Tree.repository, after_store_read, events_store_read]
    refine ⟨fun e he other hother => ?_, rfl, hw⟩
    obtain ⟨name, -, rfl⟩ := Option.map_eq_some_iff.1 (Option.mem_toList.1 he)
    exact (Option.some.inj hother).symm
  | cache id ttl inner ih =>
    intro w hw
    obtain ⟨hevents, hnow, hheeds⟩ := ih w hw
    have hmiss : ReadsOnly feature
        (.logged (.cacheMiss feature) :: ((inner.repository call).read feature).events w) :=
      (ReadsOnly.single rfl).append hevents
    rw [Tree.repository]
    cases hfresh : ((World.cache id).get w).fresh? ttl w.now feature with
    | some entry =>
      rw [Action.after, Action.events, run_cached_read_of_fresh hfresh]
      exact ⟨fun e he => absurd he List.not_mem_nil, rfl, hw⟩
    | none =>
      cases hread : ((inner.repository call).read feature).result w with
      | error e =>
        rw [Action.after, Action.events, run_cached_read_of_error hfresh hread]
        exact ⟨hmiss, hnow, hheeds⟩
      | ok state =>
        rw [Action.after, Action.events, run_cached_read_of_ok hfresh hread]
        exact ⟨hmiss, hnow, hheeds⟩
  | composite order target ts ih =>
    rw [Tree.repository, repositories_eq]
    refine leaves_readFirst fun d hd => ?_
    rw [ReadOrder.mem_arrange] at hd
    obtain ⟨t, ht, rfl⟩ := List.mem_map.1 hd
    exact ih t ht
  | listenable id inner ih => exact ih
  | journal j inner ih => exact ih

/-- A write takes no time and reads no other feature than its own. -/
theorem leaves_scoped_write (hq : call.Idle kind) (t : Tree) :
    Leaves (Scoped kind s.feature) ((t.repository call).write s) := by
  induction t with
  | store id =>
    intro w hw
    rw [Tree.repository, after_store_write, events_store_write]
    refine ⟨.of_unread fun e he => ?_, rfl, hw⟩
    obtain ⟨name, -, rfl⟩ := Option.map_eq_some_iff.1 (Option.mem_toList.1 he)
    rfl
  | cache id ttl inner ih =>
    intro w hw
    obtain ⟨hevents, hnow, hheeds⟩ := ih w hw
    rw [Tree.repository, after_cached_write, events_cached_write]
    exact ⟨hevents.append (.single rfl), hnow, hheeds⟩
  | composite order target ts ih =>
    rw [Tree.repository, repositories_eq]
    refine leaves_composite_write order fun d hd => ?_
    rw [WriteTarget.chosen_map] at hd
    obtain ⟨t, ht, rfl⟩ := List.mem_map.1 hd
    exact ih t (target.mem_of_mem_chosen ht)
  | listenable id inner ih =>
    exact leaves_listenable_write (inner.leaves_scoped_read call s.feature) ih
      fun previous w => hq.scoped_notify s.feature id previous w
  | journal j inner ih => exact Leaves.bind (Leaves.log _) fun _ => ih

end Tree

end FeatureToggle
