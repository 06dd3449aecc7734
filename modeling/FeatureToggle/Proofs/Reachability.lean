import FeatureToggle.Proofs.Coherence

/-!
# Reachable worlds

A tree leads from one world to another if there is nothing between them but requests to its root,
caches that were cleared, time, and the coming of listeners. Listeners may take part in this: when
they are called, they may make requests to the root themselves, of which listeners are told in turn
(`Caller.Upright`). In all worlds that a tree leads to from one with empty caches, its caches are
coherent, so that reads are answered by what is kept (`Tree.Leads.result_read`).
-/
namespace FeatureToggle

open FeatureToggle.Action Repository

/-- The worlds to which a tree leads that is used through its root only. -/
inductive Tree.Leads (t : Tree) (call : Caller World) (kind : Listener → Prop) (w : World) :
    World → Prop
  | start : Leads t call kind w w
  | read {v : World} (feature : String) : Leads t call kind w v →
      Leads t call kind w (((t.repository call).read feature).after v)
  | write {v : World} (s : FeatureState) : Leads t call kind w v →
      Leads t call kind w (((t.repository call).write s).after v)
  | clear {v : World} (id : Nat) : Leads t call kind w v →
      Leads t call kind w ((World.cache id).put .empty v)
  /-- Time passes and listeners come, while stores and caches are left alone. -/
  | aside {v v' : World} : Leads t call kind w v → v.now ≤ v'.now → v'.stores = v.stores →
      v'.caches = v.caches → v'.Heeds kind → Leads t call kind w v'

/-- Listeners of the kind are quiet, or they use the tree through its root. The requests that they
make are told to listeners who do the same, so that calls can lie in each other to any depth. -/
inductive Caller.Upright (t : Tree) (kind : Listener → Prop) : Caller World → Prop
  | quiet {call : Caller World} : call.Quiet kind → Upright t kind call
  | nested {call : Caller World}
      (within : Registration → Option FeatureState → FeatureState → World → Caller World) :
      (∀ r previous current w, Upright t kind (within r previous current w)) →
      (∀ r previous current w, kind r.listener → w.Heeds kind →
        t.Leads (within r previous current w) kind w ((call r previous current).after w)) →
      Upright t kind call

namespace Tree

variable {call : Caller World} {kind : Listener → Prop} {t u : Tree} {w v : World}
  {feature : String}

/-- What a tree leads to leaves the caches of all its parts coherent. -/
theorem Leads.standingFor (hc : call.Considerate kind t) (hd : t.Distinct)
    (h : t.Leads call kind w v) (hu : u.Part t) (hw : StandingFor kind feature u.caches w) :
    StandingFor kind feature u.caches v := by
  induction h with
  | start => exact hw
  | @read v other _ ih =>
    exact ⟨(t.readOnly_read call other v).heeds ih.heeds,
      keeps_coherentFor_read call hd .whole hu other v ih.coherent⟩
  | @write v s _ ih =>
    exact keeps_standingFor_write hc hd .whole hu (.inr (.inl hu)) v ih
  | clear id _ ih => exact ⟨ih.heeds, ih.coherent.forget id⟩
  | aside _ _ hs hc hheeds ih =>
    refine ⟨hheeds, ih.coherent.mono (fun n _ => ?_) fun n _ entry hentry => ?_⟩
    · rw [World.kept_of_stores hs]
    · rw [hc] at hentry
      exact hentry

end Tree

/-- Listeners that use a tree through its root are considerate of it. The induction is on how deep
calls can lie in each other. -/
theorem Caller.Upright.considerate {t : Tree} {kind : Listener → Prop} {call : Caller World}
    (h : call.Upright t kind) (hd : t.Distinct) : call.Considerate kind t := by
  induction h with
  | quiet hq => exact hq.considerate t
  | nested within _ hleads ih =>
    intro r previous current hr u hu feature w hw
    have hcall := hleads r previous current w hr hw.heeds
    exact hcall.standingFor (ih r previous current w) hd hu hw

namespace Tree

variable {call : Caller World} {kind : Listener → Prop} {t : Tree} {w v : World}

/-- A tree that started with empty caches stays coherent. -/
theorem Leads.standing (h : t.Leads call kind w v) (hcall : call.Upright t kind) (hd : t.Distinct)
    (hcold : ∀ id ∈ t.cacheIds, w.caches id = .empty) (hw : w.Heeds kind) :
    Standing kind t.caches v := by
  have hstart : Standing kind t.caches w := ⟨hw, coherent_of_cold hcold⟩
  refine standing_iff.2 fun feature => ?_
  exact h.standingFor (hcall.considerate hd) hd .whole (standing_iff.1 hstart feature)

/-- A tree that started with empty caches answers by what is kept. -/
theorem Leads.result_read (h : t.Leads call kind w v) (hcall : call.Upright t kind)
    (hd : t.Distinct) (hcold : ∀ id ∈ t.cacheIds, w.caches id = .empty) (hw : w.Heeds kind)
    (feature : String) :
    ((t.repository call).read feature).result v = t.answer v.kept feature :=
  (read_of_coherent call feature hd.unambiguous (List.Subset.refl _)
    (h.standing hcall hd hcold hw).coherent).1

end Tree

/-! ## Listeners that write to the root -/

/-- Whether all that the reaction writes, or what it brings in, is written to the given tree. -/
def Reaction.AimsAt (parts : String → Option Tree) (t : Tree) : Reaction → Prop
  | .register _ _ _ _ reaction => reaction.AimsAt parts t
  | .copy target _ => ∀ u, parts target = some u → u = t
  | _ => True

def Listener.AimsAt (parts : String → Option Tree) (t : Tree) (l : Listener) : Prop :=
  l.reaction.AimsAt parts t

section AimsAt

variable {parts : String → Option Tree} {t : Tree} {r : Registration} {w : World}

theorem Listener.AimsAt.of_brings {l brought : Listener} (h : l.AimsAt parts t)
    (hb : l.reaction.brings = some brought) : brought.AimsAt parts t := by
  unfold Reaction.brings at hb
  split at hb
  · next hr =>
    obtain rfl := Option.some.inj hb
    simpa [AimsAt, hr, Reaction.AimsAt] using h
  · cases hb

/-- A call changes the roster only, whatever the depth, or it makes one request to write, for which
there has to be some depth left. -/
theorem react_cases (r : Registration) (previous : Option FeatureState) (current : FeatureState) :
    (∀ depth w, (react parts depth r previous current).run w =
      ⟨(r.listener.outcome, w.called parts r), []⟩) ∨
      ∃ target feature u, r.listener.reaction = .copy target feature ∧ parts target = some u ∧
        react parts 0 r previous current =
          (do Action.note (.cutOff r.listener.name); return .done) ∧
        ∀ depth, react parts (depth + 1) r previous current =
          (do return r.listener.outcomeOf
                (← (u.repository (react parts depth)).write (.of feature current.enabled))) := by
  by_cases hcopy : ∃ target feature, r.listener.reaction = .copy target feature
  swap
  · left
    intro depth w
    exact run_react_of_ne_copy (fun target feature hr => hcopy ⟨target, feature, hr⟩) depth _ _ w
  obtain ⟨target, feature, hr⟩ := hcopy
  have hcalled (w : World) : w.called parts r = w := by simp [World.called, hr]
  have houtcome : r.listener.outcome = .done := by simp [Listener.outcome, hr]
  by_cases hf : current.feature = feature
  · left
    intro depth w
    unfold react
    simp only [hr, if_pos hf, hcalled, houtcome]
    rfl
  · cases hu : parts target with
    | none =>
      left
      intro depth w
      unfold react
      simp only [hr, if_neg hf, hu, hcalled, houtcome]
      rfl
    | some u =>
      right
      refine ⟨target, feature, u, hr, hu, ?_, fun depth => ?_⟩
      · simp only [react, hr, if_neg hf, hu]
      · simp only [react, hr, if_neg hf, hu]

theorem after_react_cases (r : Registration) (depth : Nat) (previous : Option FeatureState)
    (current : FeatureState) (w : World) :
    (react parts depth r previous current).after w = w.called parts r ∨
      ∃ target feature rest u, r.listener.reaction = .copy target feature ∧ depth = rest + 1 ∧
        parts target = some u ∧ (react parts depth r previous current).after w =
          ((u.repository (react parts rest)).write (.of feature current.enabled)).after w := by
  rcases react_cases r previous current with hrun | ⟨target, feature, u, hr, hu, hzero, hsucc⟩
  · left
    rw [Action.after, hrun]
  · cases depth with
    | zero =>
      left
      have hcalled : w.called parts r = w := by simp [World.called, hr]
      rw [hzero, hcalled]
      rfl
    | succ rest =>
      right
      refine ⟨target, feature, rest, u, hr, rfl, hu, ?_⟩
      rw [hsucc rest]
      rfl

/-- A call of a listener that aims at a tree comes to requests to its root, told with less depth. -/
theorem leads_react (hr : r.listener.AimsAt parts t) (hw : w.Heeds (Listener.AimsAt parts t))
    (depth : Nat) (previous : Option FeatureState) (current : FeatureState) :
    t.Leads (react parts (depth - 1)) (Listener.AimsAt parts t) w
      ((react parts depth r previous current).after w) := by
  rcases after_react_cases r depth previous current w with
    h | ⟨target, feature, rest, u, hcopy, rfl, hu, h⟩
  · rw [h]
    refine .aside .start ?_ (w.stores_called parts r) (w.caches_called parts r) ?_
    · exact Nat.le_of_eq (w.now_called parts r).symm
    · exact hw.called parts r fun l hl => hr.of_brings hl
  · obtain rfl : u = t := by
      simp only [Listener.AimsAt, hcopy, Reaction.AimsAt] at hr
      exact hr u hu
    rw [h]
    exact .write _ .start

variable (parts t)

/-- Without any depth nothing is written. -/
theorem react_zero_quiet : (react parts 0).Quiet (Listener.AimsAt parts t) := by
  have hzero (r : Registration) (previous : Option FeatureState) (current : FeatureState)
      (w : World) : (react parts 0 r previous current).after w = w.called parts r := by
    rcases after_react_cases r 0 previous current w with h | ⟨_, _, rest, _, _, hrest, _⟩
    · exact h
    · cases hrest
  constructor
  · intro r previous current w _
    rw [hzero, w.stores_called]
  · intro r previous current w _
    rw [hzero, w.caches_called]
  · intro r previous current w hr hw
    rw [hzero]
    exact hw.called parts r fun l hl => hr.of_brings hl

theorem react_upright (depth : Nat) : (react parts depth).Upright t (Listener.AimsAt parts t) := by
  induction depth with
  | zero => exact .quiet (react_zero_quiet parts t)
  | succ depth ih =>
    exact .nested (fun _ _ _ _ => react parts depth) (fun _ _ _ _ => ih)
      fun r previous current w hr hw => leads_react hr hw (depth + 1) previous current

/-- Listeners that write to the root of a tree use it through its root. -/
theorem callListener_upright : (callListener parts).Upright t (Listener.AimsAt parts t) :=
  .nested (fun _ _ _ w => react parts (w.nesting - 1)) (fun _ _ _ _ => react_upright parts t _)
    fun _ previous current w hr hw => leads_react hr hw w.nesting previous current

end AimsAt

end FeatureToggle
