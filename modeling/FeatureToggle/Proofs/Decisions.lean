import FeatureToggle.Manager
import FeatureToggle.Proofs.Delivery

/-!
# Decisions of a manager

A manager over a tree that writes through decides on the state that was set last, whatever caches,
listeners and shadowed stores there are in between, and at whatever time it is asked. If a feature
was never set, it decides on what the tree answered in the beginning.
-/
namespace FeatureToggle

open FeatureToggle.Action Repository

namespace Manager

/-- What a manager, and the stack of repositories below it, is asked to do. -/
inductive Request where
  | setState (state : FeatureState)
  | state (feature : String)
  | isActiveFor (feature : String) (user : Option User)
  /-- Makes a cache forget everything. -/
  | clear (cache : Nat)
  /-- Lets time pass. -/
  | wait (nanoseconds : Nat)

/-- The world after a request. -/
def step (m : Manager World) (w : World) : Request → World
  | .setState s => (m.setState s).after w
  | .state feature => (m.state feature).after w
  | .isActiveFor feature user => (m.isActiveFor feature user).after w
  | .clear id => (World.cache id).put .empty w
  | .wait nanoseconds => { w with now := w.now + nanoseconds }

def run (m : Manager World) (w : World) (requests : List Request) : World := requests.foldl m.step w

theorem run_append (m : Manager World) (w : World) (requests rest : List Request) :
    m.run w (requests ++ rest) = m.run (m.run w requests) rest := List.foldl_append

/-- The state that a request sets, if it sets one for the feature. -/
def Request.sets (feature : String) : Request → Option FeatureState
  | .setState s => if s.feature = feature then some s else none
  | _ => none

/-- The state that was set last for a feature. -/
def lastSet (feature : String) : List Request → Option FeatureState
  | [] => none
  | r :: rest => (lastSet feature rest).or (r.sets feature)

/-- The decision that a stored state, or its absence, calls for. -/
def verdict {σ : Type} (m : Manager σ) (feature : String) (user : Option User) :
    Option FeatureState → Except Error Bool
  | none =>
    match m.features.feature? feature with
    | none => .ok false
    | some declared => .ok declared.metadata.enabledByDefault
  | some s =>
    match s.enabled, s.strategy with
    | false, _ => .ok false
    | true, none => .ok true
    | true, some id =>
      match m.strategies.lookup? id with
      | none => .error (.unknownStrategy feature id)
      | some strategy => .ok (strategy.isActive s user).value

section Requests

variable {σ : Type} (m : Manager σ) (feature : String) (user : Option User) (w : σ)

theorem verdict_none :
    m.verdict feature user none = .ok (m.declaredDefault feature) := by
  unfold verdict declaredDefault metadata?
  match m.features.feature? feature with
  | none => rfl
  | some declared => rfl

theorem value_decide (state : Option FeatureState) :
    (m.decide feature user state).value = m.verdict feature user state := by
  match state with
  | none => exact (m.verdict_none feature user).symm
  | some ⟨f, false, strategy, parameters⟩ => rfl
  | some ⟨f, true, none, parameters⟩ => rfl
  | some ⟨f, true, some id, parameters⟩ =>
    unfold decide decideStored verdict
    match hl : m.strategies.lookup? id with
    | none => simp [hl]
    | some strategy => simp [hl]

theorem result_isActiveFor :
    (m.isActiveFor feature user).result w =
      match (m.repository.read feature).result w with
      | .error e => .error e
      | .ok state => m.verdict feature user state := by
  rw [isActiveFor, result_bind]
  match (m.repository.read feature).result w with
  | .error e => rfl
  | .ok state => exact m.value_decide feature user state

theorem after_isActiveFor :
    (m.isActiveFor feature user).after w = (m.repository.read feature).after w := by
  rw [isActiveFor, after_bind]
  match (m.repository.read feature).result w with
  | .error e => rfl
  | .ok state => rfl

/-- What is stored, or else a state made from the declared default. -/
theorem result_state :
    (m.state feature).result w =
      match (m.repository.read feature).result w with
      | .error e => .error e
      | .ok state => .ok (state.getD (.of feature (m.declaredDefault feature))) := by
  rw [state, result_bind]
  match (m.repository.read feature).result w with
  | .error e => rfl
  | .ok none => rfl
  | .ok (some s) => rfl

theorem after_state : (m.state feature).after w = (m.repository.read feature).after w := by
  rw [state, after_bind]
  match (m.repository.read feature).result w with
  | .error e => rfl
  | .ok none => rfl
  | .ok (some s) => rfl

end Requests

end Manager

/-! ## Worlds between requests -/

namespace Tree

/-- A tree that was just built: its stores never fail, its caches are empty, and the listeners are
of a kind. -/
structure Fresh (kind : Listener → Prop) (t : Tree) (w : World) : Prop where
  sound : t.Sound w.kept
  cold : ∀ id ∈ t.cacheIds, w.caches id = .empty
  heeds : w.Heeds kind

/-- What holds between requests: the stores never fail, and the caches are coherent. -/
structure Steady (kind : Listener → Prop) (t : Tree) (w : World) : Prop
    extends Standing kind t.caches w where
  sound : t.Sound w.kept

variable {kind : Listener → Prop} {t : Tree} {call : Caller World} {w : World}

theorem Fresh.steady (h : Fresh kind t w) : Steady kind t w :=
  ⟨⟨h.heeds, coherent_of_cold h.cold⟩, h.sound⟩

namespace Steady

theorem read (call : Caller World) (feature : String) (hd : t.Distinct) (hw : Steady kind t w) :
    Steady kind t (((t.repository call).read feature).after w) :=
  ⟨hw.toStanding.read call feature hd,
    hw.sound.of_within (t.readOnly_read call feature w).toWithin⟩

theorem write (hq : call.Quiet kind) (hd : t.Distinct) (hw : Steady kind t w) (s : FeatureState) :
    Steady kind t (((t.repository call).write s).after w) :=
  ⟨preserves_write hq hd w hw.toStanding,
    hw.sound.of_within (confined_write (s := s) hq t w hw.heeds).1⟩

/-- A read is answered by what is kept. -/
theorem result_read (call : Caller World) (feature : String) (hd : t.Distinct)
    (hw : Steady kind t w) :
    ((t.repository call).read feature).result w = t.answer w.kept feature :=
  (read_of_coherent call feature hd.unambiguous (List.Subset.refl _) hw.coherent).1

/-- A read changes no answer. -/
theorem answer_read (feature other : String) :
    t.answer (((t.repository call).read feature).after w).kept other = t.answer w.kept other := by
  rw [(t.readOnly_read call feature w).kept]

/-- A write changes no answer for another feature. -/
theorem answer_write_of_ne (hq : call.Quiet kind) (hw : Steady kind t w) (s : FeatureState)
    {other : String} (ho : other ≠ s.feature) :
    t.answer (((t.repository call).write s).after w).kept other = t.answer w.kept other :=
  answer_congr fun id _ => (confined_write hq t w hw.heeds).1.store_answer id ho

/-- A write brings the state to the targets of the tree. -/
theorem reached_write (hq : call.Quiet kind) (hd : t.Distinct) (hw : Steady kind t w)
    (s : FeatureState) :
    ((t.repository call).write s).result w = .ok () ∧
      Reached s t w.kept (((t.repository call).write s).after w).kept := by
  obtain ⟨hok, hdel⟩ := write_of_sound (s := s) hq hd hw.toStanding hw.sound
  exact ⟨hok, hdel.reached (hw.write hq hd s).sound⟩

end Steady

end Tree

/-! ## Runs -/

namespace Manager

variable {m : Manager World} {t : Tree} {call : Caller World} {kind : Listener → Prop} {w : World}

/-- In a steady world a decision is that on the answer of the tree. -/
theorem result_isActiveFor_of_steady (hm : m.repository = t.repository call) (hd : t.Distinct)
    (hw : t.Steady kind w) (feature : String) (user : Option User) :
    (m.isActiveFor feature user).result w =
      match t.answer w.kept feature with
      | .error e => .error e
      | .ok state => m.verdict feature user state := by
  rw [result_isActiveFor, hm, hw.result_read call feature hd]

theorem steady_step (hm : m.repository = t.repository call) (hq : call.Quiet kind)
    (hd : t.Distinct) (hw : t.Steady kind w) (r : Request) : t.Steady kind (m.step w r) := by
  cases r with
  | setState s =>
    rw [step, setState, hm]
    exact hw.write hq hd s
  | state feature =>
    rw [step, after_state, hm]
    exact hw.read call feature hd
  | isActiveFor feature user =>
    rw [step, after_isActiveFor, hm]
    exact hw.read call feature hd
  | clear id => exact ⟨hw.toStanding.forget id, hw.sound⟩
  | wait nanoseconds => exact ⟨hw.toStanding.wait nanoseconds, hw.sound⟩

theorem steady_run (hm : m.repository = t.repository call) (hq : call.Quiet kind)
    (hd : t.Distinct) (hw : t.Steady kind w) (requests : List Request) :
    t.Steady kind (m.run w requests) := by
  induction requests generalizing w with
  | nil => exact hw
  | cons r rest ih => exact ih (steady_step hm hq hd hw r)

/-- Only a request that sets a state changes the answer for its feature. -/
theorem answer_step (hm : m.repository = t.repository call) (hq : call.Quiet kind)
    (hd : t.Distinct) (hthrough : t.WriteThrough) (hw : t.Steady kind w) (r : Request)
    {feature : String} {state : Option FeatureState}
    (hstate : t.answer w.kept feature = .ok state) :
    t.answer (m.step w r).kept feature = .ok ((r.sets feature).or state) := by
  cases r with
  | setState s =>
    rw [step, setState, hm]
    by_cases hs : s.feature = feature
    · subst hs
      have hanswer := hthrough.answer_of_reached hd (hw.reached_write hq hd s).2
      simpa [Request.sets] using hanswer
    · rw [Tree.Steady.answer_write_of_ne hq hw s (Ne.symm hs), hstate]
      simp [Request.sets, hs]
  | state other =>
    rw [step, after_state, hm, Tree.Steady.answer_read, hstate]
    rfl
  | isActiveFor other user =>
    rw [step, after_isActiveFor, hm, Tree.Steady.answer_read, hstate]
    rfl
  | clear id => exact hstate
  | wait nanoseconds => exact hstate

/-- After a run a tree that writes through answers the state that was set last. -/
theorem answer_run (hm : m.repository = t.repository call) (hq : call.Quiet kind)
    (hd : t.Distinct) (hthrough : t.WriteThrough) (hw : t.Steady kind w) (requests : List Request)
    {feature : String} {state : Option FeatureState}
    (hstate : t.answer w.kept feature = .ok state) :
    t.answer (m.run w requests).kept feature = .ok ((lastSet feature requests).or state) := by
  induction requests generalizing w state with
  | nil => exact hstate
  | cons r rest ih =>
    have hstep := answer_step hm hq hd hthrough hw r hstate
    have hrest := ih (steady_step hm hq hd hw r) hstep
    rw [lastSet, Option.or_assoc]
    exact hrest

/-- The decision after any run is that on the state set last, and no request to set one fails. -/
theorem isActiveFor_run (hm : m.repository = t.repository call) (hq : call.Quiet kind)
    (hd : t.Distinct) (hthrough : t.WriteThrough) (hw : t.Fresh kind w) :
    ∃ before : String → Option FeatureState,
      (∀ feature, (m.repository.read feature).result w = .ok (before feature)) ∧
        ∀ requests : List Request,
          (∀ s, (m.setState s).result (m.run w requests) = .ok ()) ∧
            ∀ feature user, (m.isActiveFor feature user).result (m.run w requests) =
              m.verdict feature user ((lastSet feature requests).or (before feature)) := by
  have hsteady := hw.steady
  choose before hbefore using fun feature => hw.sound.exists_answer feature
  refine ⟨before, fun feature => ?_, fun requests => ⟨fun s => ?_, fun feature user => ?_⟩⟩
  · rw [hm, hsteady.result_read call feature hd, hbefore]
  · rw [setState, hm]
    exact ((steady_run hm hq hd hsteady requests).reached_write hq hd s).1
  · have hrun := steady_run hm hq hd hsteady requests
    have hanswer := answer_run hm hq hd hthrough hsteady requests (hbefore feature)
    rw [result_isActiveFor_of_steady hm hd hrun, hanswer]

/-- A stack that writes through, with a shadowed store behind a cache of its own. -/
def layered : Tree :=
  .journal .standard <| .listenable 0 <| .cache 0 5 <|
    .composite .fifo .first [.store 0, .cache 1 0 (.composite .lifo .all [.store 1, .store 2])]

/-- The shadowed store has a state of the feature from the beginning. -/
def shadowed : World :=
  { World.restless with
    stores := fun id => .plain (if id = 1 then .ofList [.of "beta" false] else .empty) }

/-- A manager over `layered` with one strategy, which is for administrators. -/
def administered : Manager World where
  name := "default"
  features := .ofList [.of "beta"]
  repository := layered.repository (callListener fun _ => some layered)
  users := .anonymous
  strategies := Registry.empty.insert
    ⟨"admins", "Administrators", fun _ user => pure (user.any (·.featureAdmin)), []⟩

/-- Reads of the shadowed state, then another one that is set. -/
def rollout : List Request :=
  [.isActiveFor "beta" none, .setState ⟨"beta", true, some "admins", .empty⟩, .wait 7, .clear 1,
    .state "beta"]

theorem isActiveFor_rollout :
    layered.Distinct ∧ layered.WriteThrough ∧ layered.Fresh Listener.Silent shadowed ∧
      (administered.isActiveFor "beta" none).result
        (administered.run shadowed rollout) = .ok false ∧
      (administered.isActiveFor "beta" (some (.of "ada" true))).result
        (administered.run shadowed rollout) = .ok true := by
  have hq : (callListener fun _ => some layered).Quiet Listener.Silent := callListener_quiet _
  have hd : layered.Distinct := ⟨by decide, by decide⟩
  have hinner : (Tree.composite .lifo .all [.store 1, .store 2]).WriteThrough :=
    .composite (by decide) (.inl trivial) (by simp [Tree.WriteThrough.store])
  have hthrough : layered.WriteThrough :=
    .journal _ <| .listenable _ <| .cache _ _ <| .composite (by decide) (.inl trivial)
      (by simp [Tree.WriteThrough.store, Tree.WriteThrough.cache _ _ hinner])
  have hw : layered.Fresh Listener.Silent shadowed :=
    ⟨fun _ _ => ⟨rfl, rfl⟩, fun _ _ => rfl, World.heeds_restless⟩
  obtain ⟨before, -, hrun⟩ := isActiveFor_run (m := administered) rfl hq hd hthrough hw
  obtain ⟨-, hdecision⟩ := hrun rollout
  exact ⟨hd, hthrough, hw, hdecision "beta" none, hdecision "beta" (some (.of "ada" true))⟩

end Manager

end FeatureToggle
