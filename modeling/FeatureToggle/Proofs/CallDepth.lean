import FeatureToggle.Proofs.CacheErasure
import FeatureToggle.Proofs.Rosters
import Mathlib.Order.Filter.AtTopBot.Basic

/-!
# The depth of calls

Calls of listeners that lie in each other are followed to some depth only. If this was too little,
the trace says so. Otherwise nothing was left out, and the depth does not show: whatever requests are
served, every depth from some one on comes to the same (`eventually_serveAll_eq`). In particular a
call of a listener comes to the same at every greater depth (`run_react_of_le`).
-/
namespace FeatureToggle

open FeatureToggle.Action Repository Filter

/-- Whether the event tells that a call was not followed. -/
def Event.isCutOff : Event → Bool
  | .cutOff _ => true
  | _ => false

namespace Action

variable {σ α β : Type}

/-- Nothing was left out for want of depth. -/
def Complete (x : Action σ α) (w : σ) : Prop := ∀ e ∈ x.events w, e.isCutOff = false

instance (x : Action σ α) (w : σ) : Decidable (x.Complete w) :=
  inferInstanceAs (Decidable (∀ e ∈ x.events w, e.isCutOff = false))

theorem complete_bind {x : Action σ α} {f : α → Action σ β} {w : σ} :
    (x >>= f).Complete w ↔ x.Complete w ∧ (f (x.result w)).Complete (x.after w) := by
  rw [Complete, events_bind, List.forall_mem_append]
  rfl

/-- Wherever `x` is complete, `y n` comes to the same for all `n` from some point of a filter on. -/
def Settles (l : Filter Nat) (x : Action σ α) (y : Nat → Action σ α) : Prop :=
  ∀ w, x.Complete w → ∀ᶠ n in l, (y n).run w = x.run w

namespace Settles

variable {l : Filter Nat} {x : Action σ α} {y : Nat → Action σ α} {f : α → Action σ β}
  {g : Nat → α → Action σ β}

theorem refl (l : Filter Nat) (x : Action σ α) : Settles l x fun _ => x :=
  fun _ _ => .of_forall fun _ => rfl

theorem bind (hx : Settles l x y) (hf : ∀ a, Settles l (f a) fun n => g n a) :
    Settles l (x >>= f) fun n => y n >>= g n := by
  intro w hw
  obtain ⟨hfirst, hrest⟩ := complete_bind.1 hw
  -- Both parts settle, so they do together from the later of the two points on.
  filter_upwards [hx w hfirst, hf _ _ hrest] with n hy hg
  have hresult : (y n).result w = x.result w := congrArg (·.value.1) hy
  have hafter : (y n).after w = x.after w := congrArg (·.value.2) hy
  have hevents : (y n).events w = x.events w := congrArg Traced.events hy
  have hothers : (g n (x.result w)).events (x.after w) = (f (x.result w)).events (x.after w) :=
    congrArg Traced.events hg
  rw [run_bind, run_bind, hresult, hafter, hevents, hg, hothers]

end Settles

end Action

/-- Each request to the repository settles. -/
structure Repository.Settles {σ : Type} (l : Filter Nat) (x : Repository σ) (y : Nat → Repository σ) :
    Prop where
  read : ∀ feature, Action.Settles l (x.read feature) fun n => (y n).read feature
  write : ∀ s, Action.Settles l (x.write s) fun n => (y n).write s

/-- Each call of a listener settles. -/
def Caller.Settles {σ : Type} (l : Filter Nat) (call : Caller σ) (calls : Nat → Caller σ) : Prop :=
  ∀ r previous current,
    Action.Settles l (call r previous current) fun n => calls n r previous current

variable {σ ι : Type} {l : Filter Nat} {call : Caller σ} {calls : Nat → Caller σ} {feature : String}
  {s : FeatureState}

/-! ## Loops -/

theorem settles_notify (h : call.Settles l calls) (previous : Option FeatureState)
    (current : FeatureState) (rs : List Registration) :
    Action.Settles l (notify call previous current rs) fun n =>
      notify (calls n) previous current rs := by
  induction rs with
  | nil => exact .refl l _
  | cons r rest ih =>
    refine .bind (.refl l _) fun _ => ?_
    refine .bind (h r previous current) fun outcome => ?_
    exact .bind (.refl l _) fun _ => ih

section Delegates

variable {f : ι → Repository σ} {g : Nat → ι → Repository σ}

theorem settles_readFirst {items : List ι} (h : ∀ i ∈ items, (f i).Settles l fun n => g n i) :
    Action.Settles l (readFirst feature (items.map f)) fun n =>
      readFirst feature (items.map (g n)) := by
  induction items with
  | nil => exact .refl l _
  | cons i rest ih =>
    have hrest := ih fun j hj => h j (List.mem_cons_of_mem i hj)
    refine .bind ((h i List.mem_cons_self).read feature) fun answer => ?_
    match answer with
    | .ok none => exact hrest
    | .ok (some _) => exact .refl l _
    | .error _ => exact .refl l _

theorem settles_writeEach {items : List (ι × Nat)}
    (h : ∀ i ∈ items, (f i.1).Settles l fun n => g n i.1) :
    Action.Settles l (writeEach s (items.map (Prod.map f id))) fun n =>
      writeEach s (items.map (Prod.map (g n) id)) := by
  induction items with
  | nil => exact .refl l _
  | cons i rest ih =>
    have hrest := ih fun j hj => h j (List.mem_cons_of_mem i hj)
    refine .bind ((h i List.mem_cons_self).write s) fun answer => ?_
    match answer with
    | .ok () => exact hrest
    | .error e =>
      refine .bind (.refl l _) fun _ => ?_
      exact .bind hrest fun _ => .refl l _

end Delegates

/-! ## Repositories -/

namespace Repository.Settles

variable {inner : Repository σ} {inners : Nat → Repository σ}

theorem cached (slot : Slot σ Cache) (clock : σ → Nat) (ttl : Nat) (h : inner.Settles l inners) :
    (cached slot clock ttl inner).Settles l fun n => cached slot clock ttl (inners n) where
  read feature := by
    refine .bind (.refl l _) fun w => ?_
    cases (slot.get w).fresh? ttl (clock w) feature with
    | some entry => exact .refl l _
    | none =>
      refine .bind (.refl l _) fun _ => ?_
      refine .bind (h.read feature) fun answer => ?_
      exact .refl l _
  write s := .bind (h.write s) fun _ => .refl l _

theorem composite (order : ReadOrder) (target : WriteTarget) {f : ι → Repository σ}
    {g : Nat → ι → Repository σ} {items : List ι} (h : ∀ i ∈ items, (f i).Settles l fun n => g n i) :
    (composite order target (items.map f)).Settles l fun n =>
      composite order target (items.map (g n)) where
  read feature := by
    simp only [Repository.composite, ReadOrder.arrange_map]
    exact settles_readFirst fun i hi => h i ((order.mem_arrange items i).1 hi)
  write s := by
    simp only [Repository.composite, WriteTarget.select_map, List.length_map]
    have hloop : Action.Settles l (writeEach s ((target.select items).map (Prod.map f id))) fun n =>
        writeEach s ((target.select items).map (Prod.map (g n) id)) :=
      settles_writeEach fun i hi =>
        h i.1 (target.mem_of_mem_chosen (target.mem_chosen_of_mem_select hi))
    exact .bind hloop fun _ => .refl l _

theorem listenable (slot : Slot σ (List Registration)) (hcall : call.Settles l calls)
    (h : inner.Settles l inners) :
    (listenable slot call inner).Settles l fun n => listenable slot (calls n) (inners n) where
  read := h.read
  write s := by
    refine .bind (h.read s.feature) fun previous => ?_
    match previous with
    | .error e => exact .refl l _
    | .ok previous =>
      refine .bind (h.write s) fun answer => ?_
      match answer with
      | .error e => exact .refl l _
      | .ok () =>
        refine .bind (.refl l _) fun w => ?_
        exact .bind (settles_notify hcall previous s _) fun _ => .refl l _

theorem journaled (j : Journal) (h : inner.Settles l inners) :
    (journaled j inner).Settles l fun n => journaled j (inners n) where
  read := h.read
  write s := .bind (.refl l _) fun _ => h.write s

end Repository.Settles

namespace Tree

variable {call : Caller World} {calls : Nat → Caller World}

/-- If calls of listeners settle, so do requests to every tree. -/
theorem settles (h : call.Settles l calls) (t : Tree) :
    (t.repository call).Settles l fun n => t.repository (calls n) := by
  induction t with
  | store id => exact ⟨fun _ => .refl l _, fun _ => .refl l _⟩
  | cache id ttl inner ih => exact ih.cached (World.cache id) World.now ttl
  | composite order target ts ih =>
    simp only [repository, repositories_eq]
    exact .composite order target ih
  | listenable id inner ih => exact ih.listenable (World.listenersAt id) h
  | journal j inner ih => exact ih.journaled j

theorem settles_serve (h : call.Settles l calls) (t : Tree) (request : Request) :
    Action.Settles l (t.serve call request) fun n => t.serve (calls n) request := by
  cases request with
  | read feature => exact .bind ((t.settles h).read feature) fun _ => .refl l _
  | write s => exact .bind ((t.settles h).write s) fun _ => .refl l _
  | clear id => exact .refl l _
  | wait nanoseconds => exact .refl l _

theorem settles_serveAll (h : call.Settles l calls) (t : Tree) (requests : List Request) :
    Action.Settles l (t.serveAll call requests) fun n => t.serveAll (calls n) requests := by
  induction requests with
  | nil => exact .refl l _
  | cons r rest ih =>
    refine .bind (t.settles_serve h r) fun _ => ?_
    exact .bind ih fun _ => .refl l _

end Tree

/-! ## Calls of listeners -/

section React

variable {parts : String → Option Tree}

/-- With more depth a call comes to the same wherever it was complete. The induction is on how deep
calls can lie in each other. -/
theorem settles_react (l : Filter Nat) {depth more : Nat} (h : depth ≤ more) :
    (react parts depth).Settles l fun _ => react parts more := by
  induction depth generalizing more with
  | zero =>
    intro r previous current w hw
    rcases react_cases r previous current with hrun | ⟨_, _, u, -, -, hzero, -⟩
    · exact .of_forall fun _ => (hrun more w).trans (hrun 0 w).symm
    · -- Without any depth a write is cut off, so that no call that writes is complete.
      rw [hzero] at hw
      cases hw (.cutOff r.listener.name) List.mem_cons_self
  | succ depth ih =>
    obtain ⟨more, rfl⟩ := Nat.exists_eq_add_of_le' (Nat.le_trans (Nat.le_add_left 1 depth) h)
    intro r previous current
    rcases react_cases r previous current with hrun | ⟨_, feature, u, -, -, -, hsucc⟩
    · exact fun w _ => .of_forall fun _ => (hrun (more + 1) w).trans (hrun (depth + 1) w).symm
    · have hcalls := ih (Nat.le_of_succ_le_succ h)
      simp only [hsucc]
      exact .bind ((u.settles hcalls).write (.of feature current.enabled)) fun _ => .refl l _

variable {r : Registration} {previous : Option FeatureState} {current : FeatureState} {w : World}

theorem run_react_of_le {depth more : Nat} (h : depth ≤ more)
    (hw : (react parts depth r previous current).Complete w) :
    (react parts more r previous current).run w = (react parts depth r previous current).run w :=
  eventually_const.1 (settles_react atTop h r previous current w hw)

/-- Two depths at which a call is complete come to the same. -/
theorem run_react_eq {depth depth' : Nat} (h : (react parts depth r previous current).Complete w)
    (h' : (react parts depth' r previous current).Complete w) :
    (react parts depth r previous current).run w =
      (react parts depth' r previous current).run w := by
  rcases Nat.le_total depth depth' with hle | hle
  · exact (run_react_of_le hle h).symm
  · exact run_react_of_le hle h'

/-- Where a call is complete, it comes to the same at every depth from that of its world on. -/
theorem settles_callListener (parts : String → Option Tree) :
    (callListener parts).Settles atTop fun depth => react parts depth := by
  intro r previous current w hw
  filter_upwards [eventually_ge_atTop w.nesting] with depth hdepth
  exact run_react_of_le hdepth hw

end React

/-- If nothing was left out while requests were served, they come to the same at all but finitely
many depths. -/
theorem eventually_serveAll_eq (parts : String → Option Tree) (t : Tree)
    {requests : List Tree.Request} {w : World} (hw : (t.serveAll (callListener parts) requests).Complete w) :
    ∀ᶠ depth in atTop, (t.serveAll (react parts depth) requests).run w =
      (t.serveAll (callListener parts) requests).run w :=
  t.settles_serveAll (settles_callListener parts) requests w hw

/-- Of two listeners the first one writes a feature whenever another one changes. If the second one
does the same, the calls would go on for ever, and are cut off; if it fails, nothing is left out. -/
example :
    let root := Tree.listenable 0 (.store 0)
    let world (second : Reaction) : World :=
      (World.initial.register 0 ⟨"first", 0, true, .copy "root" "beta"⟩).register 0
        ⟨"second", 1, true, second⟩
    let write := (root.repository (callListener fun _ => some root)).write (.of "alpha" true)
    ¬ write.Complete (world (.copy "root" "alpha")) ∧ write.Complete (world .fail) := by
  decide +kernel

end FeatureToggle
