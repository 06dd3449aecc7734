import FeatureToggle.Proofs.Actions
import FeatureToggle.Storage.Composite
import Mathlib.Data.List.TakeDrop

/-!
# The delegates of a composite

Which delegates a composite reads and writes depends on their number only, so that selection
commutes with every function on delegates. What holds along each single request holds along the
loops over the selected delegates, and loops run side by side as the single requests do.
-/
namespace FeatureToggle

/-! ## Selection -/

@[simp] theorem ReadOrder.mem_arrange {α : Type} (order : ReadOrder) (items : List α) (a : α) :
    a ∈ order.arrange items ↔ a ∈ items := by
  cases order <;> simp [arrange]

theorem ReadOrder.arrange_map {α β : Type} (order : ReadOrder) (f : α → β) (items : List α) :
    order.arrange (items.map f) = (order.arrange items).map f := by
  cases order <;> simp [arrange]

namespace WriteTarget

variable {α β : Type} (target : WriteTarget)

theorem select_map (f : α → β) (items : List α) :
    target.select (items.map f) = (target.select items).map (Prod.map f id) := by
  have h : (items.map f).zipIdx = items.zipIdx.map (Prod.map f id) := List.zipIdx_map
  cases target with
  | first => simp only [select, h, List.map_take]
  | last => simp only [select, h, List.map_drop, List.length_map]
  | all => exact h

/-- The selected delegates without their positions. -/
def chosen (items : List α) : List α := (target.select items).map Prod.fst

theorem chosen_eq (items : List α) :
    target.chosen items = match target with
      | first => items.take 1
      | last => items.drop (items.length - 1)
      | all => items := by
  cases target <;> simp [chosen, select, List.map_take, List.map_drop]

theorem chosen_map (f : α → β) (items : List α) :
    target.chosen (items.map f) = (target.chosen items).map f := by
  simp [chosen, select_map, Function.comp_def]

theorem chosen_sublist (items : List α) : (target.chosen items).Sublist items := by
  rw [chosen_eq]
  cases target with
  | first => exact List.take_sublist _ _
  | last => exact List.drop_sublist _ _
  | all => exact List.Sublist.refl _

theorem mem_of_mem_chosen {items : List α} {a : α} (h : a ∈ target.chosen items) : a ∈ items :=
  (target.chosen_sublist items).subset h

theorem mem_chosen_of_mem_select {items : List α} {p : α × Nat} (h : p ∈ target.select items) :
    p.1 ∈ target.chosen items := List.mem_map_of_mem h

theorem exists_mem_chosen {items : List α} (h : items ≠ []) : ∃ a, a ∈ target.chosen items := by
  rw [chosen_eq]
  cases target with
  | first =>
    obtain ⟨a, rest, rfl⟩ := List.exists_cons_of_ne_nil h
    exact ⟨a, by simp⟩
  | last => exact ⟨items.getLast h, by simp [List.drop_length_sub_one h]⟩
  | all => exact List.exists_mem_of_ne_nil items h

/-- Of a single delegate there is no choice. -/
theorem chosen_singleton (a : α) : target.chosen [a] = [a] := by
  cases target <;> rfl

end WriteTarget

namespace Repository

open FeatureToggle.Action

variable {σ : Type} {feature : String} {state : FeatureState}

/-! ## Before and after -/

section Leaves

variable {T : σ → List Event → σ → Prop} [Tracing T]

theorem leaves_readFirst {delegates : List (Repository σ)}
    (h : ∀ d ∈ delegates, Leaves T (d.read feature)) : Leaves T (readFirst feature delegates) := by
  induction delegates with
  | nil => exact Leaves.pure _
  | cons d rest ih =>
    refine Leaves.bind (h d (by simp)) fun answer => ?_
    split
    · exact ih fun d' hd' => h d' (by simp [hd'])
    · exact Leaves.pure _

theorem leaves_writeEach {delegates : List (Repository σ × Nat)}
    (h : ∀ d ∈ delegates, Leaves T (d.1.write state)) : Leaves T (writeEach state delegates) := by
  induction delegates with
  | nil => exact Leaves.pure _
  | cons d rest ih =>
    have hrest := ih fun d' hd' => h d' (by simp [hd'])
    refine Leaves.bind (h d (by simp)) fun answer => ?_
    split
    · exact hrest
    · refine Leaves.bind (Leaves.log _) fun _ => ?_
      exact Leaves.bind hrest fun _ => Leaves.pure _

theorem leaves_composite_write (order : ReadOrder) {target : WriteTarget}
    {delegates : List (Repository σ)}
    (h : ∀ d ∈ target.chosen delegates, Leaves T (d.write state)) :
    Leaves T ((composite order target delegates).write state) := by
  have hloop : Leaves T (writeEach state (target.select delegates)) :=
    leaves_writeEach fun d hd => h d.1 (target.mem_chosen_of_mem_select hd)
  refine Leaves.bind hloop fun failures => ?_
  split
  · exact Leaves.pure _
  · exact Leaves.pure _

end Leaves

section Keeps

variable {P : σ → σ → Prop} [IsPreorder σ P]

theorem keeps_readFirst {delegates : List (Repository σ)}
    (h : ∀ d ∈ delegates, Keeps P (d.read feature)) : Keeps P (readFirst feature delegates) :=
  leaves_readFirst (T := fun w _ v => P w v) h

theorem keeps_composite_write (order : ReadOrder) {target : WriteTarget}
    {delegates : List (Repository σ)}
    (h : ∀ d ∈ target.chosen delegates, Keeps P (d.write state)) :
    Keeps P ((composite order target delegates).write state) :=
  leaves_composite_write (T := fun w _ v => P w v) order h

end Keeps

/-! ## Side by side -/

section Parallel

variable {R : σ → σ → Prop} {E : List Event → List Event → Prop} [Matching E] {ι : Type}
  {f g : ι → Repository σ}

theorem parallel_readFirst {items : List ι}
    (h : ∀ i ∈ items, Parallel R E ((f i).read feature) ((g i).read feature)) :
    Parallel R E (readFirst feature (items.map f)) (readFirst feature (items.map g)) := by
  induction items with
  | nil => exact Parallel.pure _
  | cons i rest ih =>
    have hrest := ih fun j hj => h j (by simp [hj])
    refine Parallel.bind (h i (by simp)) fun answer => ?_
    match answer with
    | .ok none => exact hrest
    | .ok (some s) => exact Parallel.pure _
    | .error e => exact Parallel.pure _

theorem parallel_writeEach {items : List (ι × Nat)}
    (h : ∀ i ∈ items, Parallel R E ((f i.1).write state) ((g i.1).write state)) :
    Parallel R E (writeEach state (items.map (Prod.map f id)))
      (writeEach state (items.map (Prod.map g id))) := by
  induction items with
  | nil => exact Parallel.pure _
  | cons i rest ih =>
    have hrest := ih fun j hj => h j (by simp [hj])
    refine Parallel.bind (h i (by simp)) fun answer => ?_
    match answer with
    | .ok () => exact hrest
    | .error e =>
      refine Parallel.bind (Parallel.log _) fun _ => ?_
      exact Parallel.bind hrest fun _ => Parallel.pure _

theorem parallel_composite_read (order : ReadOrder) (target : WriteTarget) {items : List ι}
    (h : ∀ i ∈ items, Parallel R E ((f i).read feature) ((g i).read feature)) :
    Parallel R E ((composite order target (items.map f)).read feature)
      ((composite order target (items.map g)).read feature) := by
  simp only [composite, ReadOrder.arrange_map]
  exact parallel_readFirst fun i hi => h i ((order.mem_arrange items i).1 hi)

theorem parallel_composite_write (order : ReadOrder) (target : WriteTarget) {items : List ι}
    (h : ∀ i ∈ items, Parallel R E ((f i).write state) ((g i).write state)) :
    Parallel R E ((composite order target (items.map f)).write state)
      ((composite order target (items.map g)).write state) := by
  simp only [composite, WriteTarget.select_map, List.length_map]
  have hloop : Parallel R E (writeEach state ((target.select items).map (Prod.map f id)))
      (writeEach state ((target.select items).map (Prod.map g id))) :=
    parallel_writeEach fun i hi =>
      h i.1 (target.mem_of_mem_chosen (target.mem_chosen_of_mem_select hi))
  refine Parallel.bind hloop fun failures => ?_
  match failures with
  | [] => exact Parallel.pure _
  | _ :: _ => exact Parallel.pure _

end Parallel

section Mirrors

variable {R : σ → σ → Prop} {ι : Type} {f g : ι → Repository σ}

theorem mirrors_composite_read (order : ReadOrder) (target : WriteTarget) {items : List ι}
    (h : ∀ i ∈ items, Mirrors R ((f i).read feature) ((g i).read feature)) :
    Mirrors R ((composite order target (items.map f)).read feature)
      ((composite order target (items.map g)).read feature) :=
  mirrors_iff.2 (parallel_composite_read order target fun i hi => mirrors_iff.1 (h i hi))

theorem mirrors_composite_write (order : ReadOrder) (target : WriteTarget) {items : List ι}
    (h : ∀ i ∈ items, Mirrors R ((f i).write state) ((g i).write state)) :
    Mirrors R ((composite order target (items.map f)).write state)
      ((composite order target (items.map g)).write state) :=
  mirrors_iff.2 (parallel_composite_write order target fun i hi => mirrors_iff.1 (h i hi))

end Mirrors

/-! ## Answers -/

/-- The first answer that is not absence, of answers that are known beforehand. -/
def firstPresent : List (Except Error (Option FeatureState)) → Except Error (Option FeatureState)
  | [] => .ok none
  | .ok none :: rest => firstPresent rest
  | answer :: _ => answer

/-- While an invariant fixes the answer of every delegate, a search gives the first one present. -/
theorem result_readFirst {I : σ → Prop} {ι : Type} {f : ι → Repository σ}
    {answer : ι → Except Error (Option FeatureState)} {items : List ι}
    (h : ∀ i ∈ items, ∀ w, I w → ((f i).read feature).result w = answer i ∧
      I (((f i).read feature).after w)) {w : σ} (hw : I w) :
    (readFirst feature (items.map f)).result w = firstPresent (items.map answer) ∧
      I ((readFirst feature (items.map f)).after w) := by
  induction items generalizing w with
  | nil => exact ⟨rfl, hw⟩
  | cons i rest ih =>
    obtain ⟨hresult, hI⟩ := h i (by simp) w hw
    have hrest := ih (fun j hj => h j (by simp [hj])) hI
    rw [List.map_cons, List.map_cons, readFirst, Action.result_bind, Action.after_bind, hresult]
    rcases answer i with e | _ | s
    · exact ⟨rfl, hI⟩
    · exact hrest
    · exact ⟨rfl, hI⟩

end Repository

end FeatureToggle
