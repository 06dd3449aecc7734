import FeatureToggle.Storage.Store

/-!
# The contract of repositories

What whoever uses a repository may rely on, whatever it is made of: it stores one state for each
feature, reads give what is stored or fail, and a write replaces the state of its feature or fails
without a trace.
-/
namespace FeatureToggle

/-- The repository stores `stored w feature` for the feature in the world `w`. -/
structure Repository.Faithful {σ : Type} (r : Repository σ)
    (stored : σ → String → Option FeatureState) : Prop where
  stored_read : ∀ feature w, stored ((r.read feature).after w) = stored w
  eq_stored : ∀ feature w state, (r.read feature).result w = .ok state → state = stored w feature
  stored_write : ∀ s w, (r.write s).result w = .ok () →
    ∀ feature, stored ((r.write s).after w) feature =
      if s.feature = feature then some s else stored w feature
  stored_failed : ∀ s w e, (r.write s).result w = .error e → stored ((r.write s).after w) = stored w

/-- A store keeps the contract. -/
theorem Repository.faithful_store {σ : Type} (slot : Slot σ Store) :
    (Repository.store slot).Faithful fun w feature => (slot.get w).states.get? feature where
  stored_read feature w := by
    rw [after_store_read, slot.get_put]
  eq_stored feature w state h := by
    rw [result_store_read] at h
    unfold Store.answer at h
    split at h
    · cases h
    · exact (Except.ok.inj h).symm
  stored_write s w h feature := by
    rw [result_store_write] at h
    rw [after_store_write, slot.get_put]
    unfold Store.confirmation at h
    split at h
    · cases h
    · next hfails =>
      rw [Store.written, if_neg hfails]
      exact States.get?_put _ s feature
  stored_failed s w e h := by
    rw [result_store_write] at h
    rw [after_store_write, slot.get_put]
    unfold Store.confirmation at h
    split at h
    · next hfails => rw [Store.written, if_pos hfails]
    · cases h

end FeatureToggle
