import FeatureToggle.Proofs.Decisions

/-!
# Writing back what was read

To write what a manager gave as the state of a feature changes no decision, whatever composites
select for reading and for writing. The state may come to a store that is shadowed, or to one that
shadows the store it was read from; the answer of the tree is the written state in any case. A state
that was made from the declared default becomes a stored one, on which the decision is the same.
-/
namespace FeatureToggle.Manager

open FeatureToggle.Action Repository

variable {m : Manager World} {t : Tree} {call : Caller World} {kind : Listener → Prop} {w : World}

/-- The state that stands for the declared default calls for the declared default. -/
theorem verdict_of_declaredDefault {σ : Type} (m : Manager σ) (feature : String)
    (user : Option User) :
    m.verdict feature user (some (.of feature (m.declaredDefault feature))) =
      m.verdict feature user none := by
  rw [verdict_none]
  unfold verdict FeatureState.of
  cases m.declaredDefault feature with
  | false => rfl
  | true => rfl

/-- What a manager gives as the state of a feature is stored, or is made from the declared default.
-/
theorem exists_result_state (hm : m.repository = t.repository call) (hd : t.Distinct)
    (hw : t.Steady kind w) (feature : String) :
    ∃ s : FeatureState, s.feature = feature ∧ (m.state feature).result w = .ok s ∧
      (t.answer w.kept feature = .ok (some s) ∨
        t.answer w.kept feature = .ok none ∧
          s = .of feature (m.declaredDefault feature)) := by
  obtain ⟨state, hanswer⟩ := hw.sound.exists_answer feature
  have hread := hw.result_read call feature hd
  rw [hanswer] at hread
  match state with
  | none =>
    refine ⟨_, rfl, ?_, .inr ⟨hanswer, rfl⟩⟩
    rw [result_state, hm, hread]
    rfl
  | some s =>
    refine ⟨s, Tree.feature_of_answer hanswer, ?_, .inl hanswer⟩
    rw [result_state, hm, hread]
    rfl

/-- In a steady world, what was read and is written back is answered from then on, and nothing else
changes. -/
theorem answer_of_written_back (hm : m.repository = t.repository call) (hq : call.Quiet kind)
    (hd : t.Distinct) (hp : t.Populated) (hw : t.Steady kind w) {s : FeatureState}
    (hs : t.answer w.kept s.feature = .ok none ∨ t.answer w.kept s.feature = .ok (some s)) :
    (m.setState s).result w = .ok () ∧
      t.answer (m.step w (.setState s)).kept s.feature = .ok (some s) ∧
      ∀ other, other ≠ s.feature →
        t.answer (m.step w (.setState s)).kept other = t.answer w.kept other := by
  rw [step, setState, hm]
  obtain ⟨hok, hreached⟩ := hw.reached_write hq hd s
  exact ⟨hok, Tree.answer_of_reached hp hd hreached hs,
    fun other ho => Tree.Steady.answer_write_of_ne hq hw s ho⟩

/-- In a steady world, what a manager gives as the state of a feature can be set, is stored and
given again from then on, and no decision changes. -/
theorem written_back (hm : m.repository = t.repository call) (hq : call.Quiet kind)
    (hd : t.Distinct) (hp : t.Populated) (hw : t.Steady kind w) (feature : String) :
    ∃ s : FeatureState, (m.state feature).result w = .ok s ∧
      ((m.repository.read feature).result w = .ok none →
        s = .of feature (m.declaredDefault feature)) ∧
      (m.setState s).result (m.step w (.state feature)) = .ok () ∧
      (m.repository.read feature).result (m.run w [.state feature, .setState s]) = .ok (some s) ∧
      (m.state feature).result (m.run w [.state feature, .setState s]) = .ok s ∧
      ∀ other user, (m.isActiveFor other user).result (m.run w [.state feature, .setState s]) =
        (m.isActiveFor other user).result w := by
  obtain ⟨s, rfl, hstate, hs⟩ := exists_result_state hm hd hw feature
  have hkept : (m.step w (.state s.feature)).kept = w.kept := by
    rw [step, after_state, hm]
    exact (t.readOnly_read call s.feature w).kept
  have hsteady := steady_step hm hq hd hw (.state s.feature)
  have hfinal := steady_step hm hq hd hsteady (.setState s)
  obtain ⟨hok, hwritten, hothers⟩ := answer_of_written_back hm hq hd hp hsteady (s := s)
    (by rw [hkept]; exact hs.elim .inr fun h => .inl h.1)
  have hread : (m.repository.read s.feature).result (m.run w [.state s.feature, .setState s]) =
      .ok (some s) := by
    rw [hm, ← hwritten]
    exact hfinal.result_read call s.feature hd
  refine ⟨s, hstate, fun hnone => ?_, hok, hread, ?_, fun other user => ?_⟩
  · rw [hm, hw.result_read call _ hd] at hnone
    rcases hs with hs | ⟨-, hdefault⟩
    · simp [hs] at hnone
    · exact hdefault
  · rw [result_state, hread]
    rfl
  · have hafter := result_isActiveFor_of_steady hm hd hfinal other user
    rw [result_isActiveFor_of_steady hm hd hw]
    refine Eq.trans hafter ?_
    by_cases ho : other = s.feature
    · subst ho
      rw [hwritten]
      rcases hs with hs | ⟨hs, hdefault⟩
      · rw [hs]
      · rw [hs, hdefault]
        exact m.verdict_of_declaredDefault _ user
    · rw [hothers other ho, hkept]

/-- After any run, the state that a manager gives for a feature can be set without any decision
being changed. It is then stored, and given again, even if it stands for the declared default only.
-/
theorem setState_state (hm : m.repository = t.repository call) (hq : call.Quiet kind)
    (hd : t.Distinct) (hp : t.Populated) (hw : t.Fresh kind w) (requests : List Request)
    (feature : String) :
    ∃ s : FeatureState, (m.state feature).result (m.run w requests) = .ok s ∧
      ((m.repository.read feature).result (m.run w requests) = .ok none →
        s = .of feature (m.declaredDefault feature)) ∧
      (m.setState s).result (m.run w (requests ++ [.state feature])) = .ok () ∧
      (m.repository.read feature).result
        (m.run w (requests ++ [.state feature, .setState s])) = .ok (some s) ∧
      (m.state feature).result (m.run w (requests ++ [.state feature, .setState s])) = .ok s ∧
      ∀ other user,
        (m.isActiveFor other user).result
            (m.run w (requests ++ [.state feature, .setState s])) =
          (m.isActiveFor other user).result (m.run w requests) := by
  have hrun := steady_run hm hq hd hw.steady requests
  obtain ⟨s, hback⟩ := written_back hm hq hd hp hrun feature
  refine ⟨s, ?_⟩
  rw [run_append, run_append]
  exact hback

/-- What is written comes to a store that others shadow, within and without. -/
def buried : Tree :=
  .listenable 0 <| .cache 0 0 <|
    .composite .fifo .last [.store 0, .cache 1 5 (.composite .lifo .first [.store 1, .store 2])]

/-- A manager over `buried` with a feature that is enabled by default. -/
def enabling : Manager World :=
  { administered with
    features := .ofList [(Feature.of "alpha").enabledByDefault true]
    repository := buried.repository (callListener fun _ => some buried) }

theorem setState_state_default :
    buried.Distinct ∧ buried.Populated ∧ buried.Fresh Listener.Silent shadowed ∧
      (enabling.repository.read "alpha").result
        (enabling.run shadowed [.isActiveFor "alpha" none, .wait 7, .state "alpha",
          .setState (.of "alpha" true)]) = .ok (some (.of "alpha" true)) ∧
      (enabling.isActiveFor "beta" none).result
        (enabling.run shadowed [.isActiveFor "alpha" none, .wait 7, .state "alpha",
          .setState (.of "alpha" true)]) = .ok false := by
  have hq : (callListener fun _ => some buried).Quiet Listener.Silent := callListener_quiet _
  have hd : buried.Distinct := ⟨by decide, by decide⟩
  have hinner : (Tree.composite .lifo .first [.store 1, .store 2]).Populated :=
    .composite _ _ (by decide) (by simp [Tree.Populated.store])
  have hp : buried.Populated :=
    .listenable _ <| .cache _ _ <| .composite _ _ (by decide)
      (by simp [Tree.Populated.store, Tree.Populated.cache _ _ hinner])
  have hw : buried.Fresh Listener.Silent shadowed :=
    ⟨fun _ _ => ⟨rfl, rfl⟩, fun _ _ => rfl, World.heeds_restless⟩
  obtain ⟨s, hstate, -, -, hread, -, hdecision⟩ := setState_state (m := enabling) rfl hq hd hp hw
    [.isActiveFor "alpha" none, .wait 7] "alpha"
  obtain rfl : FeatureState.of "alpha" true = s := Except.ok.inj hstate
  exact ⟨hd, hp, hw, hread, hdecision "beta" none⟩

end FeatureToggle.Manager
