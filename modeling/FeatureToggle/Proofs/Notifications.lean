import FeatureToggle.Proofs.Rosters

/-!
# Notifications

A write that succeeded is told to those who were registered at that moment, to each of them once, in
the order of the roster, and with what was read before. What becomes of a call, or what a listener
does meanwhile, makes no difference to the others: failures leave one record each, and whoever joins
waits for the next write, to be called in the right place (`announces_write`).
-/
namespace FeatureToggle

open FeatureToggle.Action Repository

/-! ## What is left of a call -/

/-- The records that an outcome leaves. -/
def Outcome.report (r : Registration) (feature : String) : Outcome → List LogRecord
  | .done => []
  | .failed reason => [.listenerFailed r.priority feature reason]
  | .panicked => [.listenerPanicked r.priority feature]

/-- The text that tells what became of a call: it names the listener's priority, the feature, and the
reason if one was given. -/
def Outcome.complaint (priority : Int) (feature : String) : Outcome → Option String
  | .done => none
  | .failed reason => some ("listener (priority " ++ toString priority ++ ") failed for feature " ++
      feature ++ ": " ++ reason)
  | .panicked =>
    some ("listener (priority " ++ toString priority ++ ") panicked for feature " ++ feature)

/-- Whatever is not done leaves one record, an error with the text that tells it. -/
theorem Outcome.report_of_ne_done {o : Outcome} (h : o ≠ .done) (r : Registration)
    (feature : String) : ∃ record : LogRecord, o.report r feature = [record] ∧
      record.level = .error ∧ o.complaint r.priority feature = some record.text := by
  cases o with
  | done => exact absurd rfl h
  | failed reason => exact ⟨_, rfl, rfl, rfl⟩
  | panicked => exact ⟨_, rfl, rfl, rfl⟩

variable {σ : Type} {slot : Slot σ (List Registration)} {I : σ → Prop} {call : Caller σ}
  {inner : Repository σ} {previous : Option FeatureState} {s : FeatureState} {w : σ}

theorem run_logOutcome (r : Registration) (feature : String) (o : Outcome) (w : σ) :
    (logOutcome r feature o : Action σ Unit).run w =
      ⟨((), w), (o.report r feature).map .logged⟩ := by
  cases o with
  | done => rfl
  | failed reason => rfl
  | panicked => rfl

theorem after_logOutcome (r : Registration) (feature : String) (o : Outcome) (w : σ) :
    (logOutcome r feature o : Action σ Unit).after w = w := by
  rw [Action.after, run_logOutcome]

theorem events_logOutcome (r : Registration) (feature : String) (o : Outcome) (w : σ) :
    (logOutcome r feature o : Action σ Unit).events w = (o.report r feature).map .logged := by
  rw [Action.events, run_logOutcome]

/-- Listeners are called one after the other, each of them with `previous` and `current`, and
nothing happens besides but that what became of a call is reported before the next one: `calls` are
the listeners with the outcomes, `events` what happened, and the world becomes the last one. -/
inductive Told (call : Caller σ) (previous : Option FeatureState) (current : FeatureState) :
    σ → List (Registration × Outcome) → List Event → σ → Prop
  | done (w : σ) : Told call previous current w [] [] w
  | call {w v : σ} {r : Registration} {o : Outcome} {calls : List (Registration × Outcome)}
      {events : List Event} :
      (call r previous current).result w = o →
      Told call previous current ((call r previous current).after w) calls events v →
      Told call previous current w ((r, o) :: calls)
        (.notified r.listener.name previous current :: ((call r previous current).events w ++
          ((o.report r current.feature).map .logged ++ events))) v

/-- The loop calls every listener of the list that it is given. -/
theorem told_notify (call : Caller σ) (previous : Option FeatureState) (current : FeatureState)
    (rs : List Registration) (w : σ) :
    ∃ calls, Told call previous current w calls ((notify call previous current rs).events w)
        ((notify call previous current rs).after w) ∧ calls.map Prod.fst = rs := by
  induction rs generalizing w with
  | nil => exact ⟨[], .done w, rfl⟩
  | cons r rest ih =>
    obtain ⟨calls, htold, hcalls⟩ := ih ((call r previous current).after w)
    refine ⟨(r, (call r previous current).result w) :: calls, ?_, congrArg (r :: ·) hcalls⟩
    simp only [notify, Action.events_bind, Action.after_bind, Action.events_note, Action.after_note,
      after_logOutcome, events_logOutcome]
    exact .call rfl htold

/-- Whatever the listeners do, the list grows while they are told. -/
theorem Additive.grows_notify (h : Additive slot I call inner) (previous : Option FeatureState)
    (current : FeatureState) (rs : List Registration) :
    Keeps (slot.Grows I) (notify call previous current rs) :=
  keeps_notify fun r _ => h.call r previous current

/-! ## Writes that are told -/

/-- The previous state was read and the new one was written, so that listeners are to be told. -/
structure Repository.Succeeds (inner : Repository σ) (s : FeatureState) (previous : Option FeatureState)
    (w : σ) : Prop where
  read : (inner.read s.feature).result w = .ok previous
  write : (inner.write s).result ((inner.read s.feature).after w) = .ok ()

theorem Repository.succeeds_store {slot : Slot σ Store} (h : (slot.get w).Sound)
    (hprevious : (slot.get w).states.get? s.feature = previous) :
    Succeeds (store slot) s previous w where
  read := by
    rw [result_store_read, h.answer, hprevious]
  write := by
    rw [result_store_write, after_store_read, Slot.get_put, Store.confirmation, h.writes]
    rfl

/-- The world after a write, before anybody is told of it. -/
def Repository.settled (inner : Repository σ) (s : FeatureState) (w : σ) : σ :=
  (inner.write s).after ((inner.read s.feature).after w)

/-- A write that succeeded was told to those in `calls`, with what became of each call. -/
structure Announced (slot : Slot σ (List Registration)) (call : Caller σ) (inner : Repository σ)
    (s : FeatureState) (previous : Option FeatureState) (w : σ)
    (calls : List (Registration × Outcome)) : Prop where
  ok : ((listenable slot call inner).write s).result w = .ok ()
  /-- After the requests to the repository behind there is nothing but the calls. -/
  told : ∃ telling, ((listenable slot call inner).write s).events w =
      (inner.read s.feature).events w ++
        ((inner.write s).events ((inner.read s.feature).after w) ++ telling) ∧
    Told call previous s (settled inner s w) calls telling
      (((listenable slot call inner).write s).after w)
  /-- Those are called who are registered when the telling begins, and nobody else. -/
  roster : calls.map Prod.fst = slot.get (settled inner s w)
  /-- Among them are all who were registered before the write. -/
  present : (slot.get w).Sublist (calls.map Prod.fst)
  ordered : (calls.map Prod.fst).Pairwise Registration.Before
  once : (calls.map Prod.fst).Nodup
  reported : ∀ c ∈ calls, c.2 ≠ .done → ∃ record : LogRecord, c.2.report c.1 s.feature = [record] ∧
    record.level = .error ∧ c.2.complaint c.1.priority s.feature = some record.text

theorem Additive.grows_settled (h : Additive slot I call inner) (s : FeatureState) (w : σ) :
    slot.Grows I w (settled inner s w) :=
  trans_of (slot.Grows I) (h.read s.feature w) (h.write s _)

theorem exists_announced (h : Additive slot I call inner) (hw : I w)
    (hroster : Joined [] (slot.get w)) (hs : Succeeds inner s previous w) :
    ∃ calls, Announced slot call inner s previous w calls := by
  have hrun : ((listenable slot call inner).write s).run w = _ :=
    run_listenable_write_of_ok hs.read hs.write
  let telling := notify call previous s (slot.get (settled inner s w))
  obtain ⟨calls, htold, hcalls⟩ :=
    told_notify call previous s (slot.get (settled inner s w)) (settled inner s w)
  obtain ⟨-, hjoined⟩ := h.grows_settled s w hw
  have hordered : (calls.map Prod.fst).Pairwise Registration.Before := by
    rw [hcalls]
    exact (hroster.trans hjoined).pairwise_before .nil
  refine ⟨calls, ?_, ⟨telling.events (settled inner s w), ?_, ?_⟩, hcalls, ?_, hordered, ?_, ?_⟩
  · rw [Action.result, hrun]
  · rw [Action.events, hrun]
    rfl
  · rw [Action.after, hrun]
    exact htold
  · rw [hcalls]
    exact hjoined.sublist
  · exact hordered.imp fun hbefore => hbefore.ne
  · exact fun c _ hc => Outcome.report_of_ne_done hc c.1 s.feature

theorem Additive.grows_write (h : Additive slot I call inner) (s : FeatureState) :
    Keeps (slot.Grows I) ((listenable slot call inner).write s) :=
  keeps_listenable_write (h.read s.feature) (h.write s) fun previous w =>
    h.grows_notify previous s (slot.get w) w

/-- What a write through a listenable repository comes to. -/
structure Informs (slot : Slot σ (List Registration)) (call : Caller σ) (inner : Repository σ)
    (s : FeatureState) (w : σ) : Prop where
  /-- If the previous state cannot be read, there is nothing but the attempt. -/
  unread : ∀ e, (inner.read s.feature).result w = .error e →
    ((listenable slot call inner).write s).run w =
      ⟨(.error e, (inner.read s.feature).after w), (inner.read s.feature).events w⟩
  /-- If the write fails, there is nothing but both attempts. -/
  unwritten : ∀ previous e, (inner.read s.feature).result w = .ok previous →
    (inner.write s).result ((inner.read s.feature).after w) = .error e →
    ((listenable slot call inner).write s).run w =
      ⟨(.error e, settled inner s w), (inner.read s.feature).events w ++
        (inner.write s).events ((inner.read s.feature).after w)⟩
  /-- Else the listeners are told, and those who join meanwhile have to wait for the next write. -/
  announced : ∀ previous, Succeeds inner s previous w →
    ∃ calls, Announced slot call inner s previous w calls ∧
      ∀ v, ((listenable slot call inner).write s).after w = v →
        ∀ r, Entered r (slot.get (settled inner s w)) (slot.get v) → r ∉ calls.map Prod.fst ∧
          ∀ s' previous', Succeeds inner s' previous' v →
            ∃ calls', Announced slot call inner s' previous' v calls' ∧ r ∈ calls'.map Prod.fst

/-- A listenable repository informs its listeners of every write, whether requests to the repository
behind it fail or not, and whatever listeners do: fail, panic, register others, or write. -/
theorem informs_write (h : Additive slot I call inner) (hw : I w)
    (hroster : Joined [] (slot.get w)) (s : FeatureState) : Informs slot call inner s w where
  unread e he := run_listenable_write_of_read_error he
  unwritten previous e hread he := run_listenable_write_of_write_error hread he
  announced previous hs := by
    obtain ⟨calls, hcalls⟩ := exists_announced h hw hroster hs
    refine ⟨calls, hcalls, fun v hv r hr => ⟨?_, fun s' previous' hs' => ?_⟩⟩
    · rw [hcalls.roster]
      exact hr.not_mem
    · obtain ⟨hI, hjoined⟩ := hv ▸ h.grows_write s w hw
      obtain ⟨calls', hcalls'⟩ := exists_announced h hI (hroster.trans hjoined) hs'
      exact ⟨calls', hcalls', hcalls'.present.subset hr.mem⟩

/-- A world with a listener that writes another feature to where it is registered, one that fails,
one that panics, and one that brings in another listener, to be called first of all. -/
def World.crowded : World :=
  [⟨"copying", 2, true, .copy "root" "beta"⟩, ⟨"failing", 0, true, .fail⟩,
    ⟨"panicking", 0, true, .panic⟩,
    ⟨"inviting", 1, true, .register "root" "late" (-1) true .nothing⟩].foldl
      (fun w l => w.register 0 l) .initial

theorem informs_write_crowded :
    let root := Tree.listenable 0 (.store 0)
    let call := callListener fun _ => some root
    let slot := World.listenersAt 0
    let inner := (Tree.store 0).repository call
    let first : FeatureState := .of "alpha" true
    let v := ((listenable slot call inner).write first).after World.crowded
    World.crowded.Numbered ∧ Joined [] (slot.get World.crowded) ∧
      ∃ calls, Announced slot call inner first none World.crowded calls ∧
        calls.map (·.1.listener.name) = ["failing", "panicking", "inviting", "copying"] ∧
        ∃ calls', Announced slot call inner (.of "alpha" false) (some first) v calls' ∧
          calls'.map (·.1.listener.name) =
            ["late", "failing", "panicking", "inviting", "copying"] := by
  intro root call slot inner first v
  have hempty : World.initial.Numbered := fun _ r hr => absurd hr List.not_mem_nil
  have hgrows : slot.Grows World.Numbered World.initial World.crowded :=
    grows_foldl_register 0 0 _ World.initial
  obtain ⟨hw, hroster⟩ := hgrows hempty
  have hadditive : Additive slot World.Numbered call inner :=
    Additive.of_tree 0 (fun _ => some root) (.store 0)
  have hnames (calls : List (Registration × Outcome)) :
      calls.map (·.1.listener.name) = (calls.map Prod.fst).map (·.listener.name) := by simp
  let late : Registration := ⟨4, ⟨"late", -1, true, .nothing⟩⟩
  have hlate : insertRegistration late (slot.get (settled inner first World.crowded)) =
      slot.get v := by decide +kernel
  have hnew : ∀ x ∈ slot.get (settled inner first World.crowded), x.serial < late.serial := by
    decide +kernel
  have hentered : Entered late (slot.get (settled inner first World.crowded)) (slot.get v) := by
    refine ⟨_, .refl, hnew, ?_⟩
    rw [hlate]
    exact .refl
  have hs : Succeeds inner first none World.crowded := ⟨rfl, rfl⟩
  obtain ⟨calls, hcalls, hnext⟩ := (informs_write hadditive hw hroster first).announced none hs
  have hsound : ((World.store 0).get v).Sound := ⟨by decide +kernel, by decide +kernel⟩
  have hprevious : ((World.store 0).get v).states.get? (FeatureState.of "alpha" false).feature =
      some first := by decide +kernel
  have hs' : Succeeds inner (.of "alpha" false) (some first) v := succeeds_store hsound hprevious
  obtain ⟨-, hsecond⟩ := hnext v rfl late hentered
  obtain ⟨calls', hcalls', -⟩ := hsecond (.of "alpha" false) (some first) hs'
  refine ⟨hw, hroster, calls, hcalls, ?_, calls', hcalls', ?_⟩
  · rw [hnames, hcalls.roster]
    decide +kernel
  · rw [hnames, hcalls'.roster]
    decide +kernel

end FeatureToggle
