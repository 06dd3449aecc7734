import FeatureToggle.Proofs.Decisions
import FeatureToggle.Proofs.Reachability
import FeatureToggle.Proofs.Scans

/-!
# Resolution of features

A manager asks its repository once and goes by the answer: a stored state is used as it is, absence
calls for the declared default, and a failure is passed on. Over a tree of repositories the answer
is that of the first store, in the order of reading, which does not answer absence. So the declared
default is used only if every single store answered absence.
-/
namespace FeatureToggle.Manager

open FeatureToggle.Action Repository

section

variable {σ : Type}

/-- The manager goes by the given answer of its repository, both when it is asked for the state of
the feature and when it is asked whether the feature is active. -/
structure Resolves (m : Manager σ) (feature : String) (w : σ)
    (answer : Except Error (Option FeatureState)) : Prop where
  read : (m.repository.read feature).result w = answer
  state : (m.state feature).result w =
    answer.map fun stored => stored.getD (.of feature (m.declaredDefault feature))
  isActiveFor : ∀ user, (m.isActiveFor feature user).result w = answer.bind (m.verdict feature user)

theorem resolves_read (m : Manager σ) (feature : String) (w : σ) :
    m.Resolves feature w ((m.repository.read feature).result w) := by
  refine ⟨rfl, ?_, fun user => ?_⟩
  · rw [result_state]
    cases (m.repository.read feature).result w with
    | error e => rfl
    | ok stored => rfl
  · rw [result_isActiveFor]
    cases (m.repository.read feature).result w with
    | error e => rfl
    | ok stored => rfl

end

variable {m : Manager World} {t : Tree} {call : Caller World} {kind : Listener → Prop}
  {w v : World}

/-- In every world that a tree leads to, a manager resolves each feature to the answer of the first
store that does not answer absence, be it a state or a failure. It resolves to absence, and so to
the declared default, if every store answers absence and in no other case. A tree without caches
reads the stores up to the decisive one, once each and in the order of the scan. -/
theorem resolves_scan (hm : m.repository = t.repository call) (hcall : call.Upright t kind)
    (hd : t.Distinct) (hcold : ∀ id ∈ t.cacheIds, w.caches id = .empty) (hw : w.Heeds kind)
    (hv : t.Leads call kind w v) (feature : String) :
    t.scan.Perm t.leaves ∧
      (∀ before id after, t.scan = before ++ id :: after →
        (∀ i ∈ before, (v.stores i).answer feature = .ok none) →
        (v.stores id).answer feature ≠ .ok none →
          m.Resolves feature v ((v.stores id).answer feature) ∧
            (t.caches = [] → m.repository.Consults feature v (before ++ [id]))) ∧
      ((∀ id ∈ t.leaves, (v.stores id).answer feature = .ok none) →
        m.Resolves feature v (.ok none) ∧
          (t.caches = [] → m.repository.Consults feature v t.scan)) ∧
      ((m.repository.read feature).result v = .ok none →
        ∀ id ∈ t.leaves, (v.stores id).answer feature = .ok none) := by
  have hread : (m.repository.read feature).result v =
      firstPresent (t.scan.map fun id => (v.stores id).answer feature) := by
    rw [hm, hv.result_read hcall hd hcold hw, t.answer_eq_scan]
    rfl
  have hresolves := m.resolves_read feature v
  refine ⟨t.scan_perm, ?_, ?_, ?_⟩
  · intro before id after hscan habsent hid
    rw [hread, hscan, firstPresent_of_first habsent hid] at hresolves
    refine ⟨hresolves, fun ht => ?_⟩
    rw [hm]
    exact Tree.consults_of_first ht hscan habsent hid
  · intro habsent
    have hscan : ∀ id ∈ t.scan, (v.stores id).answer feature = .ok none :=
      fun id hid => habsent id (t.scan_perm.mem_iff.1 hid)
    rw [hread, firstPresent_eq_none_iff.2 hscan] at hresolves
    refine ⟨hresolves, fun ht => ?_⟩
    rw [hm]
    exact Tree.consults_of_absent ht hscan
  · intro hnone id hid
    rw [hread, firstPresent_eq_none_iff] at hnone
    exact hnone id (t.scan_perm.mem_iff.2 hid)

/-- Stores behind a cache, of which the inner ones are read first. -/
def relayed : Tree :=
  .cache 0 5 <| .listenable 0 <|
    .composite .lifo .all [.store 0, .composite .fifo .first [.store 1, .store 2]]

/-- The store that is read first has two features, the next one fails every read, and the last one
has a third feature. A listener sets `"beta"` to what any other feature is set to. -/
def relaying : World :=
  let echo : Listener := ⟨"echo", 0, true, .copy "root" "beta"⟩
  { World.initial with
    stores := fun id =>
      let states := if id = 1 then [.of "alpha" false, .of "beta" false] else [.of "gamma" true]
      ⟨some (toString id), .ofList states, id = 2, false, 0⟩
    listeners := fun _ => [⟨0, echo⟩]
    registered := [echo] }

def relay : Manager World :=
  { administered with repository := relayed.repository (callListener fun _ => some relayed) }

theorem resolves_scan_relayed :
    let v := (relay.repository.write (.of "alpha" true)).after relaying
    relayed.Distinct ∧ relaying.Heeds (Listener.AimsAt (fun _ => some relayed) relayed) ∧
      (relay.isActiveFor "beta" none).result v = .ok true ∧
      (relay.isActiveFor "gamma" none).result v = .error (.store "2 cannot read gamma") ∧
      (relay.state "gamma").result v = .error (.store "2 cannot read gamma") := by
  have hd : relayed.Distinct := ⟨by decide, by decide⟩
  have hw : relaying.Heeds (Listener.AimsAt (fun _ => some relayed) relayed) := by
    intro id r hr
    obtain rfl := List.mem_singleton.1 hr
    exact fun u hu => (Option.some.inj hu).symm
  have hcall := callListener_upright (fun _ => some relayed) relayed
  intro v
  have hv : relayed.Leads (callListener fun _ => some relayed)
      (Listener.AimsAt (fun _ => some relayed) relayed) relaying v := .write _ .start
  have hbeta : (v.stores 1).answer "beta" = .ok (some (.of "beta" true)) := rfl
  have hmissing : (v.stores 1).answer "gamma" = .ok none := rfl
  have hfailure : (v.stores 2).answer "gamma" = .error (.store "2 cannot read gamma") := rfl
  obtain ⟨-, hfirst, -, -⟩ := resolves_scan (m := relay) rfl hcall hd (fun _ _ => rfl) hw hv "beta"
  obtain ⟨hfound, -⟩ := hfirst [] 1 [2, 0] rfl (by simp) (by simp [hbeta])
  obtain ⟨-, hfirst, -, -⟩ := resolves_scan (m := relay) rfl hcall hd (fun _ _ => rfl) hw hv "gamma"
  obtain ⟨hfailed, -⟩ := hfirst [1] 2 [0] rfl (by simpa using hmissing) (by simp [hfailure])
  rw [hbeta] at hfound
  rw [hfailure] at hfailed
  exact ⟨hd, hw, hfound.isActiveFor none, hfailed.isActiveFor none, hfailed.state⟩

end FeatureToggle.Manager
