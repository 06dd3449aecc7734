import FeatureToggle.Proofs.Positions
import FeatureToggle.Strategy.Registry

/-!
# Registries

Whoever registers one strategy after the other with a registry, whatever the answers are, holds the
first strategy of each id, in the order in which they came (`served_calls`). A call is refused exactly
if the id is taken, and then nothing has been touched: refusal comes before the index or the list are
changed, although they are changed one after the other.
-/
namespace FeatureToggle.Registry

variable {r : Registry} {s : Strategy}

theorem call_of_taken (h : (r.index.get? s.id).isSome) :
    call s r = (.error (.configuration (.duplicateStrategy s.id)), r) := by
  change (if _ then _ else _ : ExceptT Error (StateM Registry) Unit) r = _
  rw [if_pos h]
  rfl

theorem call_of_free (h : ¬ (r.index.get? s.id).isSome) : call s r = (.ok (), r.insert s) := by
  change (if _ then _ else _ : ExceptT Error (StateM Registry) Unit) r = _
  rw [if_neg h]
  rfl

/-- The strategies whose registration succeeded. -/
def accepted (answers : List (Strategy × Except Error Unit)) : List Strategy :=
  (answers.filter (·.2.isOk)).map (·.1)

theorem accepted_append (answers more : List (Strategy × Except Error Unit)) :
    accepted (answers ++ more) = accepted answers ++ accepted more := by
  rw [accepted, List.filter_append, List.map_append, accepted, accepted]

/-! ## The first strategy of each id -/

def ids (r : Registry) : List String := r.strategies.map Strategy.id

/-- The registry holds the first of these strategies for each id. -/
structure Holds (r : Registry) (tried : List Strategy) : Prop where
  located : Locates r.index r.ids
  ordered : Firsts (tried.map Strategy.id) r.ids
  first : ∀ id, r.strategies.find? (·.id = id) = tried.find? (·.id = id)

namespace Holds

variable {tried : List Strategy}

theorem empty : Holds .empty [] := ⟨.empty, .nil, fun _ => rfl⟩

theorem lookup?_eq_find? (h : Holds r tried) (id : String) :
    r.lookup? id = r.strategies.find? (·.id = id) :=
  h.located.bind_getElem?_eq_find? id

theorem mem_ids_iff (h : Holds r tried) {id : String} : id ∈ r.ids ↔ ∃ s ∈ tried, s.id = id := by
  rw [h.ordered.mem_iff, List.mem_map]

/-- A strategy with a new id comes to the end. -/
theorem insert (h : Holds r tried) (hid : s.id ∉ r.ids) : Holds (r.insert s) (tried ++ [s]) where
  located := by
    have hlength : r.strategies.length = r.ids.length := (List.length_map _).symm
    have hids : (r.insert s).ids = r.ids ++ [s.id] := List.map_append
    rw [hids, Registry.insert, hlength]
    exact h.located.append hid
  ordered := by
    rw [List.map_append, ids, Registry.insert, List.map_append]
    exact h.ordered.new fun hmem => hid (h.ordered.mem_iff.2 hmem)
  first id := by
    rw [Registry.insert, List.find?_append, List.find?_append, h.first]

/-- A strategy whose id is taken makes no difference. -/
theorem refuse (h : Holds r tried) (hid : s.id ∈ r.ids) : Holds r (tried ++ [s]) where
  located := h.located
  ordered := by
    rw [List.map_append]
    exact h.ordered.again (h.ordered.mem_iff.1 hid)
  first id := by
    rw [List.find?_append, h.first]
    by_cases hsame : s.id = id
    · obtain ⟨s', hs', hid'⟩ := h.mem_ids_iff.1 hid
      have hfound : (tried.find? (·.id = id)).isSome :=
        List.find?_isSome.2 ⟨s', hs', by simp [hid', hsame]⟩
      rw [Option.or_of_isSome hfound]
    · simp [hsame]

theorem call_of_mem (h : Holds r tried) (hid : s.id ∈ r.ids) :
    call s r = (.error (.configuration (.duplicateStrategy s.id)), r) :=
  call_of_taken (h.located.isSome_get?_iff.2 hid)

theorem call_of_not_mem (h : Holds r tried) (hid : s.id ∉ r.ids) :
    call s r = (.ok (), r.insert s) :=
  call_of_free (mt h.located.isSome_get?_iff.1 hid)

/-- One call keeps the first strategies, and adds the strategy if it is accepted. -/
theorem step (h : Holds r tried) (s : Strategy) :
    Holds (call s r).2 (tried ++ [s]) ∧
      (call s r).2.strategies = r.strategies ++ accepted [(s, (call s r).1)] := by
  by_cases hid : s.id ∈ r.ids
  · rw [h.call_of_mem hid]
    exact ⟨h.refuse hid, (List.append_nil _).symm⟩
  · rw [h.call_of_not_mem hid]
    exact ⟨h.insert hid, rfl⟩

/-- The same of any number of calls. -/
theorem run (h : Holds r tried) (rest : List Strategy) :
    Holds (calls rest r).2 (tried ++ rest) ∧
      (calls rest r).2.strategies = r.strategies ++ accepted (calls rest r).1 := by
  induction rest generalizing r tried with
  | nil => exact ⟨by rwa [List.append_nil], (List.append_nil _).symm⟩
  | cons s rest ih =>
    obtain ⟨hstep, hadded⟩ := h.step s
    obtain ⟨hrun, hrest⟩ := ih hstep
    have hanswers : (calls (s :: rest) r).1 =
        [(s, (call s r).1)] ++ (calls rest (call s r).2).1 := rfl
    refine ⟨by rwa [List.append_assoc] at hrun, ?_⟩
    rw [hanswers, accepted_append, ← List.append_assoc, ← hadded]
    exact hrest

/-- Inserting strategies without looking does no harm as long as all ids are different. -/
theorem foldl_insert (h : Holds r tried) {more : List Strategy}
    (hnodup : (r.ids ++ more.map Strategy.id).Nodup) :
    Holds (more.foldl Registry.insert r) (tried ++ more) := by
  induction more generalizing r tried with
  | nil => rwa [List.append_nil]
  | cons s more ih =>
    have hid : s.id ∉ r.ids := fun hmem =>
      (List.nodup_append.1 hnodup).2.2 s.id hmem s.id List.mem_cons_self rfl
    have hids : (r.insert s).ids = r.ids ++ [s.id] := List.map_append
    rw [List.map_cons, List.append_cons, ← hids] at hnodup
    rw [List.append_cons]
    exact ih (h.insert hid) hnodup

end Holds

theorem nodup_ids_builtins (host : Host) : ((builtins host).map Strategy.id).Nodup := by
  have hids : (builtins host).map Strategy.id =
      ["username", "gradual", "release-date", "user-role", "property", "server-ip"] := rfl
  rw [hids]
  decide

theorem holds_withDefaults (host : Host) : Holds (withDefaults host) (builtins host) :=
  Holds.empty.foldl_insert (nodup_ids_builtins host)

theorem strategies_foldl_insert (r : Registry) (more : List Strategy) :
    (more.foldl insert r).strategies = r.strategies ++ more := by
  induction more generalizing r with
  | nil => exact (List.append_nil _).symm
  | cons s more ih =>
    rw [List.foldl_cons, ih, List.append_cons]
    rfl

/-- What a registry that began with the strategies `given` is after the calls for `tried`, which were
answered by `answers`. -/
structure Served (given tried : List Strategy) (answers : List (Strategy × Except Error Unit))
    (r : Registry) : Prop where
  answered : answers.map (·.1) = tried
  /-- The strategies stand in the order of their successful registration. -/
  strategies : r.strategies = given ++ accepted answers
  distinct : r.ids.Nodup
  /-- The ids stand in the order in which they were first tried. -/
  ordered : Firsts ((given ++ tried).map Strategy.id) r.ids
  first : ∀ id, r.lookup? id = (given ++ tried).find? (·.id = id)
  none_iff : ∀ id, r.lookup? id = none ↔ ∀ s ∈ given ++ tried, s.id ≠ id
  linear : ∀ id, r.lookup? id = r.strategies.find? (·.id = id)
  /-- A further call is refused, and then nothing is touched, exactly if the id is taken. -/
  refused : ∀ s, s.id ∈ r.ids → r.register s = .error (.configuration (.duplicateStrategy s.id)) ∧
    call s r = (.error (.configuration (.duplicateStrategy s.id)), r)
  added : ∀ s, s.id ∉ r.ids → ∃ r', r.register s = .ok r' ∧ call s r = (.ok (), r') ∧
    r'.strategies = r.strategies ++ [s]

theorem map_fst_calls (tried : List Strategy) (r : Registry) :
    (calls tried r).1.map (·.1) = tried := by
  induction tried generalizing r with
  | nil => rfl
  | cons s rest ih => exact congrArg (s :: ·) (ih (call s r).2)

theorem Holds.served {given : List Strategy} (h : Holds r given) (hgiven : r.strategies = given)
    (tried : List Strategy) : Served given tried (calls tried r).1 (calls tried r).2 := by
  obtain ⟨hrun, hadded⟩ := h.run tried
  refine ⟨map_fst_calls tried r, ?_, hrun.located.nodup, hrun.ordered, fun id => ?_, fun id => ?_,
    hrun.lookup?_eq_find?, fun s hid => ⟨?_, hrun.call_of_mem hid⟩, fun s hid => ?_⟩
  · rw [hadded, hgiven]
  · rw [hrun.lookup?_eq_find?, hrun.first]
  · rw [hrun.lookup?_eq_find?, hrun.first, List.find?_eq_none]
    simp
  · exact if_pos (hrun.located.isSome_get?_iff.2 hid)
  · exact ⟨_, if_neg (mt hrun.located.isSome_get?_iff.1 hid), hrun.call_of_not_mem hid, rfl⟩

/-- Whatever is registered, with an empty registry or with the one that needs nothing but the host,
the first strategy of each id is served, and calls for others change nothing. -/
theorem served_calls :
    (∀ tried, Served [] tried (calls tried empty).1 (calls tried empty).2) ∧
      ∀ host tried, Served (builtins host) tried (calls tried (withDefaults host)).1
        (calls tried (withDefaults host)).2 :=
  ⟨Holds.empty.served rfl, fun host =>
    (holds_withDefaults host).served (strategies_foldl_insert empty (builtins host))⟩

/-- The id of the first strategy is taken for the second one, which is not served. -/
example :
    let second : Strategy := { Strategy.username with id := Strategy.gradual.id }
    let run := calls [Strategy.gradual, second, Strategy.userRole] empty
    run.1.map (·.2.isOk) = [true, false, true] ∧
      (run.2.lookup? "gradual").map (·.name) = some "Gradual rollout" := by
  decide +kernel

end FeatureToggle.Registry
