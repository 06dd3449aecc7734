import FeatureToggle.Proofs.Entries
import FeatureToggle.Proofs.TokenDecisions
import FeatureToggle.Strategy.Address
import FeatureToggle.Strategy.Membership

/-!
# Decisions by lists

A strategy that is driven by a list is active if it is active for some part of the list
(`listDriven_strategies`). So adding entries never makes it inactive, and neither the order of the
entries nor their repetition, the blanks around them or blank entries matter.
-/
namespace FeatureToggle

open Text

/-- The gaps that part entries, and those that part runs. -/
def PartsEntries (gap : String) : Prop := IsGap gap ∧ ',' ∈ gap.toList
def PartsRuns (gap : String) : Prop := IsGap gap ∧ gap ≠ ""

/-- The answer on a text, which may be missing, is the disjunction of those on its parts. -/
structure Disjunctive (Parts : String → Prop) (answer : Option String → Bool) : Prop where
  absent : answer none = false
  blank : ∀ gap, IsGap gap → answer (some gap) = false
  append : ∀ gap, Parts gap → ∀ v w,
    answer (some (v ++ gap ++ w)) = (answer (some v) || answer (some w))
  padded : ∀ front back, IsGap front → IsGap back → ∀ v,
    answer (some (front ++ v ++ back)) = answer (some v)

namespace Disjunctive

theorem of_entries (p : String → Bool) :
    Disjunctive PartsEntries fun value => (entriesOf "," value).any p where
  absent := rfl
  blank gap h := by simp [entries_of_isGap h]
  append gap h v w := by simp [entries_append h.1 h.2]
  padded front back hfront hback v := by
    simp [entries_append_gap hback, entries_gap_append hfront]

theorem of_runs (p : String → Bool) :
    Disjunctive PartsRuns fun value => (value.elim [] runs).any p where
  absent := rfl
  blank gap h := by simp [runs_of_isGap h]
  append gap h v w := by simp [runs_append h.1 h.2]
  padded front back hfront hback v := by
    simp [runs_append_gap hback, runs_gap_append hfront]

variable {Parts : String → Prop} {answer : Option String → Bool}

theorem answer_trim (h : Disjunctive Parts answer) (v : String) :
    answer (some (trim v)) = answer (some v) := by
  obtain ⟨front, back, hfront, hback, heq⟩ := exists_trim_eq v
  rw [← h.padded front back hfront hback, heq]

theorem answer_join (h : Disjunctive Parts answer) {gap : String} (hgap : Parts gap)
    (values : List String) :
    answer (some (join gap values)) = values.any fun v => answer (some v) := by
  induction values with
  | nil => exact h.blank "" (by simp [IsGap])
  | cons v rest ih =>
    cases rest with
    | nil => simp [join]
    | cons w rest =>
      have hjoin : join gap (v :: w :: rest) = v ++ gap ++ join gap (w :: rest) :=
        String.intercalate_cons_cons
      rw [hjoin, h.append gap hgap, ih]
      rfl

end Disjunctive

/-- A disjunctive answer on lists of entries: it grows with the entries, and depends on nothing but
which entries there are. -/
structure ListDriven (Parts : String → Prop) (answer : Option String → Bool) : Prop extends
    Disjunctive Parts answer where
  /-- If each entry of a list, unless it is blank, is up to the blanks around it also one of another
  list, then an answer that holds of the first list holds of the second. -/
  contained : ∀ gap gap', Parts gap → Parts gap' → ∀ vs ws : List String,
    (∀ v ∈ vs, trim v ≠ "" → ∃ w ∈ ws, trim w = trim v) →
    answer (some (join gap vs)) = true → answer (some (join gap' ws)) = true

theorem Disjunctive.listDriven {Parts : String → Prop} {answer : Option String → Bool}
    (h : Disjunctive Parts answer) : ListDriven Parts answer where
  toDisjunctive := h
  contained gap gap' hgap hgap' vs ws hsub hanswer := by
    rw [h.answer_join hgap, List.any_eq_true] at hanswer
    rw [h.answer_join hgap', List.any_eq_true]
    obtain ⟨v, hv, hholds⟩ := hanswer
    have hne : trim v ≠ "" := fun hblank => by
      rw [← h.answer_trim, hblank, h.blank "" (by simp [IsGap])] at hholds
      cases hholds
    obtain ⟨w, hw, heq⟩ := hsub v hv hne
    exact ⟨w, hw, by rw [← h.answer_trim, heq, h.answer_trim, hholds]⟩

namespace Strategy

/-! ## What the strategies read -/

theorem value_username (s : FeatureState) (user : Option User) :
    (username.isActive s user).value =
      (entriesOf "," (s.parameter FeatureState.usersParameter)).any fun name =>
        user.any fun u => name == u.name := by
  cases user with
  | none => simp [username, isListedUser]
  | some u => rfl

theorem value_userRole (s : FeatureState) (user : Option User) :
    (userRole.isActive s user).value =
      (entriesOf "," (s.parameter rolesParameter)).any fun role =>
        (user.bind (·.attribute? rolesAttribute)).any (·.containsString role) := by
  change hasListedRole s user = _
  rw [hasListedRole]
  cases user.bind (·.attribute? rolesAttribute) with
  | none => simp
  | some roles => rfl

theorem value_isOwnAddress (addresses : List IpAddress) (s : FeatureState) (entry : String) :
    (isOwnAddress addresses s entry).value =
      (IpAddress.ofText? entry).any addresses.contains := by
  rw [isOwnAddress]
  cases IpAddress.ofText? entry with
  | none => rfl
  | some address => rfl

theorem value_serverIp (addresses : List IpAddress) (s : FeatureState) (user : Option User) :
    ((serverIp addresses).isActive s user).value =
      ((s.parameter ipsParameter).elim [] runs).any fun entry =>
        (IpAddress.ofText? entry).any addresses.contains := by
  change (ownsListedAddress addresses s).value = _
  rw [ownsListedAddress]
  cases s.parameter ipsParameter with
  | none => rfl
  | some text => simp only [Traced.value_any, value_isOwnAddress, Option.elim_some]

theorem TokenDriven.value_isActive_eq_any (d : TokenDriven) (s : FeatureState)
    (user : Option User) :
    (d.isActive s user).value =
      ((s.parameter d.parameter).elim [] runs).any fun run =>
        let t := Token.ofChars (d.transform run).toList
        (d.holds t s user).value != t.negated := by
  rw [value_isActive, tokens, tokenize]
  cases s.parameter d.parameter with
  | none => rfl
  | some text => simp [tokensOf, List.any_map, Function.comp_def]

theorem TokenDriven.disjunctive (d : TokenDriven) (s : FeatureState) (user : Option User)
    (h : ∀ t value, (d.holds t (s.setParameter d.parameter value) user).value =
      (d.holds t s user).value) :
    Disjunctive PartsRuns fun value =>
      (d.isActive (s.setParameter d.parameter value) user).value := by
  simp only [value_isActive_eq_any, h, FeatureState.parameter_setParameter, if_true]
  exact .of_runs _

/-- The strategies that read a list are disjunctive over it, for every state and caller: by name and
by role over what commas part, the others over what any gap parts. A predicate on tokens may look at
the caller and at the rest of the state, but not at the list itself. -/
theorem listDriven_strategies (s : FeatureState) (user : Option User) :
    (ListDriven PartsEntries fun value =>
      (username.isActive (s.setParameter FeatureState.usersParameter value) user).value) ∧
    (ListDriven PartsEntries fun value =>
      (userRole.isActive (s.setParameter rolesParameter value) user).value) ∧
    (∀ profiles, ListDriven PartsRuns fun value =>
      ((profile profiles).isActive (s.setParameter profilesParameter value) user).value) ∧
    (∀ d : TokenDriven,
      (∀ t value, (d.holds t (s.setParameter d.parameter value) user).value =
        (d.holds t s user).value) →
      ListDriven PartsRuns fun value =>
        (d.isActive (s.setParameter d.parameter value) user).value) ∧
    ∀ addresses, ListDriven PartsRuns fun value =>
      ((serverIp addresses).isActive (s.setParameter ipsParameter value) user).value := by
  refine ⟨?_, ?_, fun profiles => ?_, fun d h => (d.disjunctive s user h).listDriven,
    fun addresses => ?_⟩
  · simp only [value_username, FeatureState.parameter_setParameter, if_true]
    exact (Disjunctive.of_entries _).listDriven
  · simp only [value_userRole, FeatureState.parameter_setParameter, if_true]
    exact (Disjunctive.of_entries _).listDriven
  · exact (TokenDriven.disjunctive _ s user fun _ _ => rfl).listDriven
  · simp only [value_serverIp, FeatureState.parameter_setParameter, if_true]
    exact (Disjunctive.of_runs _).listDriven

/-- A decision by tokens that hold for the feature of their name and for the user of their name. -/
def byOwnName : TokenDriven where
  parameter := "names"
  transform run := run
  holds t s user := pure (t.value == s.feature || user.any fun u => u.name == t.value)

/-- One entry of a list is enough, after blank ones and after one that does not hold. -/
theorem listDriven_strategies_bob :
    let s : FeatureState := .of "alpha" true
    let bob : Option User := some (.of "bob" false)
    let listed value :=
      (username.isActive (s.setParameter FeatureState.usersParameter value) bob).value
    let named value := (byOwnName.isActive (s.setParameter "names" value) bob).value
    (∀ t value, (byOwnName.holds t (s.setParameter "names" value) bob).value =
      (byOwnName.holds t s bob).value) ∧
    listed (some "alice , ,") = false ∧ listed (some ("alice , ," ++ "," ++ " bob ")) = true ∧
    named (some "!alpha") = false ∧ named (some ("!alpha" ++ " ,\t" ++ "bob")) = true := by
  intro s bob listed named
  have hnames : ∀ t value, (byOwnName.holds t (s.setParameter "names" value) bob).value =
      (byOwnName.holds t s bob).value := fun _ _ => rfl
  obtain ⟨hlisted, -, -, hnamed, -⟩ := listDriven_strategies s bob
  have hcomma : PartsEntries "," := ⟨by simp [IsGap, isSeparator], by simp⟩
  have hgap : PartsRuns " ,\t" := by
    refine ⟨fun c hc => ?_, by simp⟩
    have hc : c = ' ' ∨ c = ',' ∨ c = '\t' := by simpa using hc
    rcases hc with rfl | rfl | rfl <;> rfl
  have halice : listed (some "alice , ,") = false := by cbv
  have hbob : listed (some " bob ") = true := by cbv
  have halpha : named (some "!alpha") = false := by cbv
  have htoken : named (some "bob") = true := by cbv
  have hlist : listed (some ("alice , ," ++ "," ++ " bob ")) =
      (listed (some "alice , ,") || listed (some " bob ")) := hlisted.append "," hcomma _ _
  have hnamed : named (some ("!alpha" ++ " ,\t" ++ "bob")) =
      (named (some "!alpha") || named (some "bob")) :=
    (hnamed byOwnName hnames).append " ,\t" hgap _ _
  rw [hlist, hnamed, halice, hbob, halpha, htoken]
  exact ⟨hnames, rfl, rfl, rfl, rfl⟩

end Strategy

end FeatureToggle
