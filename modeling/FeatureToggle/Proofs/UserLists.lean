import FeatureToggle.Proofs.Entries
import FeatureToggle.Proofs.Positions
import FeatureToggle.Strategy.Membership

/-!
# Lists of users

What a state lists after names were added to it. Names without commas are listed exactly, each at
its first place (`addUsers_enlisted`). A name with commas in it is listed as several users, and that
is the only way in which anybody else is let in (`isActive_addUsers_iff`).
-/
namespace FeatureToggle

/-! ## First occurrences -/

section EraseDups

variable {α : Type} [BEq α] [LawfulBEq α]

theorem eraseDups_append_singleton (items : List α) (a : α) [Decidable (a ∈ items)] :
    (items ++ [a]).eraseDups = if a ∈ items then items.eraseDups else items.eraseDups ++ [a] := by
  rw [List.eraseDups_append]
  split
  · next h => simp [List.removeAll, h]
  · next h => simp [List.removeAll, h, List.eraseDups_cons]

theorem firsts_eraseDups (items : List α) : Firsts items items.eraseDups := by
  classical
  induction items using List.reverseRecOn with
  | nil => exact .nil
  | append_singleton items a ih =>
    rw [eraseDups_append_singleton]
    split
    · next h => exact ih.again h
    · next h => exact ih.new h

theorem eraseDups_eraseDups (items : List α) : items.eraseDups.eraseDups = items.eraseDups := by
  classical
  induction items using List.reverseRecOn with
  | nil => rfl
  | append_singleton items a ih =>
    rw [eraseDups_append_singleton]
    split
    · exact ih
    · next h =>
      rw [eraseDups_append_singleton, if_neg (by rwa [List.mem_eraseDups]), ih]

/-- Whether the first items were deduplicated before does not matter. -/
theorem eraseDups_eraseDups_append (items more : List α) :
    (items.eraseDups ++ more).eraseDups = (items ++ more).eraseDups := by
  classical
  induction more using List.reverseRecOn with
  | nil => rw [List.append_nil, List.append_nil, eraseDups_eraseDups]
  | append_singleton more a ih =>
    simp only [← List.append_assoc, eraseDups_append_singleton, ih, List.mem_append,
      List.mem_eraseDups]

end EraseDups

namespace FeatureState

open Text

/-! ## Merging -/

theorem users_eq_entriesOf (s : FeatureState) :
    s.users = entriesOf "," (s.parameter usersParameter) := rfl

/-- A listed user is trimmed, not blank, and free of commas. -/
theorem trimmed_of_mem_users {s : FeatureState} {name : String} (h : name ∈ s.users) :
    trim name = name ∧ name ≠ "" ∧ ',' ∉ name.toList := by
  rw [users_eq_entriesOf] at h
  cases hvalue : s.parameter usersParameter with
  | none => simp [hvalue] at h
  | some value =>
    rw [hvalue, entriesOf_some] at h
    exact ⟨trim_of_mem_entries h, (mem_entries.1 h).1, comma_not_mem_of_mem_entries h⟩

/-- The names to be added, trimmed, without the blank ones. -/
def trimmedNames (names : List String) : List String := (names.map trim).filter (· ≠ "")

theorem trimmedNames_append (names more : List String) :
    trimmedNames (names ++ more) = trimmedNames names ++ trimmedNames more := by
  simp [trimmedNames]

theorem mem_trimmedNames {names : List String} {name : String} :
    name ∈ trimmedNames names ↔ name ≠ "" ∧ ∃ n ∈ names, trim n = name := by
  simp [trimmedNames, and_comm]

theorem mergedUsers_eq (s : FeatureState) (names : List String) :
    s.mergedUsers names = (s.users ++ trimmedNames names).eraseDups := by
  have htrim : s.users.map trim = s.users := by
    conv_rhs => rw [← List.map_id s.users]
    exact List.map_congr_left fun name hname => (trimmed_of_mem_users hname).1
  have hfilter : s.users.filter (· ≠ "") = s.users :=
    List.filter_eq_self.2 fun name hname => by simpa using (trimmed_of_mem_users hname).2.1
  rw [mergedUsers, List.map_append, htrim, List.filter_append, hfilter, trimmedNames]

theorem mem_mergedUsers {s : FeatureState} {names : List String} {name : String} :
    name ∈ s.mergedUsers names ↔ name ∈ s.users ∨ name ≠ "" ∧ ∃ n ∈ names, trim n = name := by
  rw [mergedUsers_eq, List.mem_eraseDups, List.mem_append, mem_trimmedNames]

theorem ne_empty_of_mem_mergedUsers {s : FeatureState} {names : List String} {name : String}
    (h : name ∈ s.mergedUsers names) : name ≠ "" :=
  (mem_mergedUsers.1 h).elim (fun hname => (trimmed_of_mem_users hname).2.1) And.left

theorem join_eq_empty_iff {values : List String} (h : ∀ v ∈ values, v ≠ "") :
    join "," values = "" ↔ values = [] := by
  cases values with
  | nil => simp [join]
  | cons v rest =>
    have hv : v ≠ "" := h v List.mem_cons_self
    cases rest with
    | nil => simpa [join] using hv
    | cons w rest => simp [join]

theorem parameter_addUsers (s : FeatureState) (names : List String) (name : String) :
    (s.addUsers names).parameter name =
      if usersParameter = name then
        if s.mergedUsers names = [] then none else some (join "," (s.mergedUsers names))
      else s.parameter name := by
  simp only [addUsers, parameter_setParameter,
    join_eq_empty_iff fun v (hv : v ∈ s.mergedUsers names) => ne_empty_of_mem_mergedUsers hv]
  rfl

/-- The added names are listed as whatever they list. -/
theorem users_addUsers (s : FeatureState) (names : List String) :
    (s.addUsers names).users = (s.mergedUsers names).flatMap (entries ",") := by
  rw [users_eq_entriesOf, parameter_addUsers, if_pos rfl]
  split
  · next h => rw [h]; rfl
  · exact entries_join _

theorem entries_of_mem_users {s : FeatureState} {name : String} (h : name ∈ s.users) :
    entries "," name = [name] := by
  obtain ⟨htrim, hne, hcomma⟩ := trimmed_of_mem_users h
  rw [entries_of_comma_not_mem hcomma, htrim, if_neg hne]

/-- Listed are the users from before and those that the added names list. -/
theorem mem_users_addUsers {s : FeatureState} {names : List String} {name : String} :
    name ∈ (s.addUsers names).users ↔ name ∈ s.users ∨ ∃ n ∈ names, name ∈ entries "," n := by
  rw [users_addUsers, List.mem_flatMap]
  constructor
  · rintro ⟨m, hm, hname⟩
    rcases mem_mergedUsers.1 hm with hlisted | ⟨-, n, hn, rfl⟩
    · rw [entries_of_mem_users hlisted, List.mem_singleton] at hname
      exact .inl (hname ▸ hlisted)
    · exact .inr ⟨n, hn, entries_trim n ▸ hname⟩
  · rintro (hlisted | ⟨n, hn, hname⟩)
    · refine ⟨name, mem_mergedUsers.2 (.inl hlisted), ?_⟩
      rw [entries_of_mem_users hlisted, List.mem_singleton]
    · rw [← entries_trim] at hname
      have hne : trim n ≠ "" := fun hblank => by
        rw [hblank] at hname
        cases hname
      exact ⟨trim n, mem_mergedUsers.2 (.inr ⟨hne, n, hn, rfl⟩), hname⟩

/-- Names without commas are listed as they are. -/
theorem users_addUsers_of_comma_not_mem (s : FeatureState) {names : List String}
    (h : ∀ n ∈ names, ',' ∉ n.toList) : (s.addUsers names).users = s.mergedUsers names := by
  have hentries : ∀ name ∈ s.mergedUsers names, entries "," name = [name] := by
    intro name hname
    rcases mem_mergedUsers.1 hname with hlisted | ⟨hne, n, hn, rfl⟩
    · exact entries_of_mem_users hlisted
    · rw [entries_trim, entries_of_comma_not_mem (h n hn), if_neg hne]
  rw [users_addUsers, List.flatMap_congr hentries, List.flatMap_singleton']

/-! ## Adding names -/

theorem addUsers_congr {s : FeatureState} {names more : List String}
    (h : s.mergedUsers names = s.mergedUsers more) : s.addUsers names = s.addUsers more := by
  rw [addUsers, addUsers, h]

/-- Adding names twice in a row is adding them at once. -/
theorem addUsers_addUsers (s : FeatureState) {names : List String}
    (h : ∀ n ∈ names, ',' ∉ n.toList) (more : List String) :
    (s.addUsers names).addUsers more = s.addUsers (names ++ more) := by
  have hmerged : (s.addUsers names).mergedUsers more = s.mergedUsers (names ++ more) := by
    rw [mergedUsers_eq, users_addUsers_of_comma_not_mem s h, mergedUsers_eq,
      eraseDups_eraseDups_append, mergedUsers_eq, trimmedNames_append, List.append_assoc]
  rw [addUsers, hmerged]
  simp [addUsers, setParameter, setStrategy]

theorem mergedUsers_append_self (s : FeatureState) (names : List String) :
    s.mergedUsers (names ++ names) = s.mergedUsers names := by
  have hseen : (trimmedNames names).removeAll (s.users ++ trimmedNames names) = [] := by
    rw [List.removeAll, List.filter_eq_nil_iff]
    intro name hname
    simp [hname]
  rw [mergedUsers_eq, trimmedNames_append, ← List.append_assoc, List.eraseDups_append, hseen,
    mergedUsers_eq, List.eraseDups_nil, List.append_nil]

/-- What adding the names to the list of `s` makes of it. -/
structure Enlisted (s : FeatureState) (names : List String) (t : FeatureState) : Prop where
  users : Firsts (s.users ++ trimmedNames names) t.users
  absent : t.parameter usersParameter = none ↔ t.users = []
  joined : t.users ≠ [] → t.parameter usersParameter = some (",".intercalate t.users)
  strategy : t.strategy = some usernameStrategy
  feature : t.feature = s.feature
  enabled : t.enabled = s.enabled
  others : ∀ name, name ≠ usersParameter → t.parameter name = s.parameter name
  caller : ∀ user : Option User, (Strategy.username.isActive t user).value = true ↔
    ∃ u, user = some u ∧ u.name ∈ t.users

theorem isActive_username (s : FeatureState) (user : Option User) :
    (Strategy.username.isActive s user).value = true ↔ ∃ u, user = some u ∧ u.name ∈ s.users := by
  change Strategy.isListedUser s user = true ↔ _
  cases user with
  | none => simp [Strategy.isListedUser]
  | some u => simp [Strategy.isListedUser]

/-- Names without commas are added exactly, once and for all, and one after another as well as all
at once. -/
theorem addUsers_enlisted (s : FeatureState) {names : List String}
    (h : ∀ n ∈ names, ',' ∉ n.toList) :
    Enlisted s names (s.addUsers names) ∧
    (s.addUsers names).addUsers names = s.addUsers names ∧
    ∀ more, (s.addUsers names).addUsers more = s.addUsers (names ++ more) := by
  have husers := users_addUsers_of_comma_not_mem s h
  have hparameter := parameter_addUsers s names
  refine ⟨⟨?_, ?_, fun hne => ?_, rfl, rfl, rfl, fun name hname => ?_, isActive_username _⟩, ?_,
    addUsers_addUsers s h⟩
  · rw [husers, mergedUsers_eq]
    exact firsts_eraseDups _
  · rw [hparameter, if_pos rfl, husers]
    split
    · next hnil => simp [hnil]
    · next hnil => simp [hnil]
  · rw [husers] at hne ⊢
    rw [hparameter, if_pos rfl, if_neg hne, join]
  · rw [hparameter, if_neg hname.symm]
  · rw [addUsers_addUsers s h, addUsers_congr (mergedUsers_append_self s names)]

/-- Padded, repeated and blank names, over a list that has all of these in it. -/
theorem addUsers_enlisted_padded :
    let s := (((of "alpha" true).setStrategy "gradual").setParameter "percentage" "5").setParameter
      "users" " bob,, bob ,carol"
    let names := [" alice", "bob", " ", "dave", "alice"]
    (∀ n ∈ names, ',' ∉ n.toList) ∧
      (s.addUsers names).users = ["bob", "carol", "alice", "dave"] ∧
      (s.addUsers names).parameter "users" = some "bob,carol,alice,dave" ∧
      (s.addUsers names).parameter "percentage" = some "5" ∧
      (s.addUsers names).addUsers ["erin"] = s.addUsers (names ++ ["erin"]) := by
  intro s names
  have hcommas : ∀ n ∈ names, ',' ∉ n.toList := by simp [names]
  obtain ⟨henlisted, -, happend⟩ := s.addUsers_enlisted hcommas
  have husers : (s.addUsers names).users = ["bob", "carol", "alice", "dave"] := by decide +kernel
  refine ⟨hcommas, husers, ?_, ?_, happend ["erin"]⟩
  · refine (henlisted.joined (by simp [husers])).trans ?_
    rw [husers]
    rfl
  · refine (henlisted.others "percentage" (by decide)).trans ?_
    simp [s]

/-- Active are exactly those who were listed before, and those whom an added name stands for: a name
without commas for itself, and a name with commas for all whom it lists. -/
theorem isActive_addUsers_iff (s : FeatureState) (names : List String) (u : User) :
    (Strategy.username.isActive (s.addUsers names) (some u)).value = true ↔
      u.name ∈ s.users ∨ u.name ≠ "" ∧ ∃ n ∈ names,
        (',' ∉ n.toList ∧ trim n = u.name) ∨ (',' ∈ n.toList ∧ Lists n u.name) := by
  have hnames (n : String) : u.name ∈ entries "," n ↔
      u.name ≠ "" ∧ ((',' ∉ n.toList ∧ trim n = u.name) ∨ (',' ∈ n.toList ∧ Lists n u.name)) := by
    by_cases hcomma : ',' ∈ n.toList
    · simp only [hcomma, not_true_eq_false, false_and, true_and, false_or, mem_entries]
      exact ⟨fun h => ⟨h.1, h⟩, And.right⟩
    · simp only [hcomma, not_false_eq_true, true_and, false_and, or_false,
        mem_entries_of_comma_not_mem hcomma]
  simp only [isActive_username, Option.some.injEq, exists_eq_left', mem_users_addUsers, hnames,
    and_left_comm, exists_and_left]

/-- A name with a comma in it lets in somebody whose name was neither listed nor added. -/
theorem addUsers_admits_other :
    let s : FeatureState := .of "F1" true
    let bob : User := .of "bob" false
    (Strategy.username.isActive (s.addUsers ["alice,bob"]) (some bob)).value = true ∧
      bob.name ∉ s.users ∧ ∀ n ∈ ["alice,bob"], trim n ≠ bob.name := by
  intro s bob
  have hnobody : s.users = [] := rfl
  have htrim : trim "alice,bob" = "alice,bob" := rfl
  have hother : trim "alice,bob" ≠ bob.name := by simp [htrim, bob, User.of]
  exact ⟨by decide +kernel, by simp [hnobody], List.forall_mem_singleton.2 hother⟩

end FeatureState

end FeatureToggle
