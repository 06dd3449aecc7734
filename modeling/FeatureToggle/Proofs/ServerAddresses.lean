import FeatureToggle.Proofs.AddressNotation
import FeatureToggle.Proofs.Disjunction

/-!
# Decisions by server addresses

A feature is active on a server if its list mentions an address of the server, in whatever notation,
for whoever asks. The entries before the first that is an address of the server are looked at, and a
warning is given for each of them that is no address; those after it are not (`serverIp_decides`).
-/
namespace FeatureToggle

open Text

/-- Items that do not hit leave their events and hand the search on. -/
theorem Traced.any_append_of_false {α : Type} {p : α → Traced Bool} {passed : List α}
    (h : ∀ a ∈ passed, (p a).value = false) (rest : List α) :
    any p (passed ++ rest) = ⟨(any p rest).value,
      (passed.flatMap fun a => (p a).events) ++ (any p rest).events⟩ := by
  induction passed with
  | nil => rfl
  | cons a passed ih =>
    obtain ⟨ha, hpassed⟩ := List.forall_mem_cons.1 h
    rw [List.cons_append, any_cons_of_false ha, ih hpassed, List.flatMap_cons, List.append_assoc]

namespace Strategy

open IpAddress

/-! ## Entries -/

/-- The entries are the letters of the maximal runs of the text, in their order. -/
def Listed (text : String) (entries : List String) : Prop :=
  ∃ places : List Excerpt, places.Pairwise (fun a b => a.before.length < b.before.length) ∧
    (∀ e, e ∈ places ↔ e.IsRun text) ∧ entries = places.map fun e => String.ofList e.letters

/-- The text has an entry that denotes the address. -/
def Mentions (text : String) (a : IpAddress) : Prop :=
  ∃ entry, HasRun text entry ∧ Denotes entry.toList a

/-- The entry denotes one of the addresses. -/
def Owned (addresses : List IpAddress) (entry : String) : Prop :=
  ∃ a ∈ addresses, Denotes entry.toList a

/-- The event is a record on the level of warnings that quotes the entry and names the feature. -/
def Warns (feature entry : String) (event : Event) : Prop :=
  ∃ record : LogRecord, event = .logged record ∧ record.level = .warn ∧
    record.text = "Ignoring invalid IP address " ++ quoted entry ++ " for feature " ++ feature

/-- There is one warning for each entry that is no address, in the order of the entries. -/
def Reported (feature : String) (entries : List String) (events : List Event) : Prop :=
  List.Forall₂ (Warns feature) (entries.filter fun entry => ¬ IsNotation entry) events

section Entry

variable (addresses : List IpAddress) (s : FeatureState) (entry : String)

theorem isOwnAddress_iff : (isOwnAddress addresses s entry).value = true ↔ Owned addresses entry := by
  rw [value_isOwnAddress, Option.any_eq_true]
  constructor
  · rintro ⟨a, hread, ha⟩
    exact ⟨a, List.contains_iff_mem.1 ha, ofText?_eq_some_iff.1 hread⟩
  · rintro ⟨a, ha, hdenotes⟩
    exact ⟨a, ofText?_eq_some_iff.2 hdenotes, List.contains_iff_mem.2 ha⟩

theorem isOwnAddress_eq_false (h : ¬ Owned addresses entry) :
    (isOwnAddress addresses s entry).value = false := by
  rw [Bool.eq_false_iff]
  exact fun htrue => h ((isOwnAddress_iff addresses s entry).1 htrue)

variable {entry}

theorem events_of_isNotation (h : IsNotation entry) :
    (isOwnAddress addresses s entry).events = [] := by
  obtain ⟨a, ha⟩ := h
  rw [isOwnAddress, ofText?_eq_some_iff.2 ha]
  rfl

theorem events_of_not_isNotation (h : ¬ IsNotation entry) :
    ∃ event, Warns s.feature entry event ∧ (isOwnAddress addresses s entry).events = [event] := by
  have hread : ofText? entry = none := by
    rw [← Option.not_isSome_iff_eq_none, ← isNotation_iff]
    exact h
  refine ⟨.logged (.invalidAddress s.feature entry), ⟨_, rfl, rfl, rfl⟩, ?_⟩
  rw [isOwnAddress, hread]
  rfl

theorem reported_flatMap (entries : List String) :
    Reported s.feature entries
      (entries.flatMap fun entry => (isOwnAddress addresses s entry).events) := by
  induction entries with
  | nil => exact .nil
  | cons entry entries ih =>
    rw [List.flatMap_cons, Reported]
    by_cases h : IsNotation entry
    · rw [events_of_isNotation addresses s h, List.filter_cons_of_neg (by simpa using h)]
      exact ih
    · obtain ⟨event, hwarns, hevents⟩ := events_of_not_isNotation addresses s h
      rw [hevents, List.filter_cons_of_pos (by simpa using h)]
      exact .cons hwarns ih

end Entry

/-! ## The decision -/

/-- What looking through the entries comes to. -/
structure Searched (addresses : List IpAddress) (feature : String) (entries : List String)
    (found : Traced Bool) : Prop where
  active : found.value = true ↔ ∃ entry ∈ entries, Owned addresses entry
  unmatched : (∀ entry ∈ entries, ¬ Owned addresses entry) → Reported feature entries found.events
  matched : ∀ passed entry rest, entries = passed ++ entry :: rest →
    (∀ b ∈ passed, ¬ Owned addresses b) → Owned addresses entry →
    Reported feature passed found.events

theorem searched (addresses : List IpAddress) (s : FeatureState) (entries : List String) :
    Searched addresses s.feature entries (Traced.any (isOwnAddress addresses s) entries) where
  active := by simp only [Traced.value_any, List.any_eq_true, isOwnAddress_iff]
  unmatched h := by
    have hfalse : ∀ a ∈ entries, (isOwnAddress addresses s a).value = false := fun a ha =>
      isOwnAddress_eq_false addresses s a (h a ha)
    have hall := Traced.any_append_of_false hfalse []
    rw [List.append_nil] at hall
    rw [hall]
    simpa [Traced.any] using reported_flatMap addresses s entries
  matched passed entry rest heq h howned := by
    have hfalse : ∀ a ∈ passed, (isOwnAddress addresses s a).value = false := fun a ha =>
      isOwnAddress_eq_false addresses s a (h a ha)
    have htrue := (isOwnAddress_iff addresses s entry).2 howned
    obtain ⟨a, -, ha⟩ := howned
    rw [heq, Traced.any_append_of_false hfalse, Traced.any_cons_of_true htrue,
      events_of_isNotation addresses s ⟨a, ha⟩, List.append_nil]
    exact reported_flatMap addresses s passed

theorem isActive_serverIp (addresses : List IpAddress) (s : FeatureState) (user : Option User) :
    (serverIp addresses).isActive s user = ownsListedAddress addresses s := rfl

theorem serverIp_iff {addresses : List IpAddress} {s : FeatureState} {text : String}
    (h : s.parameter ipsParameter = some text) (user : Option User) :
    ((serverIp addresses).isActive s user).value = true ↔ ∃ a ∈ addresses, Mentions text a := by
  rw [isActive_serverIp, ownsListedAddress, h, (searched addresses s (runs text)).active]
  constructor
  · rintro ⟨entry, hentry, a, ha, hdenotes⟩
    exact ⟨a, ha, entry, mem_runs.1 hentry, hdenotes⟩
  · rintro ⟨a, ha, entry, hentry, hdenotes⟩
    exact ⟨entry, mem_runs.2 hentry, a, ha, hdenotes⟩

/-- The list decides by the addresses that it mentions, and warns of entries that are none up to the
first that is an address of the server. -/
theorem serverIp_decides (addresses : List IpAddress) (s : FeatureState) :
    (∀ user user', (serverIp addresses).isActive s user = (serverIp addresses).isActive s user') ∧
    (s.parameter ipsParameter = none →
      ∀ user, (serverIp addresses).isActive s user = ⟨false, []⟩) ∧
    ∀ text, s.parameter ipsParameter = some text →
      (Listed text (runs text) ∧
        ∀ user, Searched addresses s.feature (runs text) ((serverIp addresses).isActive s user)) ∧
      ∀ s' text' user, s'.parameter ipsParameter = some text' →
        (∀ a ∈ addresses, Mentions text' a ↔ Mentions text a) →
        ((serverIp addresses).isActive s' user).value =
          ((serverIp addresses).isActive s user).value := by
  refine ⟨fun user user' => ?_, fun h user => ?_, fun text h =>
    ⟨⟨exists_runs text, fun user => ?_⟩, fun s' text' user h' hsame => ?_⟩⟩
  · rw [isActive_serverIp, isActive_serverIp]
  · rw [isActive_serverIp, ownsListedAddress, h]
    rfl
  · rw [isActive_serverIp, ownsListedAddress, h]
    exact searched addresses s (runs text)
  · rw [Bool.eq_iff_iff, serverIp_iff h', serverIp_iff h]
    constructor
    · rintro ⟨a, ha, hmentions⟩
      exact ⟨a, ha, (hsame a ha).1 hmentions⟩
    · rintro ⟨a, ha, hmentions⟩
      exact ⟨a, ha, (hsame a ha).2 hmentions⟩

/-- The address is found in another notation, after one entry that is warned of and before one that
is not. -/
theorem serverIp_decides_linkLocal :
    let addresses := [IpAddress.v6 0xfe800000000000000000000000000001]
    let s := (FeatureState.of "F1" true).setParameter ipsParameter
      (some "server-a, FE80:0:0::1\tserver-b")
    ((serverIp addresses).isActive s none).value = true ∧
      List.Forall₂ (Warns "F1") ["server-a"] ((serverIp addresses).isActive s none).events := by
  intro addresses s
  have htext : s.parameter ipsParameter = some "server-a, FE80:0:0::1\tserver-b" := by simp [s]
  have hruns : runs "server-a, FE80:0:0::1\tserver-b" =
      ["server-a"] ++ "FE80:0:0::1" :: ["server-b"] := by decide +kernel
  have howned : Owned addresses "FE80:0:0::1" :=
    ⟨_, List.mem_singleton_self _, ofText?_eq_some_iff.1 (by decide +kernel)⟩
  have hname : ¬ IsNotation "server-a" := by decide +kernel
  have hpassed : ∀ b ∈ ["server-a"], ¬ Owned addresses b := by
    intro b hb
    obtain rfl := List.mem_singleton.1 hb
    rintro ⟨a, -, ha⟩
    exact hname ⟨a, ha⟩
  obtain ⟨-, -, hlist⟩ := serverIp_decides addresses s
  have hsearched := (hlist _ htext).1.2 none
  refine ⟨hsearched.active.2 ⟨_, by simp [hruns], howned⟩, ?_⟩
  have hreported := hsearched.matched _ _ _ hruns hpassed howned
  rwa [Reported, List.filter_cons_of_pos (by simpa using hname), List.filter_nil] at hreported

end Strategy

end FeatureToggle
