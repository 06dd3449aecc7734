import FeatureToggle.Proofs.AttributeConversion
import FeatureToggle.Proofs.LoadedUsers

/-!
# Users who are written and read again

A number that is not finite has no JSON form and is written as `null`. That is all that gets lost on
the way: a user who is written as a JSON value and read from it is the same with every such number,
at any depth of any attribute, replaced by `null` (`ofJson?_toJson_reloads`).
-/
namespace FeatureToggle

section MapValues

variable {α β : Type} {f : α → β}

theorem Ascending.map_values {entries : List (String × α)} (h : Ascending entries) (f : α → β) :
    Ascending (entries.map (Prod.map id f)) :=
  List.pairwise_map.2 h

namespace SortedMap

/-- The map with each value replaced. -/
def mapValues (f : α → β) (m : SortedMap α) : SortedMap β :=
  ⟨m.entries.map (Prod.map id f), m.ascending.map_values f⟩

@[simp] theorem entries_mapValues (m : SortedMap α) :
    (m.mapValues f).entries = m.entries.map (Prod.map id f) := rfl

@[simp] theorem get?_mapValues (m : SortedMap α) (key : String) :
    (m.mapValues f).get? key = (m.get? key).map f := by
  rw [← ofList_entries (m.mapValues f), get?_ofList, entries_mapValues, lastValue_map, ← get?_ofList,
    ofList_entries]

theorem mapValues_congr {g : α → β} {m : SortedMap α} (h : ∀ e ∈ m.entries, f e.2 = g e.2) :
    m.mapValues f = m.mapValues g := by
  apply SortedMap.ext
  rw [entries_mapValues, entries_mapValues, List.map_inj_left]
  exact fun e he => Prod.ext rfl (h e he)

theorem mapValues_eq_self_iff {f : α → α} {m : SortedMap α} :
    m.mapValues f = m ↔ ∀ e ∈ m.entries, f e.2 = e.2 := by
  constructor
  · intro heq e he
    have hentries : m.entries.map (Prod.map id f) = m.entries.map id := by
      rw [List.map_id, ← entries_mapValues, heq]
    exact congrArg Prod.snd (List.map_inj_left.1 hentries e he)
  · intro h
    apply SortedMap.ext
    rw [entries_mapValues, List.map_congr_left (g := id), List.map_id]
    exact fun e he => Prod.ext rfl (h e he)

end SortedMap

end MapValues

namespace AttributeValue

/-- The values whose objects, at every depth, have the members of a map. -/
inductive Canonical : AttributeValue → Prop where
  | string (s : String) : Canonical (.string s)
  | number (d : Double) : Canonical (.number d)
  | bool (b : Bool) : Canonical (.bool b)
  | null : Canonical .null
  | array {items : List AttributeValue} : (∀ v ∈ items, Canonical v) → Canonical (.array items)
  | object {m : SortedMap AttributeValue} : (∀ e ∈ m.entries, Canonical e.2) →
      Canonical (.object m.entries)

mutual

/-- All numbers in a value, from left to right. -/
def numbers : AttributeValue → List Double
  | .number d => [d]
  | .array items => itemNumbers items
  | .object members => memberNumbers members
  | .string _ | .bool _ | .null => []

def itemNumbers : List AttributeValue → List Double
  | [] => []
  | item :: items => numbers item ++ itemNumbers items

def memberNumbers : List (String × AttributeValue) → List Double
  | [] => []
  | (_, value) :: members => numbers value ++ memberNumbers members

end

mutual

/-- The value with `null` in the place of every number that is not finite. -/
def finitize : AttributeValue → AttributeValue
  | .number d => if d.isFinite then .number d else .null
  | .array items => .array (finitizeItems items)
  | .object members => .object (finitizeMembers members)
  | .string s => .string s
  | .bool b => .bool b
  | .null => .null

def finitizeItems : List AttributeValue → List AttributeValue
  | [] => []
  | item :: items => finitize item :: finitizeItems items

def finitizeMembers : List (String × AttributeValue) → List (String × AttributeValue)
  | [] => []
  | (name, value) :: members => (name, finitize value) :: finitizeMembers members

end

/-! ## Parts -/

theorem itemNumbers_eq (items : List AttributeValue) : itemNumbers items = items.flatMap numbers := by
  induction items with
  | nil => rfl
  | cons item items ih => rw [itemNumbers, ih, List.flatMap_cons]

theorem memberNumbers_eq (members : List (String × AttributeValue)) :
    memberNumbers members = members.flatMap (·.2.numbers) := by
  induction members with
  | nil => rfl
  | cons m members ih => rw [memberNumbers, ih, List.flatMap_cons]

theorem finitizeItems_eq (items : List AttributeValue) : finitizeItems items = items.map finitize := by
  induction items with
  | nil => rfl
  | cons item items ih => rw [finitizeItems, ih, List.map_cons]

theorem finitizeMembers_eq (members : List (String × AttributeValue)) :
    finitizeMembers members = members.map (Prod.map id finitize) := by
  induction members with
  | nil => rfl
  | cons m members ih => rw [finitizeMembers, ih, List.map_cons, Prod.map_apply, id_eq]

theorem itemsToJson_eq (items : List AttributeValue) : itemsToJson items = items.map toJson := by
  induction items with
  | nil => rfl
  | cons item items ih => rw [itemsToJson, ih, List.map_cons]

theorem membersToJson_eq (members : List (String × AttributeValue)) :
    membersToJson members = members.map (Prod.map id toJson) := by
  induction members with
  | nil => rfl
  | cons m members ih => rw [membersToJson, ih, List.map_cons, Prod.map_apply, id_eq]

/-! ## Written and read again -/

/-- What is written is read as the value with its finite numbers. -/
theorem ofJson_toJson {v : AttributeValue} (h : v.Canonical) : ofJson (toJson v) = v.finitize := by
  induction h with
  | number d =>
    rw [toJson, finitize]
    split
    · rfl
    · rfl
  | array _ ih =>
    rw [toJson, ofJson, finitize, itemsToJson_eq, ofItems_eq_map, finitizeItems_eq, List.map_map]
    exact congrArg array (List.map_congr_left ih)
  | @object m _ ih =>
    rw [toJson, ofJson, finitize, membersToJson_eq, ofJsonMembers_eq_map, finitizeMembers_eq,
      ofMembers, List.map_map, Prod.map_comp_map, Function.comp_id,
      ← SortedMap.entries_mapValues, SortedMap.ofList_entries, SortedMap.mapValues_congr ih,
      SortedMap.entries_mapValues]
  | string | bool | null => rw [toJson, ofJson, finitize]

/-- The finite numbers stay, with their bits and in their order, and no others do. -/
theorem numbers_finitize {v : AttributeValue} (h : v.Canonical) :
    v.finitize.numbers = v.numbers.filter (·.isFinite) := by
  induction h with
  | number d => cases hfinite : d.isFinite <;> simp [finitize, numbers, hfinite]
  | array _ ih =>
    simp only [finitize, numbers, itemNumbers_eq, finitizeItems_eq, List.flatMap_map,
      List.filter_flatMap]
    exact List.flatMap_congr ih
  | object _ ih =>
    simp only [finitize, numbers, memberNumbers_eq, finitizeMembers_eq, List.flatMap_map,
      List.filter_flatMap]
    exact List.flatMap_congr ih
  | string | bool | null => rfl

theorem finitize_eq_self_iff {v : AttributeValue} (h : v.Canonical) :
    v.finitize = v ↔ ∀ d ∈ v.numbers, d.isFinite = true := by
  induction h with
  | number d => cases hfinite : d.isFinite <;> simp [finitize, numbers, hfinite]
  | @array items _ ih =>
    have hitems : items.map finitize = items ↔ ∀ v ∈ items, v.finitize = v := by
      simpa only [List.map_id, id_eq] using
        List.map_inj_left (f := finitize) (g := id) (l := items)
    simp only [finitize, numbers, itemNumbers_eq, finitizeItems_eq, array.injEq, hitems,
      List.mem_flatMap, forall_exists_index, and_imp]
    constructor
    · exact fun hsame d v hv => (ih v hv).1 (hsame v hv) d
    · exact fun hfinite v hv => (ih v hv).2 fun d => hfinite d v hv
  | @object m _ ih =>
    have hmembers : m.entries.map (Prod.map id finitize) = m.entries ↔
        ∀ e ∈ m.entries, e.2.finitize = e.2 := by
      rw [← SortedMap.mapValues_eq_self_iff, SortedMap.ext_iff, SortedMap.entries_mapValues]
    simp only [finitize, numbers, memberNumbers_eq, finitizeMembers_eq, object.injEq, hmembers,
      List.mem_flatMap, forall_exists_index, and_imp]
    constructor
    · exact fun hsame d e he => (ih e he).1 (hsame e he) d
    · exact fun hfinite e he => (ih e he).2 fun d => hfinite d e he
  | string | bool | null => simp [finitize, numbers]

theorem canonical_finitize {v : AttributeValue} (h : v.Canonical) : v.finitize.Canonical := by
  induction h with
  | number d =>
    rw [finitize]
    split
    · exact .number d
    · exact .null
  | array _ ih =>
    rw [finitize, finitizeItems_eq]
    exact .array (List.forall_mem_map.2 ih)
  | @object m _ ih =>
    rw [finitize, finitizeMembers_eq, ← SortedMap.entries_mapValues]
    exact .object (List.forall_mem_map.2 ih)
  | string s => exact .string s
  | bool b => exact .bool b
  | null => exact .null

theorem canonical_ofList {members : List (String × AttributeValue)}
    (h : ∀ m ∈ members, m.2.Canonical) : ∀ e ∈ (SortedMap.ofList members).entries, e.2.Canonical := by
  intro e he
  rw [SortedMap.mem_entries_iff, SortedMap.get?_ofList] at he
  exact h (e.1, e.2) (mem_of_lastValue he)

/-- Whatever is read has maps for its objects. -/
theorem canonical_ofJson (j : Json) : (ofJson j).Canonical := by
  induction j using Json.induction with
  | null => exact .null
  | bool b => exact .bool b
  | number n => exact .number n.toDouble
  | string s => exact .string s
  | array items ih =>
    rw [ofJson, ofItems_eq_map]
    exact .array (List.forall_mem_map.2 ih)
  | object members ih =>
    rw [ofJson, ofMembers, ofJsonMembers_eq_map]
    exact .object (canonical_ofList (List.forall_mem_map.2 ih))

end AttributeValue

namespace User

/-- The users whose attributes have maps for their objects. -/
def Canonical (u : User) : Prop := ∀ e ∈ u.attributes.entries, e.2.Canonical

/-- All numbers in the attributes of a user. -/
def numbers (u : User) : List Double := u.attributes.entries.flatMap (·.2.numbers)

/-- The user with `null` in the place of every number that is not finite. -/
def finitize (u : User) : User :=
  { u with attributes := u.attributes.mapValues AttributeValue.finitize }

section Canonical

variable {u : User}

theorem canonical_of (name : String) (featureAdmin : Bool) : (of name featureAdmin).Canonical := by
  intro e he
  cases he

theorem Canonical.setAttribute (h : u.Canonical) (name : String) {value : AttributeValue}
    (hvalue : value.Canonical) : (u.setAttribute name value).Canonical := by
  rintro ⟨other, v⟩ he
  rw [SortedMap.mem_entries_iff] at he
  change (u.setAttribute name value).attribute? other = some v at he
  rw [attribute?_setAttribute] at he
  split at he
  · obtain ⟨hsome, -⟩ := Option.filter_eq_some_iff.1 he
    obtain rfl : value = v := Option.some.inj hsome
    exact hvalue
  · exact h (other, v) (SortedMap.mem_entries_iff.2 he)

/-- Every user who is read is one of these. -/
theorem canonical_of_ofJson? {j : Json} (h : ofJson? j = some u) : u.Canonical := by
  have hread (members : List (String × Json)) : ∀ e ∈
      (SortedMap.ofList (members.map (Prod.map id AttributeValue.ofJson))).entries, e.2.Canonical :=
    AttributeValue.canonical_ofList
      (List.forall_mem_map.2 fun m _ => AttributeValue.canonical_ofJson m.2)
  have hempty : ∀ e ∈ (SortedMap.empty (α := AttributeValue)).entries, e.2.Canonical :=
    fun e he => nomatch he
  unfold ofJson? at h
  split at h
  · obtain ⟨f, -, rfl⟩ := ofJson?_object_iff.1 h
    exact hread f.listed
  · simp only [Option.bind_eq_bind, Option.bind_eq_some_iff, Option.pure_def,
      Option.some.injEq] at h
    obtain ⟨name, -, rfl⟩ := h
    exact hempty
  · simp only [Option.bind_eq_bind, Option.bind_eq_some_iff, Option.pure_def,
      Option.some.injEq] at h
    obtain ⟨name, -, admin, -, rfl⟩ := h
    exact hempty
  · simp only [Option.bind_eq_bind, Option.bind_eq_some_iff, Option.pure_def,
      Option.some.injEq, attributesOfJson?_eq_some_iff] at h
    obtain ⟨name, -, admin, -, _, ⟨members, -, rfl⟩, rfl⟩ := h
    exact hread members
  · cases h

theorem Canonical.finitize (h : u.Canonical) : u.finitize.Canonical :=
  List.forall_mem_map.2 fun e he => AttributeValue.canonical_finitize (h e he)

theorem numbers_finitize (h : u.Canonical) : u.finitize.numbers = u.numbers.filter (·.isFinite) := by
  simp only [numbers, User.finitize, SortedMap.entries_mapValues, List.flatMap_map,
    List.filter_flatMap]
  exact List.flatMap_congr fun e he => AttributeValue.numbers_finitize (h e he)

theorem finitize_eq_self_iff (h : u.Canonical) :
    u.finitize = u ↔ ∀ d ∈ u.numbers, d.isFinite = true := by
  have hattributes : u.finitize = u ↔ u.attributes.mapValues AttributeValue.finitize = u.attributes := by
    obtain ⟨name, admin, attributes⟩ := u
    simp [User.finitize]
  rw [hattributes, SortedMap.mapValues_eq_self_iff]
  simp only [numbers, List.mem_flatMap, forall_exists_index, and_imp]
  constructor
  · exact fun hsame d e he => (AttributeValue.finitize_eq_self_iff (h e he)).1 (hsame e he) d
  · exact fun hfinite e he => (AttributeValue.finitize_eq_self_iff (h e he)).2 fun d => hfinite d e he

theorem ofJson?_toJson_eq (h : u.Canonical) : ofJson? u.toJson = some u.finitize := by
  let f : Fields := ⟨u.name, some u.featureAdmin,
    some (AttributeValue.membersToJson u.attributes.entries)⟩
  have hf : f.InObject [("name", .string u.name), ("featureAdmin", .bool u.featureAdmin),
      ("attributes", .object (AttributeValue.membersToJson u.attributes.entries))] :=
    ⟨rfl, rfl, rfl⟩
  have huser : f.user = u.finitize := by
    have hattributes : SortedMap.ofList (f.listed.map (Prod.map id .ofJson)) =
        u.attributes.mapValues AttributeValue.finitize := by
      have hread : ∀ e ∈ u.attributes.entries,
          (AttributeValue.ofJson ∘ AttributeValue.toJson) e.2 = e.2.finitize :=
        fun e he => AttributeValue.ofJson_toJson (h e he)
      rw [← SortedMap.mapValues_congr hread, ← SortedMap.ofList_entries (u.attributes.mapValues _),
        SortedMap.entries_mapValues, Fields.listed, Option.getD_some,
        AttributeValue.membersToJson_eq, List.map_map, Prod.map_comp_map, Function.comp_id]
    rw [Fields.user, hattributes]
    rfl
  exact ofJson?_object_iff.2 ⟨f, hf, huser⟩

end Canonical

/-- What comes back of a user who is written. -/
structure Reloads (u v : User) : Prop where
  name : v.name = u.name
  featureAdmin : v.featureAdmin = u.featureAdmin
  attribute? : ∀ name, v.attribute? name = (u.attribute? name).map AttributeValue.finitize
  /-- The finite numbers stay, with their bits and in their order, and no others do. -/
  numbers : v.numbers = u.numbers.filter (·.isFinite)
  same_iff : v = u ↔ ∀ d ∈ u.numbers, d.isFinite = true
  /-- Writing and reading once more changes nothing. -/
  again : ofJson? v.toJson = some v

/-- A user who is written as a JSON value can be read from it, and is the same but for the numbers
that are not finite. -/
theorem ofJson?_toJson_reloads {u : User} (h : u.Canonical) :
    ∃ v, ofJson? u.toJson = some v ∧ u.Reloads v := by
  have hnumbers := numbers_finitize h
  have hsettled : u.finitize.finitize = u.finitize := by
    rw [finitize_eq_self_iff h.finitize, hnumbers]
    exact fun d hd => (List.mem_filter.1 hd).2
  refine ⟨u.finitize, ofJson?_toJson_eq h, rfl, rfl, fun name => SortedMap.get?_mapValues _ _,
    hnumbers, finitize_eq_self_iff h, ?_⟩
  rw [ofJson?_toJson_eq h.finitize, hsettled]

/-- Of a list with a NaN and the negative zero, the NaN is lost. -/
theorem ofJson?_toJson_reloads_scores :
    let nan : Double := ⟨0x7FF8000000000000⟩
    let negativeZero : Double := ⟨0x8000000000000000⟩
    let u := (of "bob" true).setAttribute "scores"
      (.array [.number nan, .array [.number negativeZero], .string "NaN"])
    ∃ v, ofJson? u.toJson = some v ∧ v.featureAdmin = true ∧
      v.attribute? "scores" = some (.array [.null, .array [.number negativeZero], .string "NaN"]) ∧
      v ≠ u ∧ ofJson? v.toJson = some v := by
  intro nan negativeZero u
  have hnumbers : u.numbers = [nan, negativeZero] := rfl
  have hu : u.Canonical := (canonical_of "bob" true).setAttribute "scores" (.array (by
    simp only [List.forall_mem_cons]
    exact ⟨.number nan, .array (List.forall_mem_singleton.2 (.number negativeZero)), .string "NaN",
      List.forall_mem_nil _⟩))
  obtain ⟨v, hread, h⟩ := ofJson?_toJson_reloads hu
  have hscores : u.attribute? "scores" =
      some (.array [.number nan, .array [.number negativeZero], .string "NaN"]) := by
    rw [attribute?_setAttribute, if_pos rfl]
    rfl
  refine ⟨v, hread, h.featureAdmin, ?_, ?_, h.again⟩
  · have hnan : nan.isFinite = false := by decide
    have hzero : negativeZero.isFinite = true := by decide
    rw [h.attribute?, hscores]
    simp [AttributeValue.finitize, AttributeValue.finitizeItems, hnan, hzero]
  · rw [ne_eq, h.same_iff, hnumbers]
    decide

end User

end FeatureToggle
