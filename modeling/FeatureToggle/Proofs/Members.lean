import FeatureToggle.Json.Basic
import FeatureToggle.SortedMap
import Mathlib.Data.List.Forall2
import Mathlib.Data.List.Induction

/-!
# Members of JSON objects

What the readers of members accept, in terms of the values that they stand for. A required member
has to occur exactly once, one with a default at most once (`member?_required`, `member?_optional`),
and neither the order of the members nor those of other names matter (`member?_congr`). Of several
entries with one key a map keeps the last (`SortedMap.get?_ofList`).
-/
namespace FeatureToggle

/-! ## Repeated entries -/

/-- The value of the last entry with the key. -/
def lastValue {α : Type} (key : String) (entries : List (String × α)) : Option α :=
  (entries.reverse.find? (·.1 = key)).map (·.2)

section LastValue

variable {α β : Type}

theorem lastValue_append_singleton (key : String) (entries : List (String × α)) (e : String × α) :
    lastValue key (entries ++ [e]) = if e.1 = key then some e.2 else lastValue key entries := by
  by_cases h : e.1 = key
  · simp [lastValue, h]
  · simp [lastValue, h]

theorem mem_of_lastValue {key : String} {entries : List (String × α)} {a : α}
    (h : lastValue key entries = some a) : (key, a) ∈ entries := by
  obtain ⟨e, he, rfl⟩ := Option.map_eq_some_iff.1 h
  obtain rfl : e.1 = key := by simpa using List.find?_some he
  exact List.mem_reverse.1 (List.mem_of_find?_eq_some he)

theorem exists_lastValue {key : String} {entries : List (String × α)} {a : α}
    (h : (key, a) ∈ entries) : ∃ b, lastValue key entries = some b := by
  have hfound : (entries.reverse.find? (·.1 = key)).isSome :=
    List.find?_isSome.2 ⟨_, List.mem_reverse.2 h, by simp⟩
  obtain ⟨e, he⟩ := Option.isSome_iff_exists.1 hfound
  exact ⟨e.2, by rw [lastValue, he, Option.map_some]⟩

/-- If entries are related one by one, so are the last ones of each key. -/
theorem rel_lastValue {R : α → β → Prop} {as : List (String × α)} {bs : List (String × β)}
    (h : List.Forall₂ (fun a b => a.1 = b.1 ∧ R a.2 b.2) as bs) (key : String) :
    Option.Rel R (lastValue key as) (lastValue key bs) := by
  have hreverse := List.forall₂_reverse_iff.2 h
  rw [lastValue, lastValue]
  generalize as.reverse = as', bs.reverse = bs' at hreverse
  induction hreverse with
  | nil => exact .none
  | @cons x y xs ys hxy _ ih =>
    obtain ⟨hkey, hvalue⟩ := hxy
    by_cases hx : x.1 = key
    · have hy : y.1 = key := hkey ▸ hx
      simpa [hx, hy] using hvalue
    · have hy : y.1 ≠ key := hkey ▸ hx
      simpa [hx, hy] using ih

theorem exists_lastValue_left {R : α → β → Prop} {as : List (String × α)} {bs : List (String × β)}
    (h : List.Forall₂ (fun a b => a.1 = b.1 ∧ R a.2 b.2) as bs) {key : String} {b : β}
    (hb : lastValue key bs = some b) : ∃ a, lastValue key as = some a ∧ R a b := by
  have hrel := rel_lastValue h key
  rw [hb] at hrel
  generalize lastValue key as = a? at hrel ⊢
  cases hrel with
  | some hab => exact ⟨_, rfl, hab⟩

theorem exists_lastValue_right {R : α → β → Prop} {as : List (String × α)}
    {bs : List (String × β)} (h : List.Forall₂ (fun a b => a.1 = b.1 ∧ R a.2 b.2) as bs)
    {key : String} {a : α} (ha : lastValue key as = some a) :
    ∃ b, lastValue key bs = some b ∧ R a b := by
  have hrel := rel_lastValue h key
  rw [ha] at hrel
  generalize lastValue key bs = b? at hrel ⊢
  cases hrel with
  | some hab => exact ⟨_, rfl, hab⟩

theorem lastValue_map (f : α → β) (key : String) (entries : List (String × α)) :
    lastValue key (entries.map (Prod.map id f)) = (lastValue key entries).map f := by
  induction entries using List.reverseRecOn with
  | nil => rfl
  | append_singleton entries e ih =>
    rw [List.map_append, List.map_singleton, lastValue_append_singleton,
      lastValue_append_singleton, ih]
    by_cases h : e.1 = key
    · simp [h]
    · simp [h]

theorem SortedMap.ofList_append_singleton (entries : List (String × α)) (e : String × α) :
    ofList (entries ++ [e]) = (ofList entries).insert e.1 e.2 := by
  rw [ofList, List.foldl_append]
  rfl

@[simp] theorem SortedMap.get?_ofList (entries : List (String × α)) (key : String) :
    (ofList entries).get? key = lastValue key entries := by
  induction entries using List.reverseRecOn with
  | nil => rfl
  | append_singleton entries e ih =>
    rw [ofList_append_singleton, get?_insert, lastValue_append_singleton, ih]

end LastValue

/-! ## Lists -/

section MapM

variable {α β : Type} {read : α → Option β}

theorem mapM_eq_some_iff {as : List α} {bs : List β} :
    as.mapM read = some bs ↔ List.Forall₂ (fun a b => read a = some b) as bs := by
  induction as generalizing bs with
  | nil => cases bs <;> simp
  | cons a as ih =>
    simp only [List.mapM_cons, Option.bind_eq_bind, Option.bind_eq_some_iff, Option.pure_def,
      Option.some.injEq, ih]
    constructor
    · rintro ⟨b, hb, bs, hbs, rfl⟩
      exact .cons hb hbs
    · intro h
      cases h with
      | cons hb hbs => exact ⟨_, hb, _, hbs, rfl⟩

/-- Reading all items, if each value is read from one item only. -/
theorem mapM_eq_some_iff_eq_map {write : β → α} (h : ∀ a b, read a = some b ↔ a = write b)
    {as : List α} {bs : List β} : as.mapM read = some bs ↔ as = bs.map write := by
  simp only [mapM_eq_some_iff, h]
  rw [← List.forall₂_map_right_iff, List.forall₂_eq_eq_eq]

end MapM

namespace Json

/-! ## Values -/

theorem string?_eq_some_iff (j : Json) (s : String) : j.string? = some s ↔ j = .string s := by
  cases j <;> simp [string?]

theorem bool?_eq_some_iff (j : Json) (b : Bool) : j.bool? = some b ↔ j = .bool b := by
  cases j <;> simp [bool?]

theorem array?_eq_some_iff (j : Json) (items : List Json) :
    j.array? = some items ↔ j = .array items := by
  cases j <;> simp [array?]

theorem object?_eq_some_iff (j : Json) (members : List (String × Json)) :
    j.object? = some members ↔ j = .object members := by
  cases j <;> simp [object?]

theorem strings?_eq_some_iff (j : Json) (ss : List String) :
    j.strings? = some ss ↔ j = .array (ss.map .string) := by
  simp only [strings?, Option.bind_eq_bind, Option.bind_eq_some_iff, array?_eq_some_iff,
    mapM_eq_some_iff_eq_map string?_eq_some_iff, exists_eq_right]

/-- The object with these strings as members. -/
def ofStrings (entries : List (String × String)) : Json :=
  .object (entries.map (Prod.map id .string))

theorem stringMembers?_eq_some_iff (j : Json) (entries : List (String × String)) :
    j.stringMembers? = some entries ↔ j = ofStrings entries := by
  have hmember (m : String × Json) (e : String × String) :
      (do return (m.1, ← m.2.string?)) = some e ↔ m = Prod.map id .string e := by
    obtain ⟨name, value⟩ := m
    obtain ⟨name', s⟩ := e
    simp only [Option.bind_eq_bind, Option.bind_eq_some_iff, Option.pure_def, Option.some.injEq,
      string?_eq_some_iff, Prod.mk.injEq, Prod.map_apply, id_eq]
    constructor
    · rintro ⟨s, rfl, rfl, rfl⟩
      exact ⟨rfl, rfl⟩
    · rintro ⟨rfl, rfl⟩
      exact ⟨s, rfl, rfl, rfl⟩
  rw [stringMembers?, Option.bind_eq_bind, Option.bind_eq_some_iff]
  simp only [mapM_eq_some_iff_eq_map hmember, object?_eq_some_iff, exists_eq_right, ofStrings]

theorem map_stringMembers?_eq_some_iff (j : Json) (m : SortedMap String) :
    j.stringMembers?.map SortedMap.ofList = some m ↔
      ∃ entries, j = ofStrings entries ∧ SortedMap.ofList entries = m := by
  simp only [Option.map_eq_some_iff, stringMembers?_eq_some_iff]

/-! ## Members -/

section Member

variable {α β : Type} {members members' : List (String × Json)} {name : String}
  {read : Json → Option α} {write : α → Json}

theorem member?_required (h : ∀ j a, read j = some a ↔ j = write a) {a : α} :
    member? members name none read = some a ↔ named name members = [write a] := by
  rw [member?]
  rcases named name members with _ | ⟨value, _ | ⟨next, rest⟩⟩
  · simp
  · simp [h]
  · simp

/-- A member with a default, if what is read from it goes through `f`. -/
theorem member?_optional_map {read : Json → Option β} {f : α → β}
    (h : ∀ j b, read j = some b ↔ ∃ a, j = write a ∧ f a = b) (default : α) {b : β} :
    member? members name (some (f default)) read = some b ↔
      ∃ given : Option α, named name members = (given.map write).toList ∧
        f (given.getD default) = b := by
  rw [member?, Option.exists]
  rcases named name members with _ | ⟨value, _ | ⟨next, rest⟩⟩
  · simp
  · simp [h]
  · simp

theorem member?_optional (h : ∀ j a, read j = some a ↔ j = write a) {default a : α} :
    member? members name (some default) read = some a ↔
      ∃ given : Option α, named name members = (given.map write).toList ∧
        given.getD default = a := by
  refine member?_optional_map (f := id) (fun j b => ?_) default
  rw [h]
  exact ⟨fun hj => ⟨b, hj, rfl⟩, fun ⟨_, hj, heq⟩ => heq ▸ hj⟩

/-- A reader looks at nothing but the values of its name, and only if there is one of them. -/
theorem member?_congr (h : (named name members).Perm (named name members')) (default : Option α) :
    member? members name default read = member? members' name default read := by
  rw [member?, member?]
  generalize named name members = values, named name members' = values' at h
  rcases values with _ | ⟨value, _ | ⟨next, rest⟩⟩
  · rw [List.nil_perm.1 h]
  · rw [List.singleton_perm.1 h]
  · have hlength := h.length_eq
    rcases values' with _ | ⟨value', _ | ⟨next', rest'⟩⟩
    · simp at hlength
    · simp at hlength
    · rfl

/-- The values of a name among all members are those among the members of certain names, if it is
one of them. -/
theorem named_filter {names : List String} (h : name ∈ names) (members : List (String × Json)) :
    named name (members.filter fun m => names.contains m.1) = named name members := by
  rw [named, named, List.filter_filter]
  congr 1
  refine List.filter_congr fun m _ => ?_
  by_cases hm : m.1 = name
  · simp [hm, h]
  · simp [hm]

theorem named_perm (h : members.Perm members') (name : String) :
    (named name members).Perm (named name members') :=
  (h.filter _).map _

end Member

end Json

end FeatureToggle
