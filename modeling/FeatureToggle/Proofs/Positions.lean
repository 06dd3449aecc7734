import FeatureToggle.SortedMap
import Mathlib.Data.List.Nodup

/-!
# Positions of keys

Catalogues and registries are lists of items with an index from the keys of the items to their
positions. As long as the index gives exactly the positions at which the keys stand (`Locates`), each
key stands once, and whoever asks the index finds what a walk through the list finds
(`Locates.bind_getElem?_eq_find?`). Appending an item with a new key keeps the index in step, and so
does putting an item in the place of one with the same key, which leaves the keys as they are.
-/
namespace FeatureToggle

/-- What is kept of a list that is read from left to right: the items that have not occurred
before. -/
inductive Firsts {α : Type} : List α → List α → Prop where
  | nil : Firsts [] []
  | again {items kept : List α} {a : α} : Firsts items kept → a ∈ items → Firsts (items ++ [a]) kept
  | new {items kept : List α} {a : α} : Firsts items kept → a ∉ items →
      Firsts (items ++ [a]) (kept ++ [a])

theorem Firsts.mem_iff {α : Type} {items kept : List α} (h : Firsts items kept) {a : α} :
    a ∈ kept ↔ a ∈ items := by
  induction h with
  | nil => exact Iff.rfl
  | again _ hmem ih =>
    rw [ih, List.mem_append, List.mem_singleton]
    exact ⟨.inl, fun h => h.elim id fun heq => heq ▸ hmem⟩
  | new _ _ ih => rw [List.mem_append, ih, List.mem_append]

/-- The index gives exactly the positions at which the keys stand. -/
def Locates (index : SortedMap Nat) (keys : List String) : Prop :=
  ∀ key i, index.get? key = some i ↔ keys[i]? = some key

namespace Locates

theorem empty : Locates .empty [] := by
  intro key i
  simp

variable {index : SortedMap Nat} {keys : List String} {key : String}

/-- Each key has one position, so that it stands in the list once. -/
theorem nodup (h : Locates index keys) : keys.Nodup := by
  rw [List.nodup_iff_getElem?_ne_getElem?]
  intro i j hij hj heq
  obtain ⟨key, hkey⟩ : ∃ key, keys[j]? = some key := ⟨keys[j], List.getElem?_eq_getElem hj⟩
  have hi := (h key i).2 (heq.trans hkey)
  rw [(h key j).2 hkey] at hi
  exact Nat.ne_of_lt hij (Option.some.inj hi).symm

theorem get?_eq_none_iff (h : Locates index keys) : index.get? key = none ↔ key ∉ keys := by
  rw [List.mem_iff_getElem?, not_exists, Option.eq_none_iff_forall_ne_some]
  simp only [ne_eq, h key]

theorem isSome_get?_iff (h : Locates index keys) : (index.get? key).isSome ↔ key ∈ keys := by
  rw [← not_iff_not, ← h.get?_eq_none_iff, Bool.not_eq_true, Option.isSome_eq_false_iff,
    Option.isNone_iff_eq_none]

/-- A new key comes to the end. -/
theorem append (h : Locates index keys) (hkey : key ∉ keys) :
    Locates (index.insert key keys.length) (keys ++ [key]) := by
  intro other i
  rw [SortedMap.get?_insert]
  by_cases hother : key = other
  · subst hother
    rw [if_pos rfl, Option.some.injEq]
    constructor
    · rintro rfl
      exact List.getElem?_concat_length
    · intro hi
      by_contra hne
      have hlt : i < keys.length := by
        have hbound := (List.getElem?_eq_some_iff.1 hi).1
        rw [List.length_append, List.length_singleton] at hbound
        omega
      rw [List.getElem?_append_left hlt] at hi
      exact hkey (List.mem_of_getElem? hi)
  · rw [if_neg hother, h other i]
    by_cases hlt : i < keys.length
    · rw [List.getElem?_append_left hlt]
    · rw [List.getElem?_append_right (Nat.le_of_not_lt hlt),
        List.getElem?_eq_none (Nat.le_of_not_lt hlt), List.getElem?_singleton]
      simp [hother]

variable {α : Type} {name : α → String} {items : List α} {i : Nat}

/-- An entry points at the item with its key. -/
theorem exists_getElem? (h : Locates index (items.map name)) (hi : index.get? key = some i) :
    ∃ x, items[i]? = some x ∧ name x = key := by
  have hkey := (h key i).1 hi
  rwa [List.getElem?_map, Option.map_eq_some_iff] at hkey

theorem get?_of_getElem? (h : Locates index (items.map name)) {x : α} (hx : items[i]? = some x) :
    index.get? (name x) = some i := by
  rw [h, List.getElem?_map, hx, Option.map_some]

/-- Looking a key up in the index comes to going through the list. -/
theorem bind_getElem?_eq_find? (h : Locates index (items.map name)) (key : String) :
    (index.get? key).bind (items[·]?) = items.find? (name · = key) := by
  cases hi : index.get? key with
  | none =>
    have hkey := h.get?_eq_none_iff.1 hi
    rw [Option.bind_none, eq_comm, List.find?_eq_none]
    intro x hx hname
    exact hkey (of_decide_eq_true hname ▸ List.mem_map_of_mem hx)
  | some i =>
    obtain ⟨x, hx, hname⟩ := h.exists_getElem? hi
    cases hfind : items.find? (name · = key) with
    | none =>
      have hne := List.find?_eq_none.1 hfind x (List.mem_of_getElem? hx)
      simp [hname] at hne
    | some y =>
      -- What the walk finds has the key as well, and so the same position.
      obtain ⟨j, hj⟩ := List.getElem?_of_mem (List.mem_of_find?_eq_some hfind)
      have hkey : name y = key := by simpa using List.find?_some hfind
      have hsame := h.get?_of_getElem? hj
      rw [hkey, hi, Option.some.injEq] at hsame
      subst hsame
      rw [Option.bind_some, hj]

/-- An item that takes the place of one with the same key changes no key. -/
theorem map_set (h : Locates index (items.map name)) {x : α}
    (hi : index.get? (name x) = some i) : (items.set i x).map name = items.map name := by
  have hkey := (h (name x) i).1 hi
  obtain ⟨hlt, hget⟩ := List.getElem?_eq_some_iff.1 hkey
  rw [List.map_set, ← hget, List.set_getElem_self]

end Locates

end FeatureToggle
