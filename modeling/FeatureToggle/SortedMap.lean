/-!
# Maps with sorted keys

A finite map from texts, kept as the list of its entries in ascending order of their keys. Two maps
with the same entries are equal, whatever the order in which the entries came.
-/
namespace FeatureToggle

/-- Each key is above all keys before it. -/
def Ascending {α : Type} (entries : List (String × α)) : Prop :=
  entries.Pairwise fun a b => a.1 < b.1

/-- Puts `value` under `key`, in place of what is there. -/
def insertEntry {α : Type} (key : String) (value : α) : List (String × α) → List (String × α)
  | [] => [(key, value)]
  | entry :: rest =>
    if key < entry.1 then (key, value) :: entry :: rest
    else if key = entry.1 then (key, value) :: rest
    else entry :: insertEntry key value rest

def eraseEntry {α : Type} (key : String) (entries : List (String × α)) : List (String × α) :=
  entries.filter fun entry => entry.1 ≠ key

def findEntry {α : Type} (key : String) : List (String × α) → Option α
  | [] => none
  | entry :: rest => if entry.1 = key then some entry.2 else findEntry key rest

theorem mem_insertEntry {α : Type} {key : String} {value : α} {e : String × α} :
    ∀ {entries : List (String × α)}, e ∈ insertEntry key value entries →
      e = (key, value) ∨ e ∈ entries
  | [], h => by simpa [insertEntry] using h
  | entry :: rest, h => by
    unfold insertEntry at h
    split at h
    · simpa using h
    · split at h
      · rcases List.mem_cons.1 h with h | h
        · exact .inl h
        · exact .inr (List.mem_cons_of_mem _ h)
      · rcases List.mem_cons.1 h with h | h
        · exact .inr (by simp [h])
        · exact (mem_insertEntry h).imp id (List.mem_cons_of_mem _)

theorem Ascending.insertEntry {α : Type} (key : String) (value : α) :
    ∀ {entries : List (String × α)}, Ascending entries →
      Ascending (insertEntry key value entries)
  | [], _ => by simp [FeatureToggle.insertEntry, Ascending]
  | entry :: rest, h => by
    obtain ⟨hlt, hrest⟩ := List.pairwise_cons.1 h
    unfold FeatureToggle.insertEntry
    split
    · next hk =>
      refine List.pairwise_cons.2 ⟨fun e he => ?_, h⟩
      rcases List.mem_cons.1 he with rfl | he
      · exact hk
      · exact String.lt_trans hk (hlt e he)
    · next hk =>
      split
      · next heq => exact List.pairwise_cons.2 ⟨fun e he => heq ▸ hlt e he, hrest⟩
      · next hne =>
        have hgt : entry.1 < key :=
          Std.lt_of_le_of_ne (String.not_lt.1 hk) fun h => hne h.symm
        refine List.pairwise_cons.2 ⟨fun e he => ?_, Ascending.insertEntry key value hrest⟩
        rcases mem_insertEntry he with rfl | he
        · exact hgt
        · exact hlt e he

theorem Ascending.eraseEntry {α : Type} (key : String) {entries : List (String × α)}
    (h : Ascending entries) : Ascending (eraseEntry key entries) :=
  List.Pairwise.filter _ h

/-- A key above all others goes to the end. -/
theorem insertEntry_of_forall_lt {α : Type} {key : String} (value : α) :
    ∀ {entries : List (String × α)}, (∀ e ∈ entries, e.1 < key) →
      insertEntry key value entries = entries ++ [(key, value)]
  | [], _ => rfl
  | entry :: rest, h => by
    have hlt : entry.1 < key := h entry List.mem_cons_self
    have hne : key ≠ entry.1 := fun heq => String.lt_irrefl key (heq ▸ hlt)
    have hrest : ∀ e ∈ rest, e.1 < key := fun e he => h e (List.mem_cons_of_mem entry he)
    rw [insertEntry, if_neg (String.lt_asymm hlt), if_neg hne,
      insertEntry_of_forall_lt value hrest, List.cons_append]

theorem findEntry_insertEntry {α : Type} (key other : String) (value : α) :
    ∀ entries : List (String × α), Ascending entries →
      findEntry other (insertEntry key value entries) =
        if key = other then some value else findEntry other entries
  | [], _ => by simp [insertEntry, findEntry]
  | entry :: rest, h => by
    have ih := findEntry_insertEntry key other value rest (List.pairwise_cons.1 h).2
    unfold insertEntry
    split
    · simp [findEntry]
    · split
      · next heq => by_cases ho : key = other <;> simp_all [findEntry]
      · next hne =>
        by_cases ho : entry.1 = other
        · simp [findEntry, ho, show ¬ key = other from fun h => hne (h.trans ho.symm)]
        · simp [findEntry, ho, ih]

theorem findEntry_eraseEntry {α : Type} (key other : String) (entries : List (String × α)) :
    findEntry other (eraseEntry key entries) =
      if key = other then none else findEntry other entries := by
  induction entries with
  | nil => simp [eraseEntry, findEntry]
  | cons entry rest ih =>
    simp only [eraseEntry] at ih
    by_cases hk : entry.1 = key
    · by_cases ho : key = other <;> simp_all [eraseEntry, findEntry]
    · by_cases ho : key = other
      · subst ho; simp_all [eraseEntry, findEntry]
      · by_cases he : entry.1 = other <;> simp_all [eraseEntry, findEntry]

theorem findEntry_of_forall_lt {α : Type} {key : String} {entries : List (String × α)}
    (h : ∀ e ∈ entries, key < e.1) : findEntry key entries = none := by
  induction entries with
  | nil => rfl
  | cons entry rest ih =>
    have hne : entry.1 ≠ key := fun heq =>
      String.lt_irrefl key (heq ▸ h entry List.mem_cons_self)
    rw [findEntry, if_neg hne, ih fun e he => h e (List.mem_cons_of_mem _ he)]

/-- Among sorted entries each one is found under its key. -/
theorem Ascending.mem_iff {α : Type} {entries : List (String × α)} (h : Ascending entries)
    {e : String × α} : e ∈ entries ↔ findEntry e.1 entries = some e.2 := by
  induction entries with
  | nil => simp [findEntry]
  | cons entry rest ih =>
    obtain ⟨hlt, hrest⟩ := List.pairwise_cons.1 h
    rw [List.mem_cons, ih hrest, findEntry]
    by_cases hkey : entry.1 = e.1
    · rw [if_pos hkey, findEntry_of_forall_lt (hkey ▸ hlt)]
      simp [Prod.ext_iff, hkey, eq_comm]
    · rw [if_neg hkey]
      simp [Prod.ext_iff, Ne.symm hkey]

/-- Sorted entries in which the same is found are the same. -/
theorem Ascending.eq_of_findEntry {α : Type} {as bs : List (String × α)} (ha : Ascending as)
    (hb : Ascending bs) (h : ∀ key, findEntry key as = findEntry key bs) : as = bs := by
  induction as generalizing bs with
  | nil =>
    cases bs with
    | nil => rfl
    | cons b bs => simpa [findEntry] using h b.1
  | cons a as ih =>
    cases bs with
    | nil => simpa [findEntry] using h a.1
    | cons b bs =>
      obtain ⟨hlta, hrest⟩ := List.pairwise_cons.1 ha
      obtain ⟨hltb, hrest'⟩ := List.pairwise_cons.1 hb
      have hnone {x y : String × α} {rest : List (String × α)} (hxy : x.1 < y.1)
          (hy : ∀ e ∈ rest, y.1 < e.1) : findEntry x.1 (y :: rest) = none :=
        findEntry_of_forall_lt
          (List.forall_mem_cons.2 ⟨hxy, fun e he => String.lt_trans hxy (hy e he)⟩)
      -- Neither of the first keys is below the other, or else it is found in one list only.
      have hab : ¬ a.1 < b.1 := by
        intro hlt
        have hfound := h a.1
        rw [hnone hlt hltb] at hfound
        simp [findEntry] at hfound
      have hba : ¬ b.1 < a.1 := by
        intro hlt
        have hfound := h b.1
        rw [hnone hlt hlta] at hfound
        simp [findEntry] at hfound
      have hkey : a.1 = b.1 := String.le_antisymm (String.not_lt.1 hba) (String.not_lt.1 hab)
      have hvalue : a.2 = b.2 := by simpa [findEntry, hkey] using h a.1
      have htail : ∀ key, findEntry key as = findEntry key bs := by
        intro key
        by_cases hk : a.1 = key
        · rw [← hk, findEntry_of_forall_lt hlta, hkey, findEntry_of_forall_lt hltb]
        · simpa [findEntry, hk, hkey ▸ hk] using h key
      rw [Prod.ext hkey hvalue, ih hrest hrest' htail]

structure SortedMap (α : Type) where
  entries : List (String × α)
  ascending : Ascending entries

namespace SortedMap

variable {α : Type}

instance [DecidableEq α] : DecidableEq (SortedMap α) := fun a b =>
  if h : a.entries = b.entries then
    .isTrue (by cases a; cases b; simpa using h)
  else .isFalse fun he => h (he ▸ rfl)

@[ext] theorem ext {a b : SortedMap α} (h : a.entries = b.entries) : a = b := by
  cases a; cases b; simpa using h

def empty : SortedMap α := ⟨[], .nil⟩

instance : Inhabited (SortedMap α) := ⟨empty⟩

def insert (m : SortedMap α) (key : String) (value : α) : SortedMap α :=
  ⟨insertEntry key value m.entries, m.ascending.insertEntry key value⟩

def erase (m : SortedMap α) (key : String) : SortedMap α :=
  ⟨eraseEntry key m.entries, m.ascending.eraseEntry key⟩

def get? (m : SortedMap α) (key : String) : Option α := findEntry key m.entries

/-- Puts the value under the key, or removes the key if there is none. -/
def set (m : SortedMap α) (key : String) : Option α → SortedMap α
  | some value => m.insert key value
  | none => m.erase key

def keys (m : SortedMap α) : List String := m.entries.map (·.1)

/-- The entries in the given order; of several with one key the last stays. -/
def ofList (entries : List (String × α)) : SortedMap α :=
  entries.foldl (fun m e => m.insert e.1 e.2) empty

@[simp] theorem entries_empty : (empty : SortedMap α).entries = [] := rfl

theorem entries_foldl_insert (m : SortedMap α) {entries : List (String × α)}
    (h : Ascending (m.entries ++ entries)) :
    (entries.foldl (fun m e => m.insert e.1 e.2) m).entries = m.entries ++ entries := by
  induction entries generalizing m with
  | nil => exact (List.append_nil _).symm
  | cons e rest ih =>
    have hlt : ∀ e' ∈ m.entries, e'.1 < e.1 := fun e' he' =>
      (List.pairwise_append.1 h).2.2 e' he' e List.mem_cons_self
    have hinsert : (m.insert e.1 e.2).entries = m.entries ++ [e] :=
      insertEntry_of_forall_lt e.2 hlt
    have hsplit : m.entries ++ e :: rest = (m.insert e.1 e.2).entries ++ rest := by
      rw [hinsert, List.append_assoc, List.singleton_append]
    rw [hsplit] at h ⊢
    exact ih _ h

/-- A map is made of its entries. -/
@[simp] theorem ofList_entries (m : SortedMap α) : ofList m.entries = m :=
  ext (entries_foldl_insert empty m.ascending)

@[simp] theorem get?_empty (key : String) : (empty : SortedMap α).get? key = none := rfl

@[simp] theorem get?_insert (m : SortedMap α) (key other : String) (value : α) :
    (m.insert key value).get? other = if key = other then some value else m.get? other :=
  findEntry_insertEntry key other value m.entries m.ascending

@[simp] theorem get?_erase (m : SortedMap α) (key other : String) :
    (m.erase key).get? other = if key = other then none else m.get? other :=
  findEntry_eraseEntry key other m.entries

@[simp] theorem get?_set (m : SortedMap α) (key other : String) (value : Option α) :
    (m.set key value).get? other = if key = other then value else m.get? other := by
  cases value <;> simp [set]

theorem mem_entries_iff {m : SortedMap α} {e : String × α} :
    e ∈ m.entries ↔ m.get? e.1 = some e.2 := m.ascending.mem_iff

theorem nodup_keys (m : SortedMap α) : m.keys.Nodup := by
  rw [keys, List.Nodup, List.pairwise_map]
  refine m.ascending.imp ?_
  intro a b hlt heq
  exact String.lt_irrefl b.1 (heq ▸ hlt)

/-- A map is what is found in it. -/
theorem ext_get? {a b : SortedMap α} (h : ∀ key, a.get? key = b.get? key) : a = b :=
  ext (a.ascending.eq_of_findEntry b.ascending h)

@[simp] theorem set_set (m : SortedMap α) (key : String) (value value' : Option α) :
    (m.set key value).set key value' = m.set key value' := by
  refine ext_get? fun other => ?_
  rw [get?_set, get?_set, get?_set]
  split
  · rfl
  · rfl

end SortedMap

end FeatureToggle
