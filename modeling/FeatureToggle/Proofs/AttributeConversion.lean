import FeatureToggle.Proofs.AttributeDecoding
import FeatureToggle.Proofs.Members
import FeatureToggle.Proofs.NearestDoubles

/-!
# Two ways to an attribute value

Converting a JSON value by its shape and decoding it by trying the kinds of attribute value in turn
come to the same value, in which every part has the kind of its JSON value, whole numbers have become
the nearest doubles and doubles have kept their bits (`decode?_agrees`). The conversion has an
alternative for numbers without a double, which is never taken.
-/
namespace FeatureToggle

theorem JsonNumber.double?_eq (n : JsonNumber) : n.double? = some n.toDouble := by
  cases n with
  | integer z => rfl
  | double d => rfl

/-- Induction on JSON values: a property of an array or an object may be concluded from that of each
of its parts. -/
@[elab_as_elim]
theorem Json.induction {P : Json → Prop} (null : P .null) (bool : ∀ b, P (.bool b))
    (number : ∀ n, P (.number n)) (string : ∀ s, P (.string s))
    (array : ∀ items, (∀ j ∈ items, P j) → P (.array items))
    (object : ∀ members, (∀ m ∈ members, P m.2) → P (.object members)) : ∀ j, P j
  | .null => null
  | .bool b => bool b
  | .number n => number n
  | .string s => string s
  | .array items => array items fun j _ => induction null bool number string array object j
  | .object members =>
    object members fun m _ => induction null bool number string array object m.2
termination_by j => sizeOf j
decreasing_by
  · have hlt := List.sizeOf_lt_of_mem ‹j ∈ items›
    rw [Json.array.sizeOf_spec]
    omega
  · have hlt := List.sizeOf_lt_of_mem ‹m ∈ members›
    obtain ⟨name, value⟩ := m
    rw [Prod.mk.sizeOf_spec] at hlt
    rw [Json.object.sizeOf_spec]
    change sizeOf value < 1 + sizeOf members
    omega

namespace AttributeValue

/-- An attribute value has the kind and the contents of a JSON value, at every depth. -/
inductive Corresponds : Json → AttributeValue → Prop where
  | null : Corresponds .null .null
  | bool (b : Bool) : Corresponds (.bool b) (.bool b)
  /-- A whole number of 64 bits becomes the nearest double; zero has no sign. -/
  | integer {z : Int} {d : Double} : (z.natAbs ≤ 2 ^ 64 → d.IsNearest z) →
      (d.isNegative = true ↔ z < 0) → Corresponds (.number (.integer z)) (.number d)
  | double (d : Double) : Corresponds (.number (.double d)) (.number d)
  | string (s : String) : Corresponds (.string s) (.string s)
  | array {items : List Json} {values : List AttributeValue} :
      List.Forall₂ Corresponds items values → Corresponds (.array items) (.array values)
  /-- Of several members with one name the last counts. -/
  | object {members : List (String × Json)} {m : SortedMap AttributeValue} :
      (∀ name, Option.Rel Corresponds (lastValue name members) (m.get? name)) →
      Corresponds (.object members) (.object m.entries)

section Convert

variable (otherwise : JsonNumber → Traced AttributeValue)

mutual

theorem convert_eq (j : Json) : convert otherwise j = pure (ofJson j) := by
  cases j with
  | array items => rw [convert, convertItems_eq items, pure_bind, ofJson]
  | object members => rw [convert, convertMembers_eq members, pure_bind, ofJson]
  | number n => rw [convert, n.double?_eq, ofJson]
  | null | bool | string => rw [convert, ofJson]

theorem convertItems_eq (items : List Json) : convertItems otherwise items = pure (ofItems items) := by
  cases items with
  | nil => rw [convertItems, ofItems]
  | cons item items =>
    rw [convertItems, convert_eq item, convertItems_eq items, pure_bind, pure_bind, ofItems]

theorem convertMembers_eq (members : List (String × Json)) :
    convertMembers otherwise members = pure (ofJsonMembers members) := by
  cases members with
  | nil => rw [convertMembers, ofJsonMembers]
  | cons m members =>
    rw [convertMembers, convert_eq m.2, convertMembers_eq members, pure_bind, pure_bind,
      ofJsonMembers]

end

end Convert

theorem ofItems_eq_map (items : List Json) : ofItems items = items.map ofJson := by
  induction items with
  | nil => rfl
  | cons item items ih => rw [ofItems, ih, List.map_cons]

theorem corresponds_ofJson (j : Json) : Corresponds j (ofJson j) := by
  induction j using Json.induction with
  | null => exact .null
  | bool b => exact .bool b
  | number n =>
    cases n with
    | integer z =>
      refine .integer (fun hz => Double.isNearest_ofInt ?_) (Double.isNegative_ofInt z)
      by_cases hzero : z.natAbs = 0
      · rw [hzero]
        decide
      · have hlog : z.natAbs.log2 < 65 := (Nat.log2_lt hzero).2 (by omega)
        omega
    | double d => exact .double d
  | string s => exact .string s
  | array items ih =>
    rw [ofJson, ofItems_eq_map]
    apply Corresponds.array
    rw [List.forall₂_map_right_iff, List.forall₂_same]
    exact ih
  | object members ih =>
    rw [ofJson, ofMembers, ofJsonMembers_eq_map]
    apply Corresponds.object
    intro name
    rw [SortedMap.get?_ofList]
    apply rel_lastValue
    rw [List.forall₂_map_right_iff, List.forall₂_same]
    exact fun m hm => ⟨rfl, ih m hm⟩

/-- Decoding a JSON value succeeds and gives the attribute value that it is converted to, which
corresponds to it at every depth. Nothing is ever asked of the alternative for numbers without a
double. -/
theorem decode?_agrees (j : Json) :
    decode? j = some (ofJson j) ∧ Corresponds j (ofJson j) ∧
      ∀ otherwise, convert otherwise j = pure (ofJson j) :=
  ⟨decode?_eq j, corresponds_ofJson j, fun otherwise => convert_eq otherwise j⟩

end AttributeValue

end FeatureToggle
