import FeatureToggle.AttributeValue

/-!
# Reading attribute values

Trying the kinds of attribute value in turn never goes wrong, since no JSON value can be read as two
of them: at every depth the attribute value of the same shape is found (`decode?_eq`).
-/
namespace FeatureToggle.AttributeValue

theorem isNull_iff {value : AttributeValue} : value.isNull = true ↔ value = .null := by
  cases value <;> simp [isNull]

theorem ofJson_eq_null_iff {j : Json} : ofJson j = .null ↔ j = .null := by
  cases j <;> simp [ofJson, ofMembers]

theorem ofJsonMembers_eq_map (members : List (String × Json)) :
    ofJsonMembers members = members.map (Prod.map id ofJson) := by
  induction members with
  | nil => rfl
  | cons m members ih => rw [ofJsonMembers, ih, List.map_cons, Prod.map_apply, id_eq]

mutual

theorem decode?_eq (j : Json) : decode? j = some (ofJson j) := by
  rw [decode?, arrayOfJson?.eq_def, objectOfJson?.eq_def]
  cases j with
  | array items =>
    simp [decodeItems?_eq items, stringOfJson?, ofJson]
  | object members =>
    simp [decodeMembers?_eq members, stringOfJson?, numberOfJson?, boolOfJson?, ofJson]
  | null | bool | number | string =>
    simp [stringOfJson?, numberOfJson?, boolOfJson?, nullOfJson?, ofJson]

theorem decodeItems?_eq (items : List Json) : decodeItems? items = some (ofItems items) := by
  cases items with
  | nil => rw [decodeItems?, ofItems]
  | cons item items => simp [decodeItems?, decode?_eq item, decodeItems?_eq items, ofItems]

theorem decodeMembers?_eq (members : List (String × Json)) :
    decodeMembers? members = some (ofJsonMembers members) := by
  cases members with
  | nil => rw [decodeMembers?, ofJsonMembers]
  | cons m members =>
    obtain ⟨name, value⟩ := m
    simp [decodeMembers?, decode?_eq value, decodeMembers?_eq members, ofJsonMembers]

end

end FeatureToggle.AttributeValue
