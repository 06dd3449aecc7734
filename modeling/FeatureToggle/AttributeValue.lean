import FeatureToggle.Json.Basic
import FeatureToggle.SortedMap
import FeatureToggle.Trace

/-!
# Attribute values

What is known about a user under a name: the values of JSON with doubles for numbers. There are two
ways from a JSON value to an attribute value, one by the shape of the JSON value, one by trying the
kinds of attribute value in turn.
-/
namespace FeatureToggle

/-- The double that stands for the number, if there is one. -/
def JsonNumber.double? : JsonNumber → Option Double
  | integer z => some (Double.ofInt z)
  | double d => some d

/-- The members of an object are in ascending order of their names. -/
inductive AttributeValue where
  | string (s : String)
  | array (items : List AttributeValue)
  | number (d : Double)
  | bool (b : Bool)
  | object (members : List (String × AttributeValue))
  | null
  deriving Inhabited

namespace AttributeValue

/-- An object with the given members; of several with one name the last stays. -/
def ofMembers (members : List (String × AttributeValue)) : AttributeValue :=
  .object (SortedMap.ofList members).entries

mutual

/-- The attribute value of the same shape. -/
def ofJson : Json → AttributeValue
  | .null => .null
  | .bool b => .bool b
  | .number n => .number n.toDouble
  | .string s => .string s
  | .array items => .array (ofItems items)
  | .object members => ofMembers (ofJsonMembers members)

def ofItems : List Json → List AttributeValue
  | [] => []
  | item :: items => ofJson item :: ofItems items

def ofJsonMembers : List (String × Json) → List (String × AttributeValue)
  | [] => []
  | (name, value) :: members => (name, ofJson value) :: ofJsonMembers members

end

mutual

/-- The attribute value of the same shape. `otherwise` is what becomes of a number without a
double. -/
def convert (otherwise : JsonNumber → Traced AttributeValue) : Json → Traced AttributeValue
  | .null => pure .null
  | .bool b => pure (.bool b)
  | .number n =>
    match n.double? with
    | some d => pure (.number d)
    | none => otherwise n
  | .string s => pure (.string s)
  | .array items => do return .array (← convertItems otherwise items)
  | .object members => do return ofMembers (← convertMembers otherwise members)

def convertItems (otherwise : JsonNumber → Traced AttributeValue) :
    List Json → Traced (List AttributeValue)
  | [] => pure []
  | item :: items => do return (← convert otherwise item) :: (← convertItems otherwise items)

def convertMembers (otherwise : JsonNumber → Traced AttributeValue) :
    List (String × Json) → Traced (List (String × AttributeValue))
  | [] => pure []
  | (name, value) :: members => do
    return (name, ← convert otherwise value) :: (← convertMembers otherwise members)

end

/-- A reader for one kind of attribute value, given the readings of the parts. -/
def stringOfJson? : Json → Option AttributeValue
  | .string s => some (.string s)
  | _ => none

def numberOfJson? : Json → Option AttributeValue
  | .number n => some (.number n.toDouble)
  | _ => none

def boolOfJson? : Json → Option AttributeValue
  | .bool b => some (.bool b)
  | _ => none

def nullOfJson? : Json → Option AttributeValue
  | .null => some .null
  | _ => none

mutual

/-- The first kind of attribute value, in the order of the constructors, that the JSON value can be
read as. -/
def decode? (j : Json) : Option AttributeValue :=
  stringOfJson? j <|> arrayOfJson? j <|> numberOfJson? j <|> boolOfJson? j <|> objectOfJson? j <|>
    nullOfJson? j
termination_by (sizeOf j, 1)

def arrayOfJson? (j : Json) : Option AttributeValue :=
  match j with
  | .array items => (decodeItems? items).map .array
  | _ => none
termination_by (sizeOf j, 0)

def objectOfJson? (j : Json) : Option AttributeValue :=
  match j with
  | .object members => (decodeMembers? members).map ofMembers
  | _ => none
termination_by (sizeOf j, 0)

def decodeItems? (items : List Json) : Option (List AttributeValue) :=
  match items with
  | [] => some []
  | item :: items => do return (← decode? item) :: (← decodeItems? items)
termination_by (sizeOf items, 2)

def decodeMembers? (members : List (String × Json)) : Option (List (String × AttributeValue)) :=
  match members with
  | [] => some []
  | (name, value) :: members => do
    return (name, ← decode? value) :: (← decodeMembers? members)
termination_by (sizeOf members, 2)

end

mutual

/-- A number that is not finite has no JSON form, and becomes `null`. -/
def toJson : AttributeValue → Json
  | .string s => .string s
  | .array items => .array (itemsToJson items)
  | .number d => if d.isFinite then .number (.double d) else .null
  | .bool b => .bool b
  | .object members => .object (membersToJson members)
  | .null => .null

def itemsToJson : List AttributeValue → List Json
  | [] => []
  | item :: items => toJson item :: itemsToJson items

def membersToJson : List (String × AttributeValue) → List (String × Json)
  | [] => []
  | (name, value) :: members => (name, toJson value) :: membersToJson members

end

def isNull : AttributeValue → Bool
  | .null => true
  | _ => false

def asString? : AttributeValue → Option String
  | .string s => some s
  | _ => none

/-- The first value that satisfies `p`: of an array among its items, otherwise the value itself. In
`null` nothing is ever found. -/
def find? (p : AttributeValue → Bool) : AttributeValue → Option AttributeValue
  | .array items => items.find? p
  | .null => none
  | value => if p value then some value else none

/-- Whether the value is the string, or an array that holds it. -/
def containsString (value : AttributeValue) (s : String) : Bool :=
  (value.find? (·.asString? = some s)).isSome

end AttributeValue

end FeatureToggle
