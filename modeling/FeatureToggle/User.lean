import FeatureToggle.AttributeValue
import FeatureToggle.Json.Syntax

/-!
# Users

The callers for whom features are decided. An attribute that is set to `null` is removed; a user read
from JSON keeps the attributes as they stand there.
-/
namespace FeatureToggle

structure User where
  name : String
  featureAdmin : Bool
  attributes : SortedMap AttributeValue
  deriving Inhabited

namespace User

def of (name : String) (featureAdmin : Bool) : User := ⟨name, featureAdmin, .empty⟩

def attribute? (u : User) (name : String) : Option AttributeValue := u.attributes.get? name

def setAttribute (u : User) (name : String) (value : AttributeValue) : User :=
  { u with attributes := u.attributes.set name (if value.isNull then none else some value) }

def toJson (u : User) : Json :=
  .object [("name", .string u.name), ("featureAdmin", .bool u.featureAdmin),
    ("attributes", .object (AttributeValue.membersToJson u.attributes.entries))]

def attributesOfJson? : Json → Option (SortedMap AttributeValue)
  | .object members => (AttributeValue.decodeMembers? members).map SortedMap.ofList
  | _ => none

/-- Reads an object of which only the name is required, or an array of the same values. -/
def ofJson? : Json → Option User
  | .object members => do
    return {
      name := ← Json.member? members "name" none Json.string?
      featureAdmin := ← Json.member? members "featureAdmin" (some false) Json.bool?
      attributes := ← Json.member? members "attributes" (some .empty) attributesOfJson? }
  | .array [name] => do return ⟨← name.string?, false, .empty⟩
  | .array [name, admin] => do return ⟨← name.string?, ← admin.bool?, .empty⟩
  | .array [name, admin, attributes] => do
    return ⟨← name.string?, ← admin.bool?, ← attributesOfJson? attributes⟩
  | _ => none

def memberNames : List String := ["name", "featureAdmin", "attributes"]

def ofText? (text : String) : Option User := do
  ofJson? (← ((← Json.Syntax.read? text).keepOnly memberNames).toJson? Json.maxDepth)

end User

/-- Where the identity of the current caller comes from. -/
inductive UserProvider where
  /-- Every caller is anonymous. -/
  | anonymous
  /-- Every caller is the same. -/
  | constant (user : Option User)
  /-- The caller is whoever signed in last. -/
  | session (user : Option User)
  deriving Inhabited

namespace UserProvider

def currentUser : UserProvider → Option User
  | anonymous => none
  | constant user => user
  | session user => user

def signIn (provider : UserProvider) (user : Option User) : UserProvider :=
  match provider with
  | session _ => session user
  | provider => provider

end UserProvider

end FeatureToggle
