import FeatureToggle.Double

/-!
# JSON values

A JSON value as a program sees it. The members of an object keep their order and may repeat a name,
so that each reader says for itself what a repeated member means.
-/
namespace FeatureToggle

/-- Whole numbers of up to 64 bits are told apart from all other numbers. -/
inductive JsonNumber where
  | integer (z : Int)
  | double (d : Double)
  deriving DecidableEq, Inhabited

/-- The double nearest to the number. -/
def JsonNumber.toDouble : JsonNumber → Double
  | integer z => Double.ofInt z
  | double d => d

inductive Json where
  | null
  | bool (b : Bool)
  | number (n : JsonNumber)
  | string (s : String)
  | array (items : List Json)
  | object (members : List (String × Json))
  deriving Inhabited

namespace Json

def string? : Json → Option String
  | string s => some s
  | _ => none

def bool? : Json → Option Bool
  | bool b => some b
  | _ => none

def integer? : Json → Option Int
  | number (.integer z) => some z
  | _ => none

def array? : Json → Option (List Json)
  | array items => some items
  | _ => none

def object? : Json → Option (List (String × Json))
  | object members => some members
  | _ => none

/-- A list of strings. -/
def strings? (j : Json) : Option (List String) := do (← j.array?).mapM string?

/-- An object all of whose members are strings. -/
def stringMembers? (j : Json) : Option (List (String × String)) := do
  (← j.object?).mapM fun m => do return (m.1, ← m.2.string?)

/-- The values of the members with the given name, in order. -/
def named (name : String) (members : List (String × Json)) : List Json :=
  (members.filter (·.1 = name)).map (·.2)

/-- Reads a member that occurs at most once; `default` stands for a missing one. -/
def member? {α : Type} (members : List (String × Json)) (name : String) (default : Option α)
    (read : Json → Option α) : Option α :=
  match named name members with
  | [] => default
  | [value] => read value
  | _ => none

end Json

end FeatureToggle
