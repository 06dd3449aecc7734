import FeatureToggle.Json.Basic

/-!
# JSON text

Reading goes in two steps. `Json.Syntax.read?` checks the grammar alone and keeps numbers as digits.
`Json.Syntax.toJson?` then gives the tree its values, and fails where a value has none: a string with
an unpaired surrogate, a number too large for a double, or more than `maxDepth` containers in each
other. A part of a text that nobody asks for needs to satisfy the grammar only, and is dropped
between the steps.
-/
namespace FeatureToggle.Json

/-- A number as it is written. The digits of the whole part have no leading zero. -/
structure Numeral where
  negative : Bool
  whole : List Nat
  fraction : Option (List Nat)
  exponent : Option (Bool × List Nat)
  deriving DecidableEq, Repr

inductive Syntax where
  | null
  | bool (b : Bool)
  | number (n : Numeral)
  | string (text : Option String)
  | array (items : List Syntax)
  | object (members : List (Option String × Syntax))
  deriving Inhabited

/-! ## Numbers -/

namespace Numeral

/-- The first number beyond 64 bits. -/
def wordLimit : Nat := 0x10000000000000000

/-- The number that the digits denote, as long as it fits 64 bits, and the digits left over. -/
def accumulate (acc : Nat) : List Nat → Nat × List Nat
  | [] => (acc, [])
  | d :: ds => if acc * 10 + d < wordLimit then accumulate (acc * 10 + d) ds else (acc, d :: ds)

def digitsValue (digits : List Nat) : Nat := digits.foldl (fun n d => n * 10 + d) 0

/-- Digits beyond the first 64 bits count as places only. -/
def toDouble? (n : Numeral) : Option Double :=
  let (high, dropped) := accumulate 0 n.whole
  let fraction := n.fraction.getD []
  let (significand, rest) := accumulate high fraction
  let places : Int := dropped.length - (fraction.length - rest.length : Nat)
  let exponent : Int := match n.exponent with
    | none => 0
    | some (negative, digits) =>
      if negative then - (digitsValue digits : Int) else digitsValue digits
  Double.ofDecimal? n.negative significand (places + exponent)

/-- A numeral of digits alone is an integer if it fits 64 bits, with the exception of `-0`. -/
def toNumber? (n : Numeral) : Option JsonNumber :=
  let value := digitsValue n.whole
  if n.fraction.isNone && n.exponent.isNone then
    if n.negative then
      if 0 < value && value ≤ 0x8000000000000000 then some (.integer (-value))
      else if value < wordLimit then some (.double (.ofMagnitude true (Double.roundRatio value 1)))
      else n.toDouble?.map .double
    else if value < wordLimit then some (.integer value)
    else n.toDouble?.map .double
  else n.toDouble?.map .double

end Numeral

def digit? (c : Char) : Option Nat :=
  if '0' ≤ c ∧ c ≤ '9' then some (c.toNat - '0'.toNat) else none

/-- The leading digits of a text, and what follows them. -/
def readDigits : List Char → List Nat × List Char
  | [] => ([], [])
  | c :: cs =>
    match digit? c with
    | some d => let (ds, rest) := readDigits cs; (d :: ds, rest)
    | none => ([], c :: cs)

def readFraction : List Char → Option (Option (List Nat) × List Char)
  | '.' :: cs =>
    match readDigits cs with
    | ([], _) => none
    | (ds, rest) => some (some ds, rest)
  | cs => some (none, cs)

def readExponent : List Char → Option (Option (Bool × List Nat) × List Char)
  | c :: cs =>
    if c = 'e' ∨ c = 'E' then
      let (negative, cs) := match cs with
        | '+' :: cs => (false, cs)
        | '-' :: cs => (true, cs)
        | cs => (false, cs)
      match readDigits cs with
      | ([], _) => none
      | (ds, rest) => some (some (negative, ds), rest)
    else some (none, c :: cs)
  | [] => some (none, [])

/-- A number after its sign. -/
def readMagnitude (negative : Bool) (cs : List Char) : Option (Syntax × List Char) := do
  let (whole, cs) := readDigits cs
  match whole with
  | [] | 0 :: _ :: _ => none
  | whole =>
    let (fraction, cs) ← readFraction cs
    let (exponent, cs) ← readExponent cs
    return (.number ⟨negative, whole, fraction, exponent⟩, cs)

/-! ## Strings -/

/-- A part of a string: a character, or a 16-bit unit given by an escape. -/
inductive Symbol where
  | char (c : Char)
  | unit (n : Nat)
  deriving DecidableEq

def hexDigit? (c : Char) : Option Nat :=
  if '0' ≤ c ∧ c ≤ '9' then some (c.toNat - '0'.toNat)
  else if 'a' ≤ c ∧ c ≤ 'f' then some (c.toNat - 'a'.toNat + 10)
  else if 'A' ≤ c ∧ c ≤ 'F' then some (c.toNat - 'A'.toNat + 10)
  else none

/-- The escapes of one letter. -/
def escape? : Char → Option Char
  | '"' => some '"'
  | '\\' => some '\\'
  | '/' => some '/'
  | 'b' => some '\x08'
  | 'f' => some '\x0c'
  | 'n' => some '\n'
  | 'r' => some '\r'
  | 't' => some '\t'
  | _ => none

/-- The symbols of a string up to its closing quote, and what follows it. -/
def readSymbols : List Char → Option (List Symbol × List Char)
  | [] => none
  | '"' :: cs => some ([], cs)
  | '\\' :: 'u' :: a :: b :: c :: d :: cs => do
    let n := (((← hexDigit? a) * 16 + (← hexDigit? b)) * 16 + (← hexDigit? c)) * 16 + (← hexDigit? d)
    let (symbols, rest) ← readSymbols cs
    return (.unit n :: symbols, rest)
  | '\\' :: e :: cs => do
    let c ← escape? e
    let (symbols, rest) ← readSymbols cs
    return (.char c :: symbols, rest)
  | c :: cs => do
    if c.toNat < 0x20 ∨ c = '\\' then none
    let (symbols, rest) ← readSymbols cs
    return (.char c :: symbols, rest)

/-- The characters of the symbols. Surrogate units count in pairs only. -/
def assemble? : List Symbol → Option (List Char)
  | [] => some []
  | .char c :: rest => (assemble? rest).map (c :: ·)
  | .unit n :: rest =>
    if n < 0xd800 ∨ 0xe000 ≤ n then (assemble? rest).map (Char.ofNat n :: ·)
    else
      match rest with
      | .unit m :: rest =>
        if n < 0xdc00 ∧ 0xdc00 ≤ m ∧ m < 0xe000 then
          (assemble? rest).map (Char.ofNat (0x10000 + (n - 0xd800) * 0x400 + (m - 0xdc00)) :: ·)
        else none
      | _ => none

/-- A string after its opening quote. -/
def readString (cs : List Char) : Option (Option String × List Char) := do
  let (symbols, rest) ← readSymbols cs
  return ((assemble? symbols).map String.ofList, rest)

/-! ## Values -/

def isSpace (c : Char) : Bool := c == ' ' || c == '\n' || c == '\t' || c == '\r'

def skipSpace (cs : List Char) : List Char := cs.dropWhile isSpace

mutual

/-- Reads one value; `fuel` bounds the number of nested calls. -/
def readValue : Nat → List Char → Option (Syntax × List Char)
  | 0, _ => none
  | fuel + 1, cs =>
    match skipSpace cs with
    | 'n' :: 'u' :: 'l' :: 'l' :: cs => some (.null, cs)
    | 't' :: 'r' :: 'u' :: 'e' :: cs => some (.bool true, cs)
    | 'f' :: 'a' :: 'l' :: 's' :: 'e' :: cs => some (.bool false, cs)
    | '"' :: cs => (readString cs).map fun (text, cs) => (.string text, cs)
    | '[' :: cs =>
      match skipSpace cs with
      | ']' :: cs => some (.array [], cs)
      | cs => (readItems fuel cs).map fun (items, cs) => (.array items, cs)
    | '\x7b' :: cs =>
      match skipSpace cs with
      | '\x7d' :: cs => some (.object [], cs)
      | cs => (readMembers fuel cs).map fun (members, cs) => (.object members, cs)
    | '-' :: cs => readMagnitude true cs
    | cs => readMagnitude false cs

/-- The items of an array from the first one on, with the closing bracket. -/
def readItems : Nat → List Char → Option (List Syntax × List Char)
  | 0, _ => none
  | fuel + 1, cs => do
    let (item, cs) ← readValue fuel cs
    match skipSpace cs with
    | ',' :: cs =>
      let (items, cs) ← readItems fuel cs
      return (item :: items, cs)
    | ']' :: cs => return ([item], cs)
    | _ => none

/-- The members of an object from the first one on, with the closing brace. -/
def readMembers : Nat → List Char → Option (List (Option String × Syntax) × List Char)
  | 0, _ => none
  | fuel + 1, cs => do
    match skipSpace cs with
    | '"' :: cs =>
      let (name, cs) ← readString cs
      match skipSpace cs with
      | ':' :: cs =>
        let (value, cs) ← readValue fuel cs
        match skipSpace cs with
        | ',' :: cs =>
          let (members, cs) ← readMembers fuel cs
          return ((name, value) :: members, cs)
        | '\x7d' :: cs => return ([(name, value)], cs)
        | _ => none
      | _ => none
    | _ => none

end

namespace Syntax

/-- A whole text: one value, with white space around it. Each nested call starts one character
further on at least every second time. -/
def read? (text : String) : Option Syntax :=
  match readValue (2 * text.length + 2) text.toList with
  | some (value, rest) => if (skipSpace rest).isEmpty then some value else none
  | none => none

/-- Drops the members of an object whose names are not among the given ones. -/
def keepOnly (names : List String) : Syntax → Syntax
  | .object members => .object (members.filter fun m => m.1.all (names.contains ·))
  | s => s

mutual

/-- The value of a tree of at most `depth` nested containers. -/
def toJson? : Nat → Syntax → Option Json
  | _, .null => some .null
  | _, .bool b => some (.bool b)
  | _, .number n => n.toNumber?.map .number
  | _, .string text => text.map .string
  | 0, .array _ => none
  | 0, .object _ => none
  | depth + 1, .array items => (itemsToJson? depth items).map .array
  | depth + 1, .object members => (membersToJson? depth members).map .object

def itemsToJson? : Nat → List Syntax → Option (List Json)
  | _, [] => some []
  | depth, item :: items => do
    return (← toJson? depth item) :: (← itemsToJson? depth items)

def membersToJson? : Nat → List (Option String × Syntax) → Option (List (String × Json))
  | _, [] => some []
  | depth, (name, value) :: members => do
    return (← name, ← toJson? depth value) :: (← membersToJson? depth members)

end

end Syntax

/-- How many containers may stand in each other. -/
def maxDepth : Nat := 127

/-- The value of a text that is read as a whole. -/
def parse? (text : String) : Option Json := do (← Syntax.read? text).toJson? maxDepth

end FeatureToggle.Json
