import FeatureToggle.Pattern.Regex
import FeatureToggle.Pattern.Tables

/-!
# Reading patterns

The notation of regular expressions: literals, classes in brackets and by name, groups, alternatives,
repetitions, anchors and word boundaries, and flags that hold to the end of their group. There are
neither back-references nor conditions on what is around a match. A pattern that does not follow the
notation has no expression. Which names there are for classes, and what they stand for, is left to
the tables that a pattern is read with.
-/
namespace FeatureToggle.Pattern

structure Flags where
  ignoreCase : Bool
  multiLine : Bool
  dotAll : Bool
  crlf : Bool
  unicode : Bool
  /-- Blanks and comments between the parts do not count. -/
  verbose : Bool

/-- The flags in force, and the tables. -/
structure Setting extends Flags where
  tables : Tables

namespace Setting

def initial (t : Tables) : Setting := ⟨⟨false, false, false, false, true, false⟩, t⟩

variable (f : Setting)

/-- The characters that are digits, blanks, or in words. -/
def digit : CharClass := if f.unicode then f.tables.digit else .asciiDigit

def blank : CharClass := if f.unicode then f.tables.blank else .asciiBlank

def word : CharClass := if f.unicode then f.tables.word else .asciiWord

/-- The class with its variants in case, if case is to be ignored. -/
def fold (a : CharClass) : CharClass :=
  if f.ignoreCase then if f.unicode then f.tables.anyCase a else .anyAsciiCase a else a

/-- The complement, if it is asked for. Without Unicode it would hold parts of characters. -/
def negateIf? (negated : Bool) (a : CharClass) : Option CharClass :=
  if !negated then some a else if f.unicode then some (.complement a) else none

end Setting

/-- What is left to read, with the setting in force and the names of groups so far. -/
structure Reader where
  rest : List Char
  flags : Setting
  names : List (List Char)

/-! ## Blanks and comments -/

/-- Skips blanks, and comments from `#` to the end of the line. -/
def skipVerbose : Bool → List Char → List Char
  | _, [] => []
  | true, c :: cs => if c = '\n' then skipVerbose false cs else skipVerbose true cs
  | false, c :: cs =>
    if Text.isBlank c then skipVerbose false cs
    else if c = '#' then skipVerbose true cs
    else c :: cs

def skip (f : Setting) (cs : List Char) : List Char :=
  if f.verbose then skipVerbose false cs else cs

/-! ## Characters with a meaning -/

def metaCharacters : List Char :=
  ['\\', '.', '+', '*', '?', '(', ')', '|', '[', ']', '\x7b', '\x7d', '^', '$', '#', '&', '-', '~']

/-- Whether a backslash before the character makes it stand for itself. -/
def isEscapable (c : Char) : Bool :=
  metaCharacters.contains c || (c.toNat < 0x80 && !c.isAlphanum && c != '<' && c != '>')

def hexValue? (c : Char) : Option Nat :=
  if c.isDigit then some (c.toNat - '0'.toNat)
  else if 'a' ≤ c ∧ c ≤ 'f' then some (c.toNat - 'a'.toNat + 10)
  else if 'A' ≤ c ∧ c ≤ 'F' then some (c.toNat - 'A'.toNat + 10)
  else none

/-- The character with a code point, if there is one. -/
def charOfCode? (n : Nat) : Option Char :=
  if n.isValidChar then some (Char.ofNat n) else none

/-- A hexadecimal number of exactly `digits` digits. -/
def readHexDigits (f : Setting) : Nat → Nat → List Char → Option (Nat × List Char)
  | 0, acc, cs => some (acc, cs)
  | _ + 1, _, [] => none
  | digits + 1, acc, c :: cs => do
    readHexDigits f digits (acc * 16 + (← hexValue? c)) (skip f cs)

/-- A hexadecimal number up to the closing brace. -/
def readHexBrace (f : Setting) : Nat → Nat → List Char → Option (Nat × List Char)
  | 0, _, _ => none
  | _, _, [] => none
  | fuel + 1, acc, c :: cs =>
    if c = '\x7d' then some (acc, skip f cs)
    else do readHexBrace f fuel (acc * 16 + (← hexValue? c)) (skip f cs)

/-- A decimal number of 32 bits, with blanks around it. -/
def readNumber (f : Setting) (cs : List Char) : Option (Nat × List Char) :=
  let rec digits : Nat → List Char → List Char → List Char × List Char
    | fuel + 1, acc, c :: cs =>
      if c.isDigit then digits fuel (c :: acc) (skip f cs) else (acc.reverse, c :: cs)
    | _, acc, cs => (acc.reverse, cs)
  let (ds, rest) := digits cs.length [] (Text.dropBlanks cs)
  let rest := if (rest.head?.any Text.isBlank) then skip f (Text.dropBlanks rest) else rest
  let n := ds.foldl (fun n c => n * 10 + (c.toNat - '0'.toNat)) 0
  if ds.isEmpty ∨ 0x100000000 ≤ n then none else some (n, rest)

/-! ## Escapes -/

/-- What an escape stands for. A literal is marked if it was given as a byte. -/
inductive Primitive where
  | literal (c : Char) (byte : Bool)
  | assertion (a : Assertion)
  | set (a : CharClass)

/-- The class of `\d`, `\s`, `\w` and of their complements. -/
def letterClass? (f : Setting) : Char → Option CharClass
  | 'd' => some f.digit
  | 's' => some f.blank
  | 'w' => some f.word
  | 'D' => f.negateIf? true f.digit
  | 'S' => f.negateIf? true f.blank
  | 'W' => f.negateIf? true f.word
  | _ => none

/-- The characters up to the closing brace. -/
def readBraced (f : Setting) : Nat → List Char → Option (List Char × List Char)
  | 0, _ => none
  | _, [] => none
  | fuel + 1, c :: cs =>
    if c = '\x7d' then some ([], cs)
    else do
      let (name, rest) ← readBraced f fuel (skip f cs)
      return (c :: name, rest)

/-- The class that is named by one letter or in braces, and whether its complement is meant. -/
def readPropertyName (f : Setting) (cs : List Char) : Option ((Bool × CharClass) × List Char) :=
  match skip f cs with
  | '\x7b' :: cs => do
    let (name, rest) ← readBraced f (cs.length + 1) (skip f cs)
    return (← f.tables.braced? name, rest)
  | '\\' :: _ => none
  | c :: cs => (f.tables.letter? c).map fun a => ((false, a), skip f cs)
  | [] => none

/-- A class after `\p` or `\P`. -/
def readPropertyClass (f : Setting) (negated : Bool) (cs : List Char) :
    Option (CharClass × List Char) := do
  if !f.unicode then none
  let ((inverted, a), rest) ← readPropertyName f cs
  return (← f.negateIf? (negated != inverted) (f.fold a), rest)

def isWordName (c : Char) : Bool := c.isAlpha || c == '-'

/-- The letters and hyphens at the start, with blanks between them. -/
def readWordName (f : Setting) : Nat → List Char → List Char × List Char
  | fuel + 1, c :: cs =>
    if isWordName c then
      let (name, rest) := readWordName f fuel (skip f cs)
      (c :: name, rest)
    else ([], c :: cs)
  | _, cs => ([], cs)

/-- What follows `\b`: the boundary itself, or one side of it named in braces. A brace that does not
begin a name is left for a repetition. -/
def readBoundary (f : Setting) (cs : List Char) : Option (Assertion × List Char) :=
  match cs with
  | '\x7b' :: inner =>
    match skip f inner with
    | [] => none
    | c :: _ =>
      if !isWordName c then some (.wordBoundary f.word, cs)
      else
        match readWordName f cs.length (skip f inner) with
        | (name, '\x7d' :: rest) =>
          if name = "start".toList then some (.wordStart f.word, rest)
          else if name = "end".toList then some (.wordEnd f.word, rest)
          else if name = "start-half".toList then some (.wordStartHalf f.word, rest)
          else if name = "end-half".toList then some (.wordEndHalf f.word, rest)
          else none
        | _ => none
  | cs => some (.wordBoundary f.word, cs)

/-- A character given by its code after `\x`, `\u` or `\U`. -/
def readCode (f : Setting) (digits : Nat) (cs : List Char) : Option (Primitive × List Char) :=
  match skip f cs with
  | '\x7b' :: cs => do
    let cs := skip f cs
    if cs.head? = some '\x7d' then none
    let (n, rest) ← readHexBrace f (cs.length + 1) 0 cs
    return (.literal (← charOfCode? n) false, rest)
  | cs => do
    let (n, rest) ← readHexDigits f digits 0 cs
    return (.literal (← charOfCode? n) (digits == 2), rest)

/-- What follows a backslash. -/
def readEscape (f : Setting) : List Char → Option (Primitive × List Char)
  | [] => none
  | c :: cs =>
    if isEscapable c then some (.literal c false, cs)
    else
      match c with
      | 'a' => some (.literal '\x07' false, cs)
      | 'f' => some (.literal '\x0c' false, cs)
      | 't' => some (.literal '\t' false, cs)
      | 'n' => some (.literal '\n' false, cs)
      | 'r' => some (.literal '\r' false, cs)
      | 'v' => some (.literal '\x0b' false, cs)
      | 'A' => some (.assertion .startOfText, cs)
      | 'z' => some (.assertion .endOfText, cs)
      | 'B' => some (.assertion (.notWordBoundary f.word), cs)
      | '<' => some (.assertion (.wordStart f.word), cs)
      | '>' => some (.assertion (.wordEnd f.word), cs)
      | 'b' => (readBoundary f cs).map fun (a, rest) => (.assertion a, rest)
      | 'x' => readCode f 2 cs
      | 'u' => readCode f 4 cs
      | 'U' => readCode f 8 cs
      | 'p' => (readPropertyClass f false cs).map fun (a, rest) => (.set a, rest)
      | 'P' => (readPropertyClass f true cs).map fun (a, rest) => (.set a, rest)
      | c => (letterClass? f c).map fun a => (.set a, cs)

/-! ## Classes in brackets -/

inductive ClassOperator where
  | intersection
  | difference
  | symmetricDifference

def ClassOperator.apply : ClassOperator → CharClass → CharClass → CharClass
  | intersection => .inter
  | difference => .diff
  | symmetricDifference => .symmDiff

/-- A class under construction: what stands before the last operator, and the union after it. -/
structure OpenClass where
  before : Option (CharClass × ClassOperator)
  union : CharClass

/-- What has been read so far, the last operator applied. -/
def OpenClass.close (f : Setting) (o : OpenClass) : CharClass :=
  match o.before with
  | none => o.union
  | some (a, op) =>
    op.apply (f.fold a) (f.fold o.union)

def OpenClass.add (o : OpenClass) (a : CharClass) : OpenClass := { o with union := .union o.union a }

/-- A class such as `[:alpha:]` after its opening bracket, and whether its complement is meant. -/
def readAsciiName (cs : List Char) : Option ((Bool × CharClass) × List Char) :=
  match cs with
  | ':' :: cs =>
    let (negated, cs) := match cs with
      | '^' :: cs => (true, cs)
      | cs => (false, cs)
    match cs.dropWhile (· != ':') with
    | ':' :: ']' :: rest =>
      (CharClass.asciiNamed? (String.ofList (cs.takeWhile (· != ':')))).map fun a =>
        ((negated, a), rest)
    | _ => none
  | _ => none

/-- One end of a range, or an item by itself. -/
def readClassPrimitive (f : Setting) : List Char → Option (Primitive × List Char)
  | [] => none
  | '\\' :: cs => readEscape f cs
  | c :: cs => some (.literal c false, cs)

/-- Without Unicode a class holds ASCII characters only. -/
def classLiteral? (f : Setting) : Primitive → Option Char
  | .literal c _ => if f.unicode || c.toNat < 0x80 then some c else none
  | _ => none

def classItem? (f : Setting) : Primitive → Option CharClass
  | .set a => some a
  | p => (classLiteral? f p).map .single

/-- Whether a hyphen here is a range, and neither the last character of a class nor the start of a
difference. -/
def startsRange (f : Setting) : List Char → Bool
  | '-' :: cs =>
    match skip f cs with
    | ']' :: _ | '-' :: _ => false
    | _ => true
  | _ => false

/-- An item: a range, or a single member or class. -/
def readClassItem (f : Setting) (cs : List Char) : Option (CharClass × List Char) := do
  let (first, cs) ← readClassPrimitive f cs
  let cs := skip f cs
  if startsRange f cs then
    let (last, cs) ← readClassPrimitive f (skip f (cs.drop 1))
    let a ← classLiteral? f first
    let b ← classLiteral? f last
    if b < a then none
    return (.ranges [(a.toNat, b.toNat)], cs)
  else return (← classItem? f first, cs)

/-- The hyphens at the start of a class, which stand for themselves. -/
def readHyphens (f : Setting) : Nat → OpenClass → List Char → OpenClass × List Char
  | fuel + 1, o, '-' :: cs => readHyphens f fuel (o.add (.single '-')) (skip f cs)
  | _, o, cs => (o, cs)

mutual

/-- A class after its opening bracket. -/
def readClass (f : Setting) : Nat → List Char → Option (CharClass × List Char)
  | 0, _ => none
  | fuel + 1, cs => do
    let cs := skip f cs
    let (negated, cs) := match cs with
      | '^' :: cs => (true, skip f cs)
      | cs => (false, cs)
    let hyphen := cs.head? = some '-'
    let (o, cs) := readHyphens f cs.length ⟨none, .none⟩ cs
    let (o, cs) := match cs with
      | ']' :: rest => if hyphen then (o, cs) else (o.add (.single ']'), skip f rest)
      | cs => (o, cs)
    let (a, rest) ← readClassItems f fuel o cs
    return (← f.negateIf? negated (f.fold a), rest)

/-- The items of a class up to its closing bracket. -/
def readClassItems (f : Setting) : Nat → OpenClass → List Char → Option (CharClass × List Char)
  | 0, _, _ => none
  | fuel + 1, o, cs =>
    match skip f cs with
    | [] => none
    | ']' :: rest => some (o.close f, rest)
    | '[' :: cs =>
      match readAsciiName cs with
      | some ((negated, a), rest) => do
        readClassItems f fuel (o.add (← f.negateIf? negated (f.fold a))) rest
      | none => do
        let (a, rest) ← readClass f fuel cs
        readClassItems f fuel (o.add a) rest
    | '&' :: '&' :: cs => readClassItems f fuel ⟨some (o.close f, .intersection), .none⟩ cs
    | '-' :: '-' :: cs => readClassItems f fuel ⟨some (o.close f, .difference), .none⟩ cs
    | '~' :: '~' :: cs => readClassItems f fuel ⟨some (o.close f, .symmetricDifference), .none⟩ cs
    | cs => do
      let (a, rest) ← readClassItem f cs
      readClassItems f fuel (o.add a) rest

end

/-! ## Groups and flags -/

def Setting.set (f : Setting) (value : Bool) : Char → Option Setting
  | 'i' => some { f with ignoreCase := value }
  | 'm' => some { f with multiLine := value }
  | 's' => some { f with dotAll := value }
  | 'R' => some { f with crlf := value }
  | 'u' => some { f with unicode := value }
  | 'x' => some { f with verbose := value }
  -- which of several matches is preferred does not matter here
  | 'U' => some f
  | _ => none

/-- Flags up to the colon or parenthesis that ends them. No flag comes twice, and after the minus
there is at least one. -/
def readFlags : List Char → Setting → List Char → Option (Setting × Char × List Char)
  | _, _, [] => none
  | seen, f, c :: cs =>
    if c = ':' ∨ c = ')' then
      if seen.head? = some '-' then none else some (f, c, cs)
    else if seen.contains c then none
    else if c = '-' then readFlags (c :: seen) f cs
    else do readFlags (c :: seen) (← f.set (!seen.contains '-') c) cs

/-- Whether a character may stand in the name of a group. -/
def isNameChar (t : Tables) (first : Bool) (c : Char) : Bool :=
  c == '_' || t.isAlphabetic c ||
    (!first && (c == '.' || c == '[' || c == ']' || t.isNumeric c))

def isGroupName (t : Tables) : List Char → Bool
  | [] => false
  | c :: cs => isNameChar t true c && cs.all (isNameChar t false)

/-- How a group begins. -/
inductive GroupStart where
  | group (flags : Setting) (name : Option (List Char))
  | setFlags (flags : Setting)

def readGroupName (f : Setting) (cs : List Char) : Option (GroupStart × List Char) :=
  let name := cs.takeWhile (· != '>')
  match cs.drop name.length with
  | '>' :: rest => if isGroupName f.tables name then some (.group f (some name), rest) else none
  | _ => none

/-- What follows an opening parenthesis. -/
def readGroupStart (f : Setting) (cs : List Char) : Option (GroupStart × List Char) :=
  match skip f cs with
  | '?' :: '=' :: _ | '?' :: '!' :: _ | '?' :: '<' :: '=' :: _ | '?' :: '<' :: '!' :: _ => none
  | '?' :: 'P' :: '<' :: cs => readGroupName f cs
  | '?' :: '<' :: cs => readGroupName f cs
  | '?' :: ')' :: _ => none
  | '?' :: cs => do
    let (flags, stop, rest) ← readFlags [] f cs
    return (if stop = ')' then .setFlags flags else .group flags none, rest)
  | cs => some (.group f none, cs)

/-! ## Repetitions -/

/-- Skips the question mark that asks for the shortest match. -/
def skipLazy : List Char → List Char
  | '?' :: cs => cs
  | cs => cs

/-- A repetition in braces, after the opening one. -/
def readBounds (f : Setting) (cs : List Char) : Option (Nat × Option Nat × List Char) := do
  let (min, cs) ← readNumber f (skip f cs)
  match cs with
  | '\x7d' :: cs => return (min, some min, skipLazy (skip f cs))
  | ',' :: cs =>
    match skip f cs with
    | '\x7d' :: cs => return (min, none, skipLazy (skip f cs))
    | cs =>
      let (max, cs) ← readNumber f cs
      match cs with
      | '\x7d' :: cs => if min ≤ max then return (min, some max, skipLazy (skip f cs)) else none
      | _ => none
  | _ => none

/-! ## Expressions -/

/-- The parts of a concatenation, the last first; a change of flags leaves no part to repeat. -/
inductive Part where
  | expr (r : Regex)
  | flags

def Part.regex : Part → Regex
  | expr r => r
  | flags => .empty

/-- The concatenation of parts that are given from the last to the first. -/
def concat : List Part → Regex
  | [] => .empty
  | part :: parts => parts.foldl (fun r p => .cat p.regex r) part.regex

/-- A literal with its variants in case. Without Unicode a byte beyond ASCII is part of a character
only. -/
def literal? (f : Setting) (c : Char) (byte : Bool) : Option Regex :=
  if byte && !f.unicode && 0x80 ≤ c.toNat then none
  else some (.one (f.fold (.single c)))

def Primitive.regex? (f : Setting) : Primitive → Option Regex
  | .literal c byte => literal? f c byte
  | .assertion a => some (.assert a)
  | .set a => some (.one a)

def dot? (f : Setting) : Option Regex :=
  if !f.unicode then none
  else if f.dotAll then some (.one .all)
  else if f.crlf then some (.one (.complement (.ranges [(0xa, 0xa), (0xd, 0xd)])))
  else some (.one (.complement (.single '\n')))

def startAnchor (f : Setting) : Assertion :=
  if f.multiLine then if f.crlf then .startOfCrlfLine else .startOfLine else .startOfText

def endAnchor (f : Setting) : Assertion :=
  if f.multiLine then if f.crlf then .endOfCrlfLine else .endOfLine else .endOfText

/-- The parts with the last one repeated. -/
def repeatLast (min : Nat) (max : Option Nat) : List Part → Option (List Part)
  | .expr r :: parts => some (.expr (.times r min max) :: parts)
  | _ => none

mutual

/-- Alternatives, up to a closing parenthesis or the end. -/
def readAlternatives : Nat → Reader → Option (Regex × Reader)
  | 0, _ => none
  | fuel + 1, s => do
    let (r, s) ← readParts fuel [] s
    match s.rest with
    | '|' :: cs =>
      let (r', s) ← readAlternatives fuel { s with rest := cs }
      return (.alt r r', s)
    | _ => return (r, s)

/-- A concatenation, up to a bar, a closing parenthesis or the end. -/
def readParts : Nat → List Part → Reader → Option (Regex × Reader)
  | 0, _, _ => none
  | fuel + 1, parts, s =>
    let f := s.flags
    match skip f s.rest with
    | [] => some (concat parts, { s with rest := [] })
    | '|' :: cs => some (concat parts, { s with rest := '|' :: cs })
    | ')' :: cs => some (concat parts, { s with rest := ')' :: cs })
    | '(' :: cs => do
      match ← readGroupStart f cs with
      | (.setFlags flags, rest) => readParts fuel (.flags :: parts) { s with rest, flags }
      | (.group flags name, rest) =>
        if name.any s.names.contains then none
        let (r, s) ← readAlternatives fuel ⟨rest, flags, name.toList ++ s.names⟩
        match s.rest with
        | ')' :: rest => readParts fuel (.expr (.group r) :: parts) { s with rest, flags := f }
        | _ => none
    | '[' :: cs => do
      let (a, rest) ← readClass f fuel cs
      readParts fuel (.expr (.one a) :: parts) { s with rest }
    | '?' :: cs => do
      readParts fuel (← repeatLast 0 (some 1) parts) { s with rest := skipLazy cs }
    | '*' :: cs => do readParts fuel (← repeatLast 0 none parts) { s with rest := skipLazy cs }
    | '+' :: cs => do readParts fuel (← repeatLast 1 none parts) { s with rest := skipLazy cs }
    | '\x7b' :: cs => do
      let (min, max, rest) ← readBounds f cs
      readParts fuel (← repeatLast min max parts) { s with rest }
    | '\\' :: cs => do
      let (p, rest) ← readEscape f cs
      readParts fuel (.expr (← p.regex? f) :: parts) { s with rest }
    | '.' :: rest => do readParts fuel (.expr (← dot? f) :: parts) { s with rest }
    | '^' :: rest => readParts fuel (.expr (.assert (startAnchor f)) :: parts) { s with rest }
    | '$' :: rest => readParts fuel (.expr (.assert (endAnchor f)) :: parts) { s with rest }
    | c :: rest => do readParts fuel (.expr (← literal? f c false) :: parts) { s with rest }

end

/-- The expression that a text denotes. -/
def readRegex? (t : Tables) (text : String) : Option Regex := do
  let (r, s) ← readAlternatives (2 * text.length + 2) ⟨text.toList, .initial t, []⟩
  if s.rest.isEmpty then return r else none

end FeatureToggle.Pattern
