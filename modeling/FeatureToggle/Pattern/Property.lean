import FeatureToggle.Pattern.ScriptTable
import FeatureToggle.Pattern.Tables
import FeatureToggle.Text.CaseTable

/-!
# The tables at hand

The tables that come with the library hold the general categories, the scripts and a few further
properties, as of Unicode 15. Case, blanks, hyphens and underscores in names do not matter, nor does
`is` in front of them. An engine that knows more properties has tables of its own.
-/
namespace FeatureToggle.Pattern

open CharClass

/-- A name without what does not matter in it. -/
def normalizeName (name : List Char) : String :=
  let strip (cs : List Char) : List Char :=
    (cs.filter fun c => c.toNat < 0x80 && c != ' ' && c != '_' && c != '-').map Char.toLower
  match name with
  | a :: b :: rest =>
    if a.toLower = 'i' ∧ b.toLower = 's' then
      if strip rest = ['c'] then "isc" else String.ofList (strip rest)
    else String.ofList (strip name)
  | name => String.ofList (strip name)

/-- The general categories by all their names. -/
def categories : List (List String × CharClass) :=
  let letters := [ranges uppercaseLetter, ranges lowercaseLetter, ranges titlecaseLetter]
  let otherLetters := [ranges modifierLetter, ranges otherLetter]
  let marks := [ranges nonspacingMark, ranges spacingMark, ranges enclosingMark]
  let numbers := [ranges decimalNumber, ranges letterNumber, ranges otherNumber]
  let punctuation := [ranges connectorPunctuation, ranges dashPunctuation, ranges openPunctuation,
    ranges closePunctuation, ranges initialPunctuation, ranges finalPunctuation,
    ranges otherPunctuation]
  let symbols := [ranges mathSymbol, ranges currencySymbol, ranges modifierSymbol,
    ranges otherSymbol]
  let separators := [ranges spaceSeparator, ranges lineSeparator, ranges paragraphSeparator]
  let assignedOthers := [ranges control, ranges format, ranges privateUse]
  let assigned := unions (letters ++ otherLetters ++ marks ++ numbers ++ punctuation ++ symbols ++
    separators ++ assignedOthers)
  [(["any"], all),
    (["assigned"], assigned),
    (["ascii"], ranges [(0, 0x7f)]),
    (["l", "letter"], unions (letters ++ otherLetters)),
    (["lc", "casedletter"], unions letters),
    (["lu", "uppercaseletter"], ranges uppercaseLetter),
    (["ll", "lowercaseletter"], ranges lowercaseLetter),
    (["lt", "titlecaseletter"], ranges titlecaseLetter),
    (["lm", "modifierletter"], ranges modifierLetter),
    (["lo", "otherletter"], ranges otherLetter),
    (["m", "mark", "combiningmark"], unions marks),
    (["mn", "nonspacingmark"], ranges nonspacingMark),
    (["mc", "spacingmark"], ranges spacingMark),
    (["me", "enclosingmark"], ranges enclosingMark),
    (["n", "number"], unions numbers),
    (["nd", "decimalnumber", "digit"], ranges decimalNumber),
    (["nl", "letternumber"], ranges letterNumber),
    (["no", "othernumber"], ranges otherNumber),
    (["p", "punctuation", "punct"], unions punctuation),
    (["pc", "connectorpunctuation"], ranges connectorPunctuation),
    (["pd", "dashpunctuation"], ranges dashPunctuation),
    (["ps", "openpunctuation"], ranges openPunctuation),
    (["pe", "closepunctuation"], ranges closePunctuation),
    (["pi", "initialpunctuation"], ranges initialPunctuation),
    (["pf", "finalpunctuation"], ranges finalPunctuation),
    (["po", "otherpunctuation"], ranges otherPunctuation),
    (["s", "symbol"], unions symbols),
    (["sm", "mathsymbol"], ranges mathSymbol),
    (["sc", "currencysymbol"], ranges currencySymbol),
    (["sk", "modifiersymbol"], ranges modifierSymbol),
    (["so", "othersymbol"], ranges otherSymbol),
    (["z", "separator"], unions separators),
    (["zs", "spaceseparator"], ranges spaceSeparator),
    (["zl", "lineseparator"], ranges lineSeparator),
    (["zp", "paragraphseparator"], ranges paragraphSeparator),
    (["c", "other"], union (unions assignedOthers) (complement assigned)),
    (["cc", "control", "cntrl"], ranges control),
    (["cf", "format"], ranges format),
    (["co", "privateuse"], ranges privateUse),
    (["cn", "unassigned"], complement assigned)]

/-- Further properties by all their names. -/
def properties : List (List String × CharClass) := [
  (["alpha", "alphabetic"], alphabetic),
  (["lower", "lowercase"], union (ranges lowercaseLetter) (ranges otherLowercase)),
  (["upper", "uppercase"], union (ranges uppercaseLetter) (ranges otherUppercase)),
  (["wspace", "whitespace", "space"], blank),
  (["cased"], ranges Text.cased),
  (["ci", "caseignorable"], ranges Text.caseIgnorable),
  (["joinc", "joincontrol"], ranges [(0x200c, 0x200d)]),
  (["ahex", "asciihexdigit"], ranges [(0x30, 0x39), (0x41, 0x46), (0x61, 0x66)]),
  (["hex", "hexdigit"], ranges [(0x30, 0x39), (0x41, 0x46), (0x61, 0x66), (0xff10, 0xff19),
    (0xff21, 0xff26), (0xff41, 0xff46)])]

def lookUp (table : List (List String × CharClass)) (name : String) : Option CharClass :=
  (table.find? (·.1.contains name)).map (·.2)

def category? (name : String) : Option CharClass := lookUp categories name

def script? (name : String) : Option CharClass :=
  (scripts.find? (·.1.contains name)).map fun s => ranges s.2

/-- The class of a name that stands alone. -/
def namedClass? (name : List Char) : Option CharClass :=
  let name := normalizeName name
  lookUp properties name <|> category? name <|> script? name

/-- The class of the characters with a value of a property. -/
def valuedClass? (property value : List Char) : Option CharClass :=
  let property := normalizeName property
  if property ∈ ["gc", "generalcategory"] then category? (normalizeName value)
  else if property ∈ ["sc", "script"] then script? (normalizeName value)
  else Option.none

/-- The position of the first place where `sep` begins. -/
def indexOf? (sep : List Char) : List Char → Option Nat
  | [] => Option.none
  | c :: cs => if sep.isPrefixOf (c :: cs) then some 0 else (indexOf? sep cs).map (· + 1)

/-- The class of a name in braces: a name alone, or a property with its value, or with a value that it
does not have, where the complement is meant. -/
def classInBraces? (name : List Char) : Option (Bool × CharClass) :=
  let valued (inverted : Bool) (i length : Nat) :=
    (valuedClass? (name.take i) (name.drop (i + length))).map (inverted, ·)
  match indexOf? ['!', '='] name with
  | some i => valued true i 2
  | Option.none =>
    match indexOf? [':'] name <|> indexOf? ['='] name with
    | some i => valued false i 1
    | Option.none => (namedClass? name).map (false, ·)

def Tables.atHand : Tables where
  letter? c := namedClass? [c]
  braced? := classInBraces?
  digit := .digit
  blank := .blank
  word := .word
  anyCase := .anyCase
  isAlphabetic := CharClass.alphabetic.contains
  isNumeric := Text.covers (decimalNumber ++ letterNumber ++ otherNumber)

end FeatureToggle.Pattern
