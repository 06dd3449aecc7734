import FeatureToggle.Pattern.CharClass

/-!
# Regular expressions

A regular expression is run on all places of a text at once: `Regex.reach` takes the places where a
match may begin to the places where it may end. A text satisfies an expression if some part of it is
a match.
-/
namespace FeatureToggle.Pattern

/-- Conditions on a place between two characters. Those on words come with the class of the characters
that words are made of. -/
inductive Assertion where
  | startOfText
  | endOfText
  | startOfLine
  | endOfLine
  | startOfCrlfLine
  | endOfCrlfLine
  | wordBoundary (word : CharClass)
  | notWordBoundary (word : CharClass)
  | wordStart (word : CharClass)
  | wordEnd (word : CharClass)
  | wordStartHalf (word : CharClass)
  | wordEndHalf (word : CharClass)
  deriving DecidableEq

inductive Regex where
  | empty
  | one (a : CharClass)
  | assert (a : Assertion)
  | group (r : Regex)
  | cat (r s : Regex)
  | alt (r s : Regex)
  /-- From `min` up to `max` times, or any number of times from `min` on. -/
  | times (r : Regex) (min : Nat) (max : Option Nat)
  deriving DecidableEq, Inhabited

/-- Whether the condition holds between the characters before and after a place. -/
def Assertion.holds (a : Assertion) (before after : Option Char) : Bool :=
  match a with
  | startOfText => before.isNone
  | endOfText => after.isNone
  | startOfLine => before.isNone || before == some '\n'
  | endOfLine => after.isNone || after == some '\n'
  | startOfCrlfLine =>
    before.isNone || before == some '\n' || (before == some '\r' && after != some '\n')
  | endOfCrlfLine =>
    after.isNone || after == some '\r' || (after == some '\n' && before != some '\r')
  | wordBoundary word => before.any word.contains != after.any word.contains
  | notWordBoundary word => before.any word.contains == after.any word.contains
  | wordStart word => !before.any word.contains && after.any word.contains
  | wordEnd word => before.any word.contains && !after.any word.contains
  | wordStartHalf word => !before.any word.contains
  | wordEndHalf word => !after.any word.contains

/-- The character before the place `i`. -/
def charBefore (text : Array Char) (i : Nat) : Option Char :=
  if i = 0 then none else text[i - 1]?

/-- Both lists of places, each place once. -/
def mergePlaces (as bs : List Nat) : List Nat := (as ++ bs).eraseDups

/-- `f` applied `n` times, or until it changes nothing any more. -/
def repeatStep (f : List Nat → List Nat) : Nat → List Nat → List Nat
  | 0, places => places
  | n + 1, places => if f places = places then places else repeatStep f n (f places)

/-- The places reached by applying `f` up to `n` times, until no new ones come. -/
def closure (f : List Nat → List Nat) : Nat → List Nat → List Nat
  | 0, places => places
  | n + 1, places =>
    let more := mergePlaces places (f places)
    if more.length = places.length then places else closure f n more

namespace Regex

/-- The places where a match can end that begins at one of the given places. A repetition that
moves on needs no more rounds than there are characters. -/
def reach (text : Array Char) : Regex → List Nat → List Nat
  | empty, places => places
  | one a, places => (places.filter fun i => text[i]?.any a.contains).map (· + 1)
  | assert a, places => places.filter fun i => a.holds (charBefore text i) text[i]?
  | group r, places => reach text r places
  | cat r s, places => reach text s (reach text r places)
  | alt r s, places => mergePlaces (reach text r places) (reach text s places)
  | times r min max, places =>
    let rounds := match max with
      | none => text.size + 1
      | some max => Nat.min (max - min) (text.size + 1)
    closure (reach text r) rounds (repeatStep (reach text r) min places).eraseDups

/-- Whether some part of the text is a match. -/
def isMatch (r : Regex) (text : String) : Bool :=
  let chars := text.toList.toArray
  !(r.reach chars (List.range (chars.size + 1))).isEmpty

def isCat : Regex → Bool
  | cat _ _ => true
  | _ => false

def isAlt : Regex → Bool
  | alt _ _ => true
  | _ => false

/-- How deep the expression is nested. A chain of parts, or of alternatives, counts once. -/
def depth : Regex → Nat
  | empty | one _ | assert _ => 0
  | group r => r.depth + 1
  | times r _ _ => r.depth + 1
  | cat r s => max (r.depth + 1) (if s.isCat then s.depth else s.depth + 1)
  | alt r s => max (r.depth + 1) (if s.isAlt then s.depth else s.depth + 1)

end Regex

end FeatureToggle.Pattern
