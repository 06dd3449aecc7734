import FeatureToggle.Error
import FeatureToggle.Feature.Basic
import FeatureToggle.Json.Syntax

/-!
# Catalogues of features

A catalogue holds the declared features in the order of their first declaration, with an index from
their names to their positions. A later declaration takes the place of an earlier one. Catalogues can
be read from JSON, an object of declarations by name.
-/
namespace FeatureToggle

/-- Whoever knows the declared features. -/
structure FeatureProvider where
  features : List Feature
  feature? : String → Option Feature

/-- Features in a list, looked up one after the other. -/
def FeatureProvider.ofList (features : List Feature) : FeatureProvider :=
  ⟨features, fun name => features.find? (·.name = name)⟩

structure Catalogue where
  features : List Feature
  index : SortedMap Nat

namespace Catalogue

def empty : Catalogue := ⟨[], .empty⟩

/-- Declares a feature, in the place of an earlier declaration of the same name. -/
def declare (c : Catalogue) (f : Feature) : Catalogue :=
  match c.index.get? f.name with
  | some i => { c with features := c.features.set i f }
  | none => ⟨c.features ++ [f], c.index.insert f.name c.features.length⟩

def declareAll (c : Catalogue) (features : List Feature) : Catalogue := features.foldl declare c

def feature? (c : Catalogue) (name : String) : Option Feature := do
  c.features[← c.index.get? name]?

def provider (c : Catalogue) : FeatureProvider := ⟨c.features, c.feature?⟩

/-! ## Reading -/

def attributesOfJson? (j : Json) : Option (SortedMap String) :=
  j.stringMembers?.map SortedMap.ofList

/-- Reads an object all of whose members may be missing, or an array of the same values that may end
early. -/
def metadataOfJson? : Json → Option Metadata
  | .object members => do
    return {
      label := ← Json.member? members "label" (some "") Json.string?
      enabledByDefault := ← Json.member? members "enabledByDefault" (some false) Json.bool?
      groups := ← Json.member? members "groups" (some []) Json.strings?
      attributes := ← Json.member? members "attributes" (some .empty) attributesOfJson? }
  | .array [] => some ⟨"", false, [], .empty⟩
  | .array [label] => do return ⟨← label.string?, false, [], .empty⟩
  | .array [label, enabled] => do return ⟨← label.string?, ← enabled.bool?, [], .empty⟩
  | .array [label, enabled, groups] => do
    return ⟨← label.string?, ← enabled.bool?, ← groups.strings?, .empty⟩
  | .array [label, enabled, groups, attributes] => do
    return ⟨← label.string?, ← enabled.bool?, ← groups.strings?, ← attributesOfJson? attributes⟩
  | _ => none

/-- A feature with the metadata as declared, but for an empty label. -/
def declared (name : String) (m : Metadata) : Feature :=
  ⟨name, if m.label = "" then { m with label := name } else m⟩

/-- The declarations of an object, in ascending order of the names; of several with one name the last
counts. -/
def ofJson? : Json → Option Catalogue
  | .object members => do
    let declarations ← members.mapM fun m => do return (m.1, ← metadataOfJson? m.2)
    return empty.declareAll <|
      (SortedMap.ofList declarations).entries.map fun d => declared d.1 d.2
  | _ => none

def memberNames : List String := ["label", "enabledByDefault", "groups", "attributes"]

/-- Drops from each declaration what is of no interest. -/
def relevant : Json.Syntax → Json.Syntax
  | .object members => .object (members.map fun m => (m.1, m.2.keepOnly memberNames))
  | s => s

def ofText (text : String) : Except Error Catalogue :=
  let read : Option Catalogue := do
    ofJson? (← (relevant (← Json.Syntax.read? text)).toJson? Json.maxDepth)
  match read with
  | some c => .ok c
  | none => .error (.configuration .invalidDeclarations)

end Catalogue

end FeatureToggle
