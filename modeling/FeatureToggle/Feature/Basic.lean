import FeatureToggle.SortedMap

/-!
# Features

A feature is declared in advance: its name, and what tools and the default decision need to know of
it. Stored states never change a declaration.
-/
namespace FeatureToggle

structure Metadata where
  label : String
  enabledByDefault : Bool
  groups : List String
  attributes : SortedMap String
  deriving DecidableEq

structure Feature where
  name : String
  metadata : Metadata
  deriving DecidableEq

namespace Feature

/-- A feature that is labelled with its own name and disabled by default. -/
def of (name : String) : Feature := ⟨name, ⟨name, false, [], .empty⟩⟩

def labelled (f : Feature) (label : String) : Feature :=
  { f with metadata := { f.metadata with label } }

def enabledByDefault (f : Feature) (enabledByDefault : Bool) : Feature :=
  { f with metadata := { f.metadata with enabledByDefault } }

/-- Adds the feature to a group, once. -/
def inGroup (f : Feature) (group : String) : Feature :=
  if f.metadata.groups.contains group then f
  else { f with metadata := { f.metadata with groups := f.metadata.groups ++ [group] } }

def withAttribute (f : Feature) (name value : String) : Feature :=
  { f with metadata := { f.metadata with attributes := f.metadata.attributes.insert name value } }

def isIn (f : Feature) (group : String) : Bool := f.metadata.groups.contains group

end Feature

end FeatureToggle
