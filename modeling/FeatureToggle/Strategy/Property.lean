import FeatureToggle.Strategy.Basic

/-!
# Properties

A feature is active while a property outside of its state has the expected value, upper and lower
case letters of ASCII being the same. Which property it is the state may say; by default it is named
after the feature.
-/
namespace FeatureToggle.Strategy

def propertyPrefix : String := "togglz."
def nameParameter : String := "name"
def valueParameter : String := "value"
def systemPropertyParameter : String := "system-property"
def defaultExpectation : String := "true"

/-- The name in the given parameter, unless it is blank. -/
def propertyName (parameter : String) (s : FeatureState) : String :=
  match s.parameter parameter with
  | some name => if Text.isBlankText name then propertyPrefix ++ s.feature else name
  | none => propertyPrefix ++ s.feature

def equalIgnoringCase (a b : String) : Bool :=
  a.toList.map Char.toLower == b.toList.map Char.toLower

/-- Whether the value of the property is the expected one. A blank value never is. -/
def meetsExpectation (s : FeatureState) : Option String → Bool
  | none => false
  | some value =>
    !Text.isBlankText value &&
      equalIgnoringCase ((s.parameter valueParameter).getD defaultExpectation) value

/-- A decision by a property: the parameter that may name it, and where its value comes from. -/
structure PropertyDriven where
  parameter : String
  value : FeatureState → Option User → String → Traced (Option String)

def PropertyDriven.isActive (p : PropertyDriven) (s : FeatureState) (user : Option User) :
    Traced Bool := do
  return meetsExpectation s (← p.value s user (propertyName p.parameter s))

/-- Active by a property of the system, such as an environment variable. -/
def property (source : String → Option String) : Strategy where
  id := "property"
  name := "System Property"
  isActive := PropertyDriven.isActive ⟨systemPropertyParameter, fun _ _ name => pure (source name)⟩
  parameters := [
    ((Parameter.of systemPropertyParameter).asOptional.labelled "System Property Name").described
      "A system property name that can be set for which a feature should be active",
    ((Parameter.of valueParameter).asOptional.labelled "System Property Value").described
      "Enable the feature when this value matches the system property value"]

end FeatureToggle.Strategy
