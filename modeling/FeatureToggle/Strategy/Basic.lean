import FeatureToggle.Strategy.Parameter
import FeatureToggle.Trace
import FeatureToggle.User

/-!
# Activation strategies

A strategy decides from the stored state whether an enabled feature is active for a caller. It never
fails: parameters that make no sense are logged and leave the feature inactive.
-/
namespace FeatureToggle

structure Strategy where
  /-- What stored states call the strategy. -/
  id : String
  /-- What administrators call it. -/
  name : String
  isActive : FeatureState → Option User → Traced Bool
  parameters : List Parameter

end FeatureToggle
