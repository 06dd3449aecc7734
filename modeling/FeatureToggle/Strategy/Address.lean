import FeatureToggle.IpAddress
import FeatureToggle.Strategy.Basic

/-!
# Server addresses

A feature is active on the servers that own one of the listed addresses. Entries that are no
addresses are logged and passed over.
-/
namespace FeatureToggle.Strategy

def ipsParameter : String := "ips"

/-- Whether an entry is an address of the server. -/
def isOwnAddress (addresses : List IpAddress) (s : FeatureState) (entry : String) : Traced Bool :=
  match IpAddress.ofText? entry with
  | some address => pure (addresses.contains address)
  | none => do
    Traced.log (.invalidAddress s.feature entry)
    return false

/-- Whether some entry is an address of the server. Nothing is said on those after it. -/
def ownsListedAddress (addresses : List IpAddress) (s : FeatureState) : Traced Bool :=
  match s.parameter ipsParameter with
  | none => pure false
  | some text => Traced.any (isOwnAddress addresses s) (Text.runs text)

def serverIp (addresses : List IpAddress) : Strategy where
  id := "server-ip"
  name := "IP address (server)"
  isActive s _ := ownsListedAddress addresses s
  parameters := [((Parameter.of ipsParameter).labelled "Server IPs").described
    "A comma-separated list of server IPs for which the feature should be active."]

end FeatureToggle.Strategy
