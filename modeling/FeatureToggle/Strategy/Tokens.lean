import FeatureToggle.Strategy.Basic
import FeatureToggle.Text.Lowercase

/-!
# Token lists

A parameter may list tokens such as `prod, !staging`: runs between commas and blanks, negated by an
exclamation mark. A feature is active if some token holds, or some negated one does not. Deployment
profiles are decided in this way.
-/
namespace FeatureToggle.Strategy

structure Token where
  value : String
  negated : Bool
  deriving DecidableEq, Repr

/-- One exclamation mark in front is the negation; the rest is the value. -/
def Token.ofChars : List Char → Token
  | '!' :: cs => ⟨String.ofList cs, true⟩
  | cs => ⟨String.ofList cs, false⟩

/-- The tokens of a text, each transformed before its negation is looked for. -/
def tokensOf (transform : String → String) (text : String) : List Token :=
  (Text.runs text).map fun run => .ofChars (transform run).toList

/-- The tokens of a parameter, none if it is missing. -/
def tokenize (s : FeatureState) (parameter : String) (transform : String → String) : List Token :=
  match s.parameter parameter with
  | none => []
  | some text => tokensOf transform text

/-- A decision by tokens: the parameter that lists them, and when one of them holds. -/
structure TokenDriven where
  parameter : String
  transform : String → String
  holds : Token → FeatureState → Option User → Traced Bool

namespace TokenDriven

def tokens (d : TokenDriven) (s : FeatureState) : List Token := tokenize s d.parameter d.transform

/-- Tokens are asked from left to right, up to the first that decides. -/
def isActive (d : TokenDriven) (s : FeatureState) (user : Option User) : Traced Bool :=
  Traced.any (fun t => do return (← d.holds t s user) != t.negated) (d.tokens s)

end TokenDriven

/-- The active profiles, in lower case. -/
structure Profiles where
  active : List String

def Profiles.of (names : List String) : Profiles :=
  ⟨(names.map fun n => Text.lowercase (Text.trim n)).filter (· ≠ "")⟩

def Profiles.isActive (p : Profiles) (name : String) : Bool := p.active.contains (Text.lowercase name)

def profilesParameter : String := "profiles"

/-- Active by the deployment profiles that are listed. -/
def profile (profiles : Profiles) : Strategy where
  id := "profile"
  name := "Profile"
  isActive := TokenDriven.isActive ⟨profilesParameter, Text.lowercase,
    fun t _ _ => pure (profiles.active.contains t.value)⟩
  parameters := [((Parameter.of profilesParameter).labelled "Profile Names").described
    ("A comma-separated list of profile names for which the feature should be active. " ++
      "A profile can be negated by prefixing the name with the ! operator")]

end FeatureToggle.Strategy
