import FeatureToggle.Digest.Hex
import FeatureToggle.Strategy.Basic
import FeatureToggle.Text.Integer
import FeatureToggle.Text.Lowercase

/-!
# Gradual rollout

A feature is rolled out to a percentage of the users. Each user is in one of a hundred buckets,
computed from the name of the feature and the user's own, so that a decision for a user stays when
the percentage grows.
-/
namespace FeatureToggle.Strategy

def percentageParameter : String := "percentage"

/-- How many hexadecimal digits of a digest make up the number behind a bucket. -/
def bucketDigits : Nat := 15

def bucketOfDigest (d : Digest) : Nat :=
  (Digest.readHex? 0 (d.hex.take bucketDigits)).getD 0 % 100

/-- What is hashed: the feature, a point, and the user's name trimmed and in lower case. -/
def bucketKey (feature name : String) : String :=
  feature ++ "." ++ Text.lowercase (Text.trim name)

/-- The bucket of a user, for any hash function. -/
def bucketBy (hash : List UInt8 → Digest) (feature name : String) : Nat :=
  bucketOfDigest (hash (bucketKey feature name).toUTF8.toList)

def bucket (feature name : String) : Nat := bucketBy Sha1.digest feature name

def percentage? (text : String) : Option Int := Text.integer64? (Text.trim text)

/-- Whether a user is rolled out to. Only users with a name can be. -/
def isRolledOut (s : FeatureState) (user : Option User) : Traced Bool :=
  match user with
  | none => pure false
  | some u =>
    if Text.isBlankText u.name then pure false
    else
      let text := (s.parameter percentageParameter).getD ""
      match percentage? text with
      | some p => pure (0 < p && bucket s.feature u.name < p)
      | none => do
        Traced.log (.invalidPercentage s.feature text)
        return false

/-- One to three digits. -/
def percentagePattern : Pattern where
  source := "^\\d\x7b1,3\x7d$"
  regex := .cat (.assert .startOfText)
    (.cat (.times (.one .digit) 1 (some 3)) (.assert .endOfText))

def gradual : Strategy where
  id := "gradual"
  name := "Gradual rollout"
  isActive := isRolledOut
  parameters := [(((Parameter.of percentageParameter).labelled "Percentage").withPattern
    percentagePattern).described ("Percentage of users for which the feature should be active " ++
      "(i.e. '25' for every fourth user).")]

end FeatureToggle.Strategy
