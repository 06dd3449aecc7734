import FeatureToggle.Strategy.Basic

/-!
# Release dates

A feature is released at an instant, given by a date and a time of day that is midnight if nothing is
said. It is active from the moment after that instant.
-/
namespace FeatureToggle.Strategy

def dateParameter : String := "date"
def timeParameter : String := "time"
def midnight : String := "00:00:00"

/-- The text of the release instant. -/
def releaseText (s : FeatureState) : String :=
  let date := Text.trim ((s.parameter dateParameter).getD "")
  let time := Text.trim ((s.parameter timeParameter).getD "")
  date ++ "T" ++ (if time = "" then midnight else time)

/-- The release instant, if its text can be read. -/
def release (s : FeatureState) : Traced (Option Instant) :=
  match Calendar.read (releaseText s) with
  | .ok t => pure (some t)
  | .error reason => do
    Traced.log (.invalidRelease s.feature (releaseText s) reason)
    return none

def isReleased (now : Instant) (s : FeatureState) : Traced Bool := do
  return (← release s).any (·.before now)

def twoDigits : Pattern.Regex := .times (.one .digit) 2 (some 2)

/-- The parts one after the other, between the ends of the text. -/
def wholeText (parts : List Pattern.Regex) : Pattern.Regex :=
  .cat (.assert .startOfText) (parts.foldr .cat (.assert .endOfText))

def datePattern : Pattern where
  source := "^\\d\x7b4\x7d-\\d\x7b2\x7d-\\d\x7b2\x7d$"
  regex := wholeText [.times (.one .digit) 4 (some 4), .one (.single '-'), twoDigits,
    .one (.single '-'), twoDigits]

def timePattern : Pattern where
  source := "^\\d\x7b2\x7d:\\d\x7b2\x7d:\\d\x7b2\x7d$"
  regex := wholeText [twoDigits, .one (.single ':'), twoDigits, .one (.single ':'), twoDigits]

def releaseDate (now : Instant) : Strategy where
  id := "release-date"
  name := "Release date"
  isActive s _ := isReleased now s
  parameters := [
    (((Parameter.of dateParameter).labelled "Date").withPattern datePattern).described
      "Release date of the feature. Format: YYYY-MM-DD",
    (((Parameter.of timeParameter).labelled "Time").withPattern timePattern).asOptional.described
      ("Optional time for the release day. The default value is midnight. " ++
        "Format: HH:MM:SS")]

/-- How the strategy shows itself to developers. The clock is not shown. -/
def releaseDateDebug : String := "ReleaseDateActivationStrategy \x7b .. \x7d"

end FeatureToggle.Strategy
