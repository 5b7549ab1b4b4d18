import ZoneArbiter.Suggestion

/-!
# ZoneArbiter.Telephony.Score — how good a telephony suggestion is

A suggestion scores by its match type and its quality. Test matches come first,
whatever their quality; otherwise the less ambiguous the zone, the higher the
score; a suggestion without a zone, or without a quality where that counts, has
the lowest score. Below `Score.usageThreshold` a suggestion only sets a device
that has no zone yet.
-/

namespace ZoneArbiter.Telephony

open ZoneArbiter.Text

/-- The score of a telephony suggestion, worst first. -/
inductive Score
  /-- Nothing to use. -/
  | unrated
  /-- Several zones that keep different times. -/
  | low
  /-- Several zones that keep the same time. -/
  | medium
  /-- One zone. -/
  | high
  /-- A test match. -/
  | highest
deriving Repr, DecidableEq

namespace Score

/-- The number of a score; a better score has a greater number. -/
def rank : Score → Nat
  | .unrated => 0
  | .low => 1
  | .medium => 2
  | .high => 3
  | .highest => 4

/-- The name of a score. -/
def label : Score → String
  | .unrated => "NONE"
  | .low => "LOW"
  | .medium => "MEDIUM"
  | .high => "HIGH"
  | .highest => "HIGHEST"

/-- All scores, worst first. -/
def all : List Score := [.unrated, .low, .medium, .high, .highest]

/-- The name of the family. -/
def family : String := "TelephonyScore"

/-- The score with a given number. -/
def ofRank? (n : Int) : Option Score := all.find? (fun score => (score.rank : Int) = n)

/-- The score as it is shown inside a record. -/
def shown (score : Score) : String := shownMember family score.label (toString score.rank)

/-- The score as it is printed in a line: its number. -/
def printed (score : Score) : String := toString score.rank

/-- From this score on a suggestion is used on a device that has a zone. -/
def usageThreshold : Score := .high

end Score

/-- The score that a quality earns. -/
def Score.ofQuality : Quality → Score
  | .singleZone => .high
  | .multipleZonesSameOffset => .medium
  | .multipleZonesDifferentOffsets => .low

/-- Was the suggestion made by a test match? -/
def isTestMatch (s : TelephonySuggestion) : Bool := s.matchType.any MatchType.isTest

/-- The score of a suggestion. -/
def score (s : TelephonySuggestion) : Score :=
  if s.zone.isNone then .unrated
  else if isTestMatch s then .highest
  else match s.quality with
    | none => .unrated
    | some quality => .ofQuality quality

/-- Does the suggestion lack the quality that its score hangs on? -/
def lacksQuality (s : TelephonySuggestion) : Bool :=
  s.zone.isSome && !isTestMatch s && s.quality.isNone

/-- A suggestion together with its score. -/
structure Qualified where
  /-- The suggestion. -/
  suggestion : TelephonySuggestion
  /-- Its score. -/
  score : Score
deriving Repr, DecidableEq

/-- A suggestion with the score that it earns. -/
def qualify (s : TelephonySuggestion) : Qualified := ⟨s, score s⟩

/-- The same proposal with the same score, debug lines aside. -/
def Qualified.agrees (a b : Qualified) : Bool :=
  a.suggestion.agrees b.suggestion && a.score = b.score

/-- The pair as it is shown. -/
def Qualified.shown (q : Qualified) : String :=
  shownRecord "QualifiedTelephonySuggestion"
    [("suggestion", q.suggestion.shown), ("score", q.score.shown)]

/-- Debug lines earn nothing. -/
@[simp] theorem score_withDebug (s : TelephonySuggestion) (lines : List String) :
    score (s.withDebug lines) = score s := rfl

end ZoneArbiter.Telephony
