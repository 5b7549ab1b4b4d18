import ZoneArbiter.Telephony.Score

/-!
# ZoneArbiter.Cause — why the zone changes

A `Reason` is the event that made the engine look at its suggestions again, and
a `Cause` is what moved the device to a zone: a user's pick, or one of the two
automatic sources together with the reason for consulting it. Both are kept as
values and put into words only where they are shown.
-/

namespace ZoneArbiter

open ZoneArbiter.Text

/-- The event after which the engine looks at its suggestions again. -/
inductive Reason
  /-- A telephony slot made a suggestion. -/
  | telephonySuggestion (slot : Int)
  /-- Geolocation made a suggestion. -/
  | geolocationSuggestion
  /-- A user's settings were changed through the engine. -/
  | configurationUpdate
  /-- The device reported a change made elsewhere. -/
  | externalChange
deriving Repr, DecidableEq

/-- The words for a reason. -/
def Reason.text : Reason → String
  | .telephonySuggestion slot => "telephony suggestion: slot_index=" ++ shownInt slot
  | .geolocationSuggestion => "geolocation suggestion"
  | .configurationUpdate => "configuration update"
  | .externalChange => "external configuration change"

/-- What moved the device to a zone. -/
inductive Cause
  /-- The pick of a user. -/
  | manual (user : Int)
  /-- The candidates of the latest location. -/
  | geolocation (zones : List String) (reason : Reason)
  /-- The best telephony suggestion. -/
  | telephony (slot : Int) (score : Telephony.Score) (reason : Reason)
deriving Repr, DecidableEq

/-- The words for a cause. -/
def Cause.text : Cause → String
  | .manual user => "manual suggestion: user_id=" ++ shownInt user
  | .geolocation zones reason =>
      "geolocation: zone_ids=" ++ GeoSuggestion.shownZones zones ++ " (" ++ reason.text ++ ")"
  | .telephony slot score reason =>
      "telephony: slot_index=" ++ shownInt slot ++ " score=" ++ score.printed ++
        " (" ++ reason.text ++ ")"

end ZoneArbiter
