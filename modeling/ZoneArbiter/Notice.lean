import ZoneArbiter.Capability
import ZoneArbiter.Cause
import ZoneArbiter.Log.Level

/-!
# ZoneArbiter.Notice — what is logged

Every line that the library logs, as a value: the device tells of new records and
zone writes, the telephony table of suggestions that it cannot score or find, and
the engine of each decision. A notice fixes its level, its source and its words.
Decisions that change nothing are logged for debugging only.
-/

namespace ZoneArbiter

open ZoneArbiter.Text

/-- A line to be logged. -/
inductive Notice
  /-- The device made a record for a user it had not seen. -/
  | recordCreated (user : Int)
  /-- The device is set to a zone. -/
  | zoneWritten (zone : Option String)
  /-- A telephony suggestion lacks the quality to score it by. -/
  | qualityMissing (s : TelephonySuggestion)
  /-- A telephony slot has made no suggestion. -/
  | slotUnknown (slot : Int)
  /-- A change of settings is not permitted. -/
  | updateRejected (user : Int) (change : ConfigurationChange) (caps : Capabilities)
  /-- A user's settings were changed. -/
  | updated (user : Int) (change : ConfigurationChange)
  /-- A user may not pick a zone. -/
  | manualRejected (user : Int) (s : ManualSuggestion) (capability : Capability)
  /-- A telephony suggestion was recorded. -/
  | telephonyRecorded (slot : Int) (score : Telephony.Score) (zone : Option String)
  /-- A geolocation suggestion came while geolocation is not in use. -/
  | geoDiscarded (mode : DetectionMode) (s : GeoSuggestion)
  /-- The record of the current user was loaded for the first time. -/
  | recordLoaded (user : Int)
  /-- The device reported a change made elsewhere. -/
  | changedElsewhere (user : Int) (switched : Bool)
  /-- Detection works differently from now on. -/
  | modeChanged (user : Int) (previous : Option DetectionMode) (mode : DetectionMode)
  /-- The latest geolocation suggestion is forgotten. -/
  | geoForgotten
  /-- There is no geolocation suggestion to follow. -/
  | noGeo (reason : Reason)
  /-- The latest geolocation suggestion asks for no change. -/
  | geoUnchanged (zones : Option (List String)) (reason : Reason)
  /-- There is no telephony suggestion to follow. -/
  | noTelephony (reason : Reason)
  /-- The best telephony suggestion is not good enough for a device with a zone. -/
  | belowThreshold (score : Telephony.Score) (reason : Reason)
  /-- The device is in the zone already. -/
  | zoneKept (zone : String) (cause : Cause)
  /-- The device was moved to a zone. -/
  | zoneChanged (previous : Option String) (zone : String) (cause : Cause)
deriving Repr, DecidableEq

namespace Notice

/-- What is logged when a telephony suggestion is scored. -/
def ofScoring (s : TelephonySuggestion) : List Notice :=
  if Telephony.lacksQuality s then [.qualityMissing s] else []

/-- What is logged when a telephony slot's suggestion is looked up. -/
def ofLookup (slot : Int) (found : Option Telephony.Qualified) : List Notice :=
  if found.isNone then [.slotUnknown slot] else []

/-- How much a notice matters. -/
def level : Notice → Log.Level
  | .recordCreated _ | .zoneWritten _ | .updateRejected .. | .updated .. | .manualRejected ..
  | .changedElsewhere .. | .modeChanged .. | .zoneChanged .. => .info
  | .qualityMissing _ | .slotUnknown _ | .telephonyRecorded .. | .geoDiscarded ..
  | .recordLoaded _ | .geoForgotten | .noGeo _ | .geoUnchanged .. | .noTelephony _
  | .belowThreshold .. | .zoneKept .. => .debug

/-- Who tells. -/
def source : Notice → String
  | .recordCreated _ | .zoneWritten _ => "adapters.in_memory_callback"
  | .qualityMissing _ | .slotUnknown _ => "services.telephony"
  | _ => "services.detector"

/-- What is told. -/
def message : Notice → String
  | .recordCreated user => "Creating configuration for new user: user_id=" ++ shownInt user
  | .zoneWritten zone => "Setting device time zone: zone_id=" ++ printedText zone
  | .qualityMissing s => "Telephony suggestion without quality: " ++ s.shown
  | .slotUnknown slot => "No telephony suggestion for slot_index=" ++ shownInt slot
  | .updateRejected user change caps =>
      "Configuration change rejected: user_id=" ++ shownInt user ++ " change=" ++ change.shown ++
        " capabilities=" ++ caps.shown
  | .updated user change =>
      "Configuration changed: user_id=" ++ shownInt user ++ " change=" ++ change.shown
  | .manualRejected user s capability =>
      "Manual suggestion rejected: user_id=" ++ shownInt user ++ " suggestion=" ++ s.shown ++
        " capability=" ++ capability.value
  | .telephonyRecorded slot score zone =>
      "Telephony suggestion recorded: slot_index=" ++ shownInt slot ++ " score=" ++
        score.printed ++ " zone_id=" ++ printedText zone
  | .geoDiscarded mode s =>
      "Geolocation suggestion discarded: detection_mode=" ++ mode.value ++ " suggestion=" ++
        s.shown
  | .recordLoaded user => "Loaded configuration: user_id=" ++ shownInt user
  | .changedElsewhere user switched =>
      "External configuration change: user_id=" ++ shownInt user ++ " user_switched=" ++
        shownBool switched
  | .modeChanged user previous mode =>
      "Detection mode changed: user_id=" ++ shownInt user ++ " " ++
        shownOption DetectionMode.value previous ++ " -> " ++ mode.value
  | .geoForgotten => "Forgetting geolocation suggestion"
  | .noGeo reason => "No geolocation suggestion: reason=" ++ reason.text
  | .geoUnchanged zones reason =>
      "Geolocation suggestion requires no change: zone_ids=" ++
        shownOption GeoSuggestion.shownZones zones ++ " reason=" ++ reason.text
  | .noTelephony reason => "No usable telephony suggestion: reason=" ++ reason.text
  | .belowThreshold score reason =>
      "Telephony suggestion below threshold: score=" ++ score.printed ++ " threshold=" ++
        Telephony.Score.usageThreshold.printed ++ " reason=" ++ reason.text
  | .zoneKept zone cause => "Device time zone already " ++ zone ++ ": cause=" ++ cause.text
  | .zoneChanged previous zone cause =>
      "Device time zone changed: " ++ printedText previous ++ " -> " ++ zone ++ " cause=" ++
        cause.text

/-- A notice as one line: how grave, from whom, and what. -/
def text (n : Notice) : String := n.level.label ++ " " ++ n.source ++ ": " ++ n.message

end Notice

end ZoneArbiter
