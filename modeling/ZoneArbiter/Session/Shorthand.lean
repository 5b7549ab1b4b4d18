import ZoneArbiter.Notice
import ZoneArbiter.Session.Script

/-!
# ZoneArbiter.Session.Shorthand — values in the short form of a session's record

A session is recorded with values in a short form: a configuration as its user
and five letters, one for each flag, capabilities as a list of words, and
suggestions with short names for their fields.
-/

namespace ZoneArbiter.Session

open ZoneArbiter.Text

/-- The letter for a flag. -/
def letter (b : Bool) : Char := if b then 'T' else 'F'

/-- A configuration: the user and a letter for each flag. -/
def configurationJson (c : Configuration) : Json :=
  .array [.int c.user, .text (String.ofList
    [letter c.userConfigAllowed, letter c.autoSupported, letter c.autoEnabled,
     letter c.locationEnabled, letter c.geoEnabled])]

/-- The configuration of a user and five letters. -/
def configurationOfLetters? (user : Int) (letters : String) : Option Configuration :=
  match letters.toList.map (· == 'T') with
  | [allowed, supported, auto, location, geo] =>
      some ⟨user, allowed, supported, auto, location, geo⟩
  | _ => none

/-- New values for a user's settings. -/
def changeJson (change : ConfigurationChange) : Json :=
  .object [("auto", .ofOption .bool change.autoEnabled), ("geo", .ofOption .bool change.geoEnabled)]

/-- What a user may do. -/
def capabilitiesJson (caps : Capabilities) : Json :=
  .array [.int caps.user, .text caps.configureAuto.value, .text caps.configureGeo.value,
    .text caps.suggestManual.value]

/-- A telephony suggestion. -/
def telephonyJson (s : TelephonySuggestion) : Json :=
  .object
    [("slot", .int s.slot), ("zone", .ofOption .text s.zone),
     ("match", .ofOption (fun m => .text m.value) s.matchType),
     ("quality", .ofOption (fun q => .text q.value) s.quality), ("debug", .texts s.debug)]

/-- A telephony suggestion with its score. -/
def qualifiedJson (q : Telephony.Qualified) : Json :=
  .object [("suggestion", telephonyJson q.suggestion), ("score", .int q.score.rank)]

/-- A geolocation suggestion. -/
def geoJson (s : GeoSuggestion) : Json :=
  .object [("zones", .ofOption .texts s.zones), ("debug", .texts s.debug)]

/-- A change of the device's zone. -/
def zoneChangeJson (change : ZoneChange) : Json :=
  .array [.text change.zone, .ofOption .text change.previous, .text change.cause.text,
    .text (Calendar.timestamp change.changedAt)]

/-- What a step was answered with. -/
def Answer.toJson (answer : Answer) : Json :=
  match answer with
  | .done => .null
  | .flag b => .bool b
  | .record c => configurationJson c
  | .capabilities caps settings =>
      .object [("capabilities", capabilitiesJson caps), ("configuration", changeJson settings)]
  | .telephony q => .ofOption qualifiedJson q
  | .geo s => .ofOption geoJson s
  | .page text fault =>
      .object [("text", .text text), ("error", .ofOption (fun f => (Problem.fault f).toJson) fault)]
  | .changes entries => .array (entries.map zoneChangeJson)
  | .zone initialized id => .array [.bool initialized, .ofOption .text id]

/-- How a step ended. -/
def Outcome.toJson : Outcome → Json
  | .ok answer => answer.toJson
  | .error problem => problem.toJson

/-- Something that happened in a session and is recorded. -/
inductive Event
  /-- A line was logged. -/
  | logged (n : Notice)
  /-- The device was told to set its zone. -/
  | zoneWrite (zone : Option String)
  /-- The device was told to persist settings. -/
  | storeCall (user : Int) (change : ConfigurationChange)
  /-- A listener was called. -/
  | listenerCalled (name : String)
  /-- A listener took a step. -/
  | stepTaken (label : String) (outcome : Outcome)

/-- An event as one line of the record. -/
def Event.text : Event → String
  | .logged n => n.text
  | .zoneWrite zone => "boundary set_device_time_zone " ++ (Json.ofOption .text zone).spaced
  | .storeCall user change =>
      "boundary store_configuration " ++ shownInt user ++ " " ++ (changeJson change).spaced
  | .listenerCalled name => "listener " ++ name
  | .stepTaken label outcome =>
      "nested " ++ label ++ " " ++ (Outcome.toJson outcome).sorted.spaced

end ZoneArbiter.Session
