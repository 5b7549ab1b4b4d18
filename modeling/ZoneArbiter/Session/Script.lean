import ZoneArbiter.Capability
import ZoneArbiter.ChangeLog
import ZoneArbiter.Problem
import ZoneArbiter.Status.Appendix

/-!
# ZoneArbiter.Session.Script — what can happen in a session

A session is a list of steps against one arbiter and its device: calls of the
arbiter, changes made on the device itself, and settings of the rig that makes
the device fail or keep quiet. A listener carries steps of its own, to be taken
when it is called. `Step.runs` bounds how often that can happen.
-/

namespace ZoneArbiter.Session

/-- The calls of the device that can be made to fail. -/
inductive DeviceCall
  /-- Reading a user's record. -/
  | configurationOf
  /-- Reading who is current. -/
  | currentUser
  /-- Asking whether there is a zone. -/
  | zoneInitialized
  /-- Reading the zone. -/
  | deviceZone
  /-- Setting the zone. -/
  | setDeviceZone
  /-- Persisting settings, before anything is done. -/
  | storeConfiguration
  /-- Persisting settings, after everything was done. -/
  | finishStore
  /-- A call that a session never makes. -/
  | other (name : String)
deriving Repr, DecidableEq

/-- One step of a session. -/
inductive Step
  /-- A step that could not be understood. -/
  | invalid (label : String) (problem : Problem)
  /-- Ask for the current user's record. -/
  | current
  /-- Ask what a user may do. -/
  | capabilities (user : Int)
  /-- Change a user's settings. -/
  | update (user : Int) (change : ConfigurationChange)
  /-- Suggest the pick of a user. -/
  | manual (user : Int) (s : ManualSuggestion)
  /-- Suggest for a telephony slot. -/
  | telephony (s : TelephonySuggestion)
  /-- Suggest for geolocation. -/
  | geo (s : GeoSuggestion)
  /-- Ask for the latest suggestion of a telephony slot. -/
  | latestTelephony (slot : Int)
  /-- Ask for the latest geolocation suggestion. -/
  | latestGeo
  /-- Ask for the best telephony suggestion. -/
  | best
  /-- Register a listener. On its first `times` calls it takes its steps and then
  fails, if it is to. -/
  | addListener (name : String) (steps : List Step) (times : Nat) (fault : Option Fault)
  /-- Register an addition to the status page. -/
  | addAppendix (appendix : Status.Appendix)
  /-- Ask for the status page. -/
  | status (args : List String) (unit : String)
  /-- Ask for the change log. -/
  | changeLog
  /-- Replace a user's record on the device. -/
  | replace (c : Configuration)
  /-- Bring a user of the device to the foreground. -/
  | switch (c : Configuration)
  /-- Persist settings of a user on the device. -/
  | store (user : Int) (change : ConfigurationChange)
  /-- Read a user's record from the device. -/
  | recordOf (user : Int)
  /-- Set the zone of the device. -/
  | setZone (zone : Option String)
  /-- Read the zone of the device. -/
  | zone
  /-- Deliver the device's report once more. -/
  | report
  /-- Make a call of the device fail from now on, or succeed again. -/
  | fault (call : DeviceCall) (fault : Option Fault)
  /-- Let the device report, or keep quiet. -/
  | echo (on : Bool)
  /-- Fix the device's answer to whether there is a zone, or set it free. -/
  | initialized (answer : Option Bool)
  /-- Set the clock, and how far each reading advances it. -/
  | clock (microseconds tick : Int)
deriving Repr, Inhabited

namespace Step

/-- The word for the kind of a step. -/
def label : Step → String
  | .invalid label _ => label
  | .current => "current"
  | .capabilities _ => "caps"
  | .update .. => "update"
  | .manual .. => "manual"
  | .telephony _ => "telephony"
  | .geo _ => "geo"
  | .latestTelephony _ => "latest_telephony"
  | .latestGeo => "latest_geo"
  | .best => "best"
  | .addListener .. => "add_listener"
  | .addAppendix _ => "add_dumpable"
  | .status .. => "dump"
  | .changeLog => "change_log"
  | .replace _ => "external"
  | .switch _ => "switch"
  | .store .. => "store"
  | .recordOf _ => "get_stored"
  | .setZone _ => "set_zone"
  | .zone => "get_zone"
  | .report => "notify"
  | .fault .. => "fault"
  | .echo _ => "echo"
  | .initialized _ => "initialized"
  | .clock .. => "clock"

mutual

/-- How often listeners can take their steps in consequence of a step: a listener
does so a fixed number of times, and each time its own steps may register more. -/
def runs : Step → Nat
  | .addListener _ steps times _ => times * (1 + totalRuns steps)
  | _ => 0

/-- How often listeners can take their steps in consequence of some steps. -/
def totalRuns : List Step → Nat
  | [] => 0
  | step :: rest => step.runs + totalRuns rest

end

end Step

/-- What a step is answered with. -/
inductive Answer
  /-- It was done. -/
  | done
  /-- Yes or no. -/
  | flag (b : Bool)
  /-- A user's record. -/
  | record (c : Configuration)
  /-- What a user may do, and the user's settings. -/
  | capabilities (caps : Capabilities) (settings : ConfigurationChange)
  /-- A telephony suggestion, if there is one. -/
  | telephony (q : Option Telephony.Qualified)
  /-- A geolocation suggestion, if there is one. -/
  | geo (s : Option GeoSuggestion)
  /-- A status page, and the fault that cut it short if one did. -/
  | page (text : String) (fault : Option Fault)
  /-- The entries of the change log, oldest first. -/
  | changes (entries : List ZoneChange)
  /-- Whether the device says that there is a zone, and the zone. -/
  | zone (initialized : Bool) (id : Option String)
deriving Repr, DecidableEq

/-- How a step ends. -/
abbrev Outcome := Except Problem Answer

end ZoneArbiter.Session
