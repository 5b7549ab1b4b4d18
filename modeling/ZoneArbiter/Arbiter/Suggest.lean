import ZoneArbiter.Arbiter.Detection

/-!
# ZoneArbiter.Arbiter.Suggest — taking suggestions, and answering about them

A telephony suggestion is always recorded, a geolocation suggestion only while
detection by location is in effect; then the zone is detected anew. A user's pick
moves the device at once, if the user may pick.

The queries read the arbiter's memory; a record that is asked for is loaded if it
is not known yet.
-/

namespace ZoneArbiter.Arbiter

open Effect

variable {ω : Type} (a : Arbiter ω)

/-! ### Suggestions -/

/-- Take a user's pick, if the user may pick. -/
def suggestManual (user : Int) (s : ManualSuggestion) : Effect ω Bool := do
  let capability := (← a.recordOf user).capabilities.suggestManual
  if capability = .possessed then
    a.moveTo s.zone (.manual user)
    return true
  else
    a.note (.manualRejected user s capability)
    return false

/-- Take the suggestion of a telephony slot. -/
def suggestTelephony (s : TelephonySuggestion) : Effect ω Unit := do
  (Notice.ofScoring s).forM a.note
  -- Kept before the record is asked for: a host that fails does not lose it.
  remember fun m => { m with telephony := m.telephony.record s }
  a.note (.telephonyRecorded s.slot (Telephony.score s) s.zone)
  a.detect (← a.currentRecord) (.telephonySuggestion s.slot)

/-- Take the suggestion of geolocation, if it is in use. -/
def suggestGeo (s : GeoSuggestion) : Effect ω Unit := do
  let c ← a.currentRecord
  if c.geoBehavior then
    remember fun m => { m with geolocation := some s }
    a.detect c .geolocationSuggestion
  else a.note (.geoDiscarded c.mode s)

/-! ### Queries -/

/-- What a user may do, and the user's settings. -/
def capabilitiesAndSettings (user : Int) : Effect ω (Capabilities × ConfigurationChange) := do
  let c ← a.recordOf user
  return (c.capabilities, c.settings)

/-- The latest suggestion of a telephony slot. -/
def latestTelephony (slot : Int) : Effect ω (Option Telephony.Qualified) := do
  let found := (← memory).telephony.get? slot
  (Notice.ofLookup slot found).forM a.note
  return found

/-- The latest geolocation suggestion, unless it was forgotten. -/
def latestGeo : Effect ω (Option GeoSuggestion) := do return (← memory).geolocation

/-- The best telephony suggestion. -/
def bestTelephony : Effect ω (Option Telephony.Qualified) := do
  return (← memory).telephony.best?

/-! ### Registrations -/

/-- Register a listener after those that are registered. -/
def addListener (id : ListenerId) : Effect ω Unit :=
  remember fun m => { m with listeners := m.listeners ++ [id] }

/-- Register an addition to the status page after those that are registered. -/
def addAppendix (appendix : Status.Appendix) : Effect ω Unit :=
  remember fun m => { m with appendices := m.appendices ++ [appendix] }

/-- The memory that an arbiter starts with. Who is current is asked of the host, which cannot call
an arbiter that has not started yet. -/
def start (host : Host ω) (changes : ChangeLog) : EStateM Fault ω Memory := do
  return Memory.fresh changes (← host.currentUser)

end ZoneArbiter.Arbiter
