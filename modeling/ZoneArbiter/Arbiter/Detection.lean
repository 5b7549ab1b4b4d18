import ZoneArbiter.Arbiter.Basic
import ZoneArbiter.Geolocation

/-!
# ZoneArbiter.Arbiter.Detection — moving the device to the winning zone

Detection consults the one source that the mode names and moves the device to
the zone that the source proposes, if it proposes one and the device is elsewhere.

* Geolocation proposes its preferred candidate unless the device is in one of the
  candidates.
* Telephony proposes the zone of the best suggestion. On a device that has a zone
  the suggestion must reach the usage threshold.
-/

namespace ZoneArbiter.Arbiter

open Effect

variable {ω : Type} (a : Arbiter ω)

/-- Move the device to a zone, and enter the move in the change log, unless the
device is there already. -/
def moveTo (zone : String) (cause : Cause) : Effect ω Unit := do
  let previous ← a.currentZone
  if previous = some zone then a.note (.zoneKept zone cause)
  else
    a.host.setDeviceZone zone
    let changedAt ← a.readClock
    remember fun m => { m with changes := m.changes.record { zone, previous, cause, changedAt } }
    a.note (.zoneChanged previous zone cause)

/-- Follow the latest geolocation suggestion. -/
def detectByLocation (reason : Reason) : Effect ω Unit := do
  match (← memory).geolocation with
  | none => a.note (.noGeo reason)
  | some s =>
      match Geolocation.selectZone s.zones (← a.currentZone) with
      | none => a.note (.geoUnchanged s.zones reason)
      | some zone => a.moveTo zone (.geolocation (s.zones.getD []) reason)

/-- Follow the best telephony suggestion. -/
def detectByTelephony (reason : Reason) : Effect ω Unit := do
  match (← memory).telephony.best? with
  | none => a.note (.noTelephony reason)
  | some best =>
      match best.suggestion.zone with
      | none => a.note (.noTelephony reason)
      | some zone =>
          let initialized ← a.host.zoneInitialized
          if initialized ∧ best.score.rank < Telephony.Score.usageThreshold.rank then
            a.note (.belowThreshold best.score reason)
          else
            a.moveTo zone (.telephony best.suggestion.slot best.score reason)

/-- Consult the source that a configuration names, if it names one. -/
def detect (c : Configuration) (reason : Reason) : Effect ω Unit :=
  match c.mode with
  | .off => return ()
  | .autoTelephony => a.detectByTelephony reason
  | .autoGeo => a.detectByLocation reason

end ZoneArbiter.Arbiter
