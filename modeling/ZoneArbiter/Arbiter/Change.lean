import ZoneArbiter.Arbiter.Detection

/-!
# ZoneArbiter.Arbiter.Change — when a configuration changes

A configuration changes in two ways: through the arbiter (`updateConfiguration`)
and on the device, which then reports it (`receiveReport`). Either way
`configurationChanged` follows: a geolocation suggestion is forgotten once the
current user no longer uses it, every listener is called, and the zone is
detected anew if the current user is concerned.

Updating persists on the host, and the host reports what it persisted. The
arbiter replaces its own record first, so that this report finds nothing new.
-/

namespace ZoneArbiter.Arbiter

open Effect

variable {ω : Type} (a : Arbiter ω)

/-- Call every listener that is registered now, in order. -/
def callListeners : Effect ω Unit := do (← memory).listeners.forM a.callListener

/-- Forget the geolocation suggestion. -/
def forgetLocation : Effect ω Unit := do
  if (← memory).geolocation.isSome then a.note .geoForgotten
  remember fun m => { m with geolocation := none }

/-- What follows on a change of a configuration. -/
def configurationChanged (previous : Option Configuration) (c : Configuration)
    (reason : Reason) : Effect ω Unit := do
  if previous.map Configuration.mode ≠ some c.mode then
    a.note (.modeChanged c.user (previous.map Configuration.mode) c.mode)
  -- Asked once, before the listeners: they may switch the user.
  let isCurrent := c.user = (← a.currentUser)
  if isCurrent ∧ c.geoBehavior = false then a.forgetLocation
  a.callListeners
  if isCurrent then a.detect c reason

/-- Handle the host's report that something has changed: reload the record of the
current user, and act on it if it is new or the user is. The first record of a
user who was current all along has nothing to be compared with, so it is only
kept. -/
def receiveReport : Effect ω Unit := do
  let user ← a.currentUser
  let c ← a.host.configurationOf user
  let m ← memory
  let previous := m.records.peek user
  let switched : Bool := user ≠ m.trackedUser
  remember fun m => { m with trackedUser := user }
  if previous = some c ∧ switched = false then return ()
  else
    remember fun m => { m with records := m.records.replace c }
    if previous = none ∧ switched = false then a.note (.recordLoaded user)
    else
      a.note (.changedElsewhere user switched)
      a.configurationChanged previous c .externalChange

/-- Persist a change on the host, and handle the report that the host makes of
it. -/
def persist (user : Int) (change : ConfigurationChange) : Effect ω Unit := do
  if ← a.host.storeConfiguration user change then a.receiveReport
  a.host.finishStore

/-- Change the settings of a user, if the user may change all of them. -/
def updateConfiguration (user : Int) (change : ConfigurationChange) : Effect ω Bool := do
  let old ← a.recordOf user
  match old.grant? change with
  | none =>
      a.note (.updateRejected user change old.capabilities)
      return false
  | some new =>
      -- The arbiter's own record first: the host's report then finds nothing new.
      remember fun m => { m with records := m.records.replace new }
      a.persist user change
      if new ≠ old then
        a.note (.updated user change)
        a.configurationChanged (some old) new .configurationUpdate
      return true

end ZoneArbiter.Arbiter
