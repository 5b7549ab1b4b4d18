import ZoneArbiter.Session.Run

/-!
# ZoneArbiter.Proofs.Scene

A **scene** is a session without its noise: what the arbiter remembers, the
device, the clock, and the calls made so far, with no log lines and nothing that
can fail. Every operation of the arbiter is given here once more as a function
from scenes to scenes (`Scene.update`, `Scene.report`, …); it has no monad and no
host, so what it does can be read off and computed.

`Proofs/Scene/Performance.lean` proves that the arbiter does on a calm world
exactly what these functions say. Invariants of sessions are then proved on
scenes, by cases on plain data.
-/

namespace ZoneArbiter

open Arbiter (Memory)
open Session (Event Step)

/-- Everything but a line of the log: a call of the device or of a listener. -/
def Session.Event.isCall : Event → Bool
  | .logged _ => false
  | _ => true

/-- A session without its noise. -/
structure Scene where
  /-- What the arbiter remembers. -/
  memory : Memory
  /-- The device. -/
  device : Device
  /-- What the clock shows. -/
  now : Int
  /-- How far a reading advances the clock. -/
  tick : Int
  /-- Whether calls that change the device are recorded. -/
  recorded : Bool
  /-- The names of the listeners, by their numbers. -/
  names : List String
  /-- The calls recorded so far, in order. -/
  calls : List Event

namespace Scene

/-! ### Parts of a scene -/

/-- The scene after a change of the arbiter's memory. -/
def remember (sc : Scene) (f : Memory → Memory) : Scene := { sc with memory := f sc.memory }

/-- The scene after a change of the device. -/
def onDevice (sc : Scene) (f : Device → Device) : Scene := { sc with device := f sc.device }

/-- The scene with further calls recorded. -/
def call (sc : Scene) (events : List Event) : Scene := { sc with calls := sc.calls ++ events }

/-- The scene with a call recorded that changes the device. -/
def deviceCall (sc : Scene) (e : Event) : Scene := if sc.recorded then sc.call [e] else sc

@[simp] theorem remember_memory (sc : Scene) (f) : (sc.remember f).memory = f sc.memory := rfl
@[simp] theorem remember_device (sc : Scene) (f) : (sc.remember f).device = sc.device := rfl
@[simp] theorem onDevice_memory (sc : Scene) (f) : (sc.onDevice f).memory = sc.memory := rfl
@[simp] theorem onDevice_device (sc : Scene) (f) : (sc.onDevice f).device = f sc.device := rfl
@[simp] theorem call_memory (sc : Scene) (es) : (sc.call es).memory = sc.memory := rfl
@[simp] theorem call_device (sc : Scene) (es) : (sc.call es).device = sc.device := rfl

@[simp] theorem deviceCall_memory (sc : Scene) (e) : (sc.deviceCall e).memory = sc.memory := by
  unfold deviceCall
  split <;> rfl

@[simp] theorem deviceCall_device (sc : Scene) (e) : (sc.deviceCall e).device = sc.device := by
  unfold deviceCall
  split <;> rfl

/-! ### Reading records -/

/-- The record that the arbiter goes by for a user: its own, or else the one that
it would load. -/
def recordOf (sc : Scene) (user : Int) : Configuration :=
  (sc.memory.records.peek user).getD (sc.device.recordOf user)

/-- The scene once the arbiter knows a user's record. -/
def load (sc : Scene) (user : Int) : Scene :=
  match sc.memory.records.peek user with
  | some _ => sc
  | none =>
      (sc.onDevice (·.see user)).remember fun m =>
        { m with records := m.records.keep user (sc.device.recordOf user) }

/-- The scene once the arbiter keeps a record in the place of its user's. -/
def adopt (sc : Scene) (c : Configuration) : Scene :=
  sc.remember fun m => { m with records := m.records.replace c }

/-! ### Moving the device -/

/-- The scene once the device is in a zone. -/
def moveTo (sc : Scene) (zone : String) (cause : Cause) : Scene :=
  if sc.device.zone = some zone then sc
  else
    let moved := (sc.deviceCall (.zoneWrite (some zone))).onDevice (·.setZone (some zone))
    { moved with now := moved.now + moved.tick }.remember fun m =>
      { m with changes := m.changes.record ⟨zone, sc.device.zone, cause, moved.now⟩ }

/-- The move that the source named by a configuration asks for, with its cause. -/
def proposal (sc : Scene) (c : Configuration) (reason : Reason) : Option (String × Cause) :=
  match c.mode with
  | .off => none
  | .autoTelephony =>
      sc.memory.telephony.best?.bind fun best =>
        best.suggestion.zone.bind fun zone =>
          if sc.device.zone.isSome ∧ best.score.rank < Telephony.Score.usageThreshold.rank then none
          else some (zone, .telephony best.suggestion.slot best.score reason)
  | .autoGeo =>
      sc.memory.geolocation.bind fun s =>
        (Geolocation.selectZone s.zones sc.device.zone).map fun zone =>
          (zone, .geolocation (s.zones.getD []) reason)

/-- The scene once the source named by a configuration was followed. -/
def detect (sc : Scene) (c : Configuration) (reason : Reason) : Scene :=
  match sc.proposal c reason with
  | none => sc
  | some (zone, cause) => sc.moveTo zone cause

/-! ### Configurations that change -/

/-- The scene once the geolocation suggestion is forgotten. -/
def forget (sc : Scene) : Scene := sc.remember fun m => { m with geolocation := none }

/-- The scene once every registered listener was called. -/
def tell (sc : Scene) : Scene :=
  sc.call ((sc.memory.listeners.filterMap (sc.names[·]?)).map .listenerCalled)

/-- The scene after what follows on a change of a configuration. -/
def configurationChanged (sc : Scene) (c : Configuration) (reason : Reason) : Scene :=
  if c.user = sc.device.currentUser then
    (if c.geoBehavior then sc.tell else sc.forget.tell).detect c reason
  else sc.tell

/-- The scene once a report of the device was handled. -/
def report (sc : Scene) : Scene :=
  let user := sc.device.currentUser
  let c := sc.device.recordOf user
  let tracking := (sc.onDevice (·.see user)).remember fun m => { m with trackedUser := user }
  if user = sc.memory.trackedUser then
    match sc.memory.records.peek user with
    | none => tracking.adopt c
    | some known =>
        if known = c then tracking
        else (tracking.adopt c).configurationChanged c .externalChange
  else (tracking.adopt c).configurationChanged c .externalChange

/-- The scene once settings of a user were persisted, and the report of it handled
if there was one. -/
def persist (sc : Scene) (user : Int) (change : ConfigurationChange) : Scene :=
  let stored := (sc.deviceCall (.storeCall user change)).onDevice fun d => (d.store user change).2
  if (sc.device.store user change).1 then stored.report else stored

/-- Whether a user's settings were changed, and the scene after that. -/
def update (sc : Scene) (user : Int) (change : ConfigurationChange) : Bool × Scene :=
  match (sc.recordOf user).grant? change with
  | none => (false, sc.load user)
  | some new =>
      let persisted := ((sc.load user).adopt new).persist user change
      (true, if new = sc.recordOf user then persisted
        else persisted.configurationChanged new .configurationUpdate)

/-! ### Suggestions -/

/-- Whether a user's pick was taken, and the scene after that. -/
def manual (sc : Scene) (user : Int) (s : ManualSuggestion) : Bool × Scene :=
  if (sc.recordOf user).capabilities.suggestManual = .possessed then
    (true, (sc.load user).moveTo s.zone (.manual user))
  else (false, sc.load user)

/-- The scene after the suggestion of a telephony slot. -/
def telephony (sc : Scene) (s : TelephonySuggestion) : Scene :=
  let user := sc.device.currentUser
  ((sc.remember fun m => { m with telephony := m.telephony.record s }).load user).detect
    (sc.recordOf user) (.telephonySuggestion s.slot)

/-- The scene after the suggestion of geolocation. -/
def geo (sc : Scene) (s : GeoSuggestion) : Scene :=
  let user := sc.device.currentUser
  if (sc.recordOf user).geoBehavior then
    ((sc.load user).remember fun m => { m with geolocation := some s }).detect
      (sc.recordOf user) .geolocationSuggestion
  else sc.load user

/-! ### Steps of a session -/

/-- The scene after a step of the session. Steps that only ask, or that touch the
rig of the device, leave the scene as it is. -/
def after (sc : Scene) : Step → Scene
  | .current | .status .. => sc.load sc.device.currentUser
  | .capabilities user => sc.load user
  | .update user change => (sc.update user change).2
  | .manual user s => (sc.manual user s).2
  | .telephony s => sc.telephony s
  | .geo s => sc.geo s
  | .addListener name .. =>
      { sc with names := sc.names ++ [name] }.remember fun m =>
        { m with listeners := m.listeners ++ [sc.names.length] }
  | .addAppendix appendix =>
      sc.remember fun m => { m with appendices := m.appendices ++ [appendix] }
  | .replace c =>
      let replaced := sc.onDevice fun d => (d.replace c).2
      if (sc.device.replace c).1 then replaced.report else replaced
  | .switch c => (sc.onDevice (·.switch c)).report
  | .store user change => sc.persist user change
  | .recordOf user => sc.onDevice (·.see user)
  | .setZone zone => (sc.deviceCall (.zoneWrite zone)).onDevice (·.setZone zone)
  | .report => sc.report
  | .clock microseconds tick => { sc with now := microseconds, tick }
  | .invalid .. | .latestTelephony _ | .latestGeo | .best | .changeLog | .zone | .fault .. | .echo _
  | .initialized _ => sc

end Scene

end ZoneArbiter
