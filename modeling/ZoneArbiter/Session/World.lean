import ZoneArbiter.Arbiter.Basic
import ZoneArbiter.Device
import ZoneArbiter.Session.Shorthand

/-!
# ZoneArbiter.Session.World — the device of a session

The world of a session is a device in memory, a clock, and the listeners of the
session, together with a record of what happens. The device may stand in a `Rig`
that makes its calls fail, keeps it from reporting, or fixes an answer; then the
calls that change it are recorded too. Without a rig the device is left alone.
-/

namespace ZoneArbiter.Session

/-- What makes a device misbehave. -/
structure Rig where
  /-- The calls that fail, and how. -/
  faults : List (DeviceCall × Fault) := []
  /-- Whether changes are reported. -/
  echo : Bool := true
  /-- The answer to whether there is a zone, if it is fixed. -/
  initialized : Option Bool := none
deriving Repr, DecidableEq

/-- A listener of a session. -/
structure Listener where
  /-- The name that calls are recorded under. -/
  name : String
  /-- The steps it takes when it is called. -/
  steps : List Step
  /-- How many of its calls are left in which it takes them. -/
  remaining : Nat
  /-- How it fails after its steps, if it does. -/
  fault : Option Fault

/-- The device of a session and everything around it. -/
structure World where
  /-- The device. -/
  device : Device
  /-- What makes it misbehave, if anything may. -/
  rig : Option Rig
  /-- The least level of the lines that are recorded. -/
  least : Log.Level
  /-- What the clock shows, in microseconds since the start of 1970. -/
  clock : Int
  /-- How far a reading advances the clock. -/
  tick : Int
  /-- The listeners, by their numbers. -/
  listeners : List Listener := []
  /-- What happened since the record was last read, in order. -/
  trace : List Event := []

namespace World

/-- A call on the world, which may fail in the middle. -/
abbrev Call (α : Type) := EStateM Fault World α

/-- Record an event. -/
def recordEvent (w : World) (e : Event) : World := { w with trace := w.trace ++ [e] }

/-- Log a line: record it if its level is kept. -/
def log (n : Notice) (w : World) : World :=
  if w.least.keeps n.level then w.recordEvent (.logged n) else w

/-- Change the rig, if there is one. -/
def adjustRig (f : Rig → Rig) (w : World) : World := { w with rig := w.rig.map f }

/-- How a call fails at present, if it does. -/
def faultOf (w : World) (call : DeviceCall) : Option Fault :=
  w.rig.bind fun rig => rig.faults.lookup call

/-- Fail if the call is to fail. -/
def guard (call : DeviceCall) : Call Unit := do
  match (← get).faultOf call with
  | none => return ()
  | some f => throw f

/-- Record a call that changes the device, if the device stands in a rig. -/
def recordCall (e : Event) : Call Unit :=
  modify fun w => if w.rig.isSome then w.recordEvent e else w

/-- Log lines in order. -/
def logAll (notices : List Notice) : Call Unit :=
  modify fun w => notices.foldl (fun w n => w.log n) w

/-- Will the device report a change? -/
def reports (w : World) : Bool := w.rig.all Rig.echo

/-! ### The calls of the device -/

/-- Read who is current. -/
def currentUser : Call Int := do
  guard .currentUser
  return (← get).device.currentUser

/-- Read a user's record; a new user gets one. -/
def configurationOf (user : Int) : Call Configuration := do
  guard .configurationOf
  logAll ((← get).device.seeNotices user)
  modify fun w => { w with device := w.device.see user }
  return (← get).device.recordOf user

/-- Ask whether there is a zone. -/
def zoneInitialized : Call Bool := do
  guard .zoneInitialized
  let w ← get
  return (w.rig.bind Rig.initialized).getD w.device.zone.isSome

/-- Read the zone. -/
def deviceZone : Call (Option String) := do
  guard .deviceZone
  return (← get).device.zone

/-- Set the zone. -/
def setZone (zone : Option String) : Call Unit := do
  -- A call is recorded even if it then fails.
  recordCall (.zoneWrite zone)
  guard .setDeviceZone
  logAll [.zoneWritten zone]
  modify fun w => { w with device := w.device.setZone zone }

/-- Carry out a change of the device that may be due for a report, and say
whether a report is made. -/
def change (f : Device → Bool × Device) : Call Bool := do
  let w ← get
  let (due, device) := f w.device
  set { w with device }
  return due && w.reports

/-- Persist the settings that a change names, and say whether a report is made. -/
def storeConfiguration (user : Int) (settings : ConfigurationChange) : Call Bool := do
  recordCall (.storeCall user settings)
  guard .storeConfiguration
  logAll ((← get).device.seeNotices user)
  change (·.store user settings)

/-- Read the clock, which advances if what it shows has a date. -/
def readClock : Call Int := do
  let w ← get
  match Calendar.dateDefect? w.clock with
  | some defect => throw (.noDate defect)
  | none =>
      set { w with clock := w.clock + w.tick }
      return w.clock

/-- The world as the arbiter stands on it. -/
def host : Arbiter.Host World where
  currentUser := currentUser
  configurationOf := configurationOf
  zoneInitialized := zoneInitialized
  deviceZone := deviceZone
  setDeviceZone zone := setZone (some zone)
  storeConfiguration := storeConfiguration
  finishStore := guard .finishStore
  readClock := readClock
  log := log

/-! ### Listeners -/

/-- Add a listener after those that are there, and tell its number. -/
def addListener (l : Listener) : Call Arbiter.ListenerId := do
  let w ← get
  set { w with listeners := w.listeners ++ [l] }
  return w.listeners.length

/-- Record a call of a listener. If it is to take its steps this time, that is
counted and the listener is returned. -/
def answerCall (id : Arbiter.ListenerId) : Call (Option Listener) := do
  match (← get).listeners[id]? with
  | none => return none
  | some l =>
      modify (·.recordEvent (.listenerCalled l.name))
      if l.remaining = 0 then return none
      else
        modify fun w =>
          { w with listeners := w.listeners.set id { l with remaining := l.remaining - 1 } }
        return some l

end World

end ZoneArbiter.Session
