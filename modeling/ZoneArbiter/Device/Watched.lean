import ZoneArbiter.Device
import ZoneArbiter.Fault

/-!
# ZoneArbiter.Device.Watched — a device with someone watching it

At most one watcher is told of the changes made on a device: registering another
takes the first one's place. The watcher is called after a change is in place,
and exactly when the operation says that a report is due. **A watcher that fails
does not undo the change**: requests run in `EStateM`, where a failing request
keeps the state that it has reached.

The journal holds what the device logs and the calls of the watcher, in order.
-/

namespace ZoneArbiter

/-- Someone who is told of the changes made on a device. -/
structure Watcher where
  /-- The name that calls are noted under. -/
  name : String
  /-- How each call fails, if it does. -/
  fault : Option Fault := none
deriving Repr, DecidableEq

/-- What a watched device has noted. -/
inductive JournalEntry
  /-- A line that the device logged. -/
  | logged (n : Notice)
  /-- A call of the watcher, who finds this user to be current. -/
  | notified (name : String) (currentUser : Int)
deriving Repr, DecidableEq

/-- An entry as one line. -/
def JournalEntry.text : JournalEntry → String
  | .logged n => n.text
  | .notified name currentUser => "notified " ++ name ++ " " ++ Text.shownInt currentUser

/-- A device, its watcher, and what was noted. -/
structure Watched where
  /-- The device. -/
  device : Device
  /-- Who watches it, if anyone does. -/
  watcher : Option Watcher := none
  /-- What was noted, in order. -/
  journal : List JournalEntry := []
deriving Repr, DecidableEq

namespace Watched

/-- What can be asked of a watched device. -/
inductive Request
  /-- Put a record in the place of the one held for its user. -/
  | replace (c : Configuration)
  /-- Bring a user to the foreground. -/
  | switch (c : Configuration)
  /-- Persist settings of a user. -/
  | store (user : Int) (change : ConfigurationChange)
  /-- Read the record of a user. -/
  | recordOf (user : Int)
  /-- Set the zone. -/
  | setZone (zone : Option String)
  /-- Read the zone. -/
  | zone
  /-- Register a watcher in the place of the present one. -/
  | watch (w : Watcher)
deriving Repr, DecidableEq

/-- What a request is answered with. -/
inductive Answer
  /-- It was done. -/
  | done
  /-- The record of a user. -/
  | record (c : Configuration)
  /-- Whether there is a zone, and the zone. -/
  | zone (initialized : Bool) (zone : Option String)
deriving Repr, DecidableEq

/-- A call on a watched device, which may fail in the middle. -/
abbrev Call (α : Type) := EStateM Fault Watched α

/-- Change the device. -/
def update (f : Device → Device) : Call Unit := modify fun s => { s with device := f s.device }

/-- Add lines to the journal. -/
def note (entries : List JournalEntry) : Call Unit :=
  modify fun s => { s with journal := s.journal ++ entries }

/-- Note what the device logs when it sees a user. -/
def noteSeen (user : Int) : Call Unit := do
  let s ← get
  note ((s.device.seeNotices user).map .logged)

/-- Call the watcher, if there is one. -/
def report : Call Unit := do
  let s ← get
  match s.watcher with
  | none => return ()
  | some w =>
      note [.notified w.name s.device.currentUser]
      match w.fault with
      | none => return ()
      | some f => throw f

/-- Call the watcher if a report is due. -/
def reportIf (due : Bool) : Call Unit := if due then report else return ()

/-- Do what is asked. -/
def perform : Request → Call Answer
  | .replace c => do
      let (due, device) := (← get).device.replace c
      update fun _ => device
      reportIf due
      return .done
  | .switch c => do
      update (·.switch c)
      report
      return .done
  | .store user change => do
      noteSeen user
      let (due, device) := (← get).device.store user change
      update fun _ => device
      reportIf due
      return .done
  | .recordOf user => do
      noteSeen user
      update (·.see user)
      return .record ((← get).device.recordOf user)
  | .setZone zone => do
      note [.logged (.zoneWritten zone)]
      update (·.setZone zone)
      return .done
  | .zone => do
      let device := (← get).device
      return .zone device.zone.isSome device.zone
  | .watch w => do
      modify fun s => { s with watcher := some w }
      return .done

end Watched

end ZoneArbiter
