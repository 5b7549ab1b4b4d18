import ZoneArbiter.Arbiter.Change
import ZoneArbiter.Arbiter.Overview
import ZoneArbiter.Arbiter.Suggest
import ZoneArbiter.Session.World

/-!
# ZoneArbiter.Session.Run — taking the steps of a session

`perform` takes one step with a given arbiter. The arbiter of a session calls
listeners that take steps themselves, with an arbiter that calls listeners in
turn; the regress ends because every listener takes its steps a fixed number of
times. `callListener` descends on a bound for how often that can still happen,
and `Session.arbiter` supplies one that covers the whole script.

Each step is reported with how it ended, what happened, and the state after it;
looking at the state has no effect.
-/

namespace ZoneArbiter.Session

open Effect

/-- Hand out how an effect ended, with its fault as a problem. -/
def outcome (effect : Effect World Answer) : Effect World Outcome := do
  return (← attempt effect).mapError .fault

/-- Handle a report of the device if it makes one. -/
def reportIf (a : Arbiter World) (call : World.Call Bool) : Effect World Answer := do
  if ← onHost call then a.receiveReport
  return .done

/-- Adjust the rig of the device. -/
def adjust (f : World → World) : Effect World Answer := do
  onHost (modify f)
  return .done

/-- Take a step that was understood. -/
def act (a : Arbiter World) : Step → Effect World Answer
  | .invalid .. => return .done
  | .current => return .record (← a.currentRecord)
  | .capabilities user => do
      let (caps, settings) ← a.capabilitiesAndSettings user
      return .capabilities caps settings
  | .update user change => return .flag (← a.updateConfiguration user change)
  | .manual user s => return .flag (← a.suggestManual user s)
  | .telephony s => do
      a.suggestTelephony s
      return .done
  | .geo s => do
      a.suggestGeo s
      return .done
  | .latestTelephony slot => return .telephony (← a.latestTelephony slot)
  | .latestGeo => return .geo (← Arbiter.latestGeo)
  | .best => return .telephony (← Arbiter.bestTelephony)
  | .addListener name steps times fault => do
      let id ← onHost (World.addListener ⟨name, steps, times, fault⟩)
      Arbiter.addListener id
      return .done
  | .addAppendix appendix => do
      Arbiter.addAppendix appendix
      return .done
  | .status args unit => do
      let (page, fault) ← a.overview args { unit }
      return .page page.text fault
  | .changeLog => return .changes (← memory).changes.entries
  | .replace c => reportIf a (World.change (·.replace c))
  | .switch c => reportIf a (World.change fun device => (true, device.switch c))
  | .store user change => do
      a.persist user change
      return .done
  | .recordOf user => return .record (← onHost (World.configurationOf user))
  | .setZone zone => do
      onHost (World.setZone zone)
      return .done
  | .zone => do
      let initialized ← onHost World.zoneInitialized
      return .zone initialized (← onHost World.deviceZone)
  | .report => do
      a.receiveReport
      return .done
  | .fault call fault? => adjust <| World.adjustRig fun rig =>
      let others := rig.faults.filter (·.1 ≠ call)
      { rig with faults := others ++ fault?.toList.map (call, ·) }
  | .echo on => adjust <| World.adjustRig fun rig => { rig with echo := on }
  | .initialized answer => adjust <| World.adjustRig fun rig => { rig with initialized := answer }
  | .clock microseconds tick => adjust fun w => { w with clock := microseconds, tick }

/-- Take a step. -/
def perform (a : Arbiter World) : Step → Effect World Outcome
  | .invalid _ problem => return .error problem
  | step => outcome (act a step)

/-- Take a step on behalf of a listener, and record it. -/
def performNested (a : Arbiter World) (step : Step) : Effect World Unit := do
  let ended ← perform a step
  onHost (modify (·.recordEvent (.stepTaken step.label ended)))

/-- Call a listener, where listeners take their steps at most `bound` times from
here on. -/
def callListener : Nat → Arbiter.ListenerId → Effect World Unit
  | 0, id => do
      let _ ← onHost (World.answerCall id)
  | bound + 1, id => do
      match ← onHost (World.answerCall id) with
      | none => return ()
      | some l =>
          l.steps.forM (performNested (.on World.host (callListener bound)))
          match l.fault with
          | none => return ()
          | some f => throw f

/-! ### Sessions -/

/-- How a session begins. -/
structure Setup where
  /-- The device. -/
  device : Device
  /-- What makes it misbehave, if anything may. -/
  rig : Option Rig
  /-- The least level of the lines that are recorded. -/
  least : Log.Level := .debug
  /-- How many entries the change log keeps. -/
  logSize : Int := 30
  /-- What the clock shows. -/
  clock : Int := 0
  /-- How far a reading advances the clock. -/
  tick : Int := 0

/-- What can be seen of a session without touching it. -/
structure Snapshot where
  /-- The zone of the device. -/
  zone : Option String
  /-- The user current on the device, and the one that the arbiter tracks. -/
  users : Int × Int
  /-- The records that the arbiter has, by ascending user. -/
  known : List Configuration
  /-- The records that the device has, by ascending user. -/
  stored : List Configuration
  /-- The latest geolocation suggestion. -/
  geo : Option GeoSuggestion
  /-- The best telephony suggestion. -/
  best : Option Telephony.Qualified
  /-- How many entries the change log has. -/
  changes : Nat

/-- What can be seen of a system. -/
def Snapshot.of (s : System World) : Snapshot where
  zone := s.host.device.zone
  users := (s.host.device.currentUser, s.memory.trackedUser)
  known := s.memory.records.byUser.values
  stored := s.host.device.records.values
  geo := s.memory.geolocation
  best := s.memory.telephony.best?
  changes := s.memory.changes.entries.length

/-- What is seen of one step. -/
structure StepReport where
  /-- How it ended. -/
  outcome : Outcome
  /-- What happened, in order. -/
  events : List Event
  /-- What can be seen after it. -/
  after : Snapshot

/-- The world that a session begins with. -/
def Setup.world (setup : Setup) : World :=
  { device := setup.device, rig := setup.rig, least := setup.least, clock := setup.clock,
    tick := setup.tick }

/-- The system that a session begins with. -/
def Setup.system (setup : Setup) : Except Problem (System World) :=
  match ChangeLog.ofSize setup.logSize with
  | .error defect => .error (.unusableSize defect)
  | .ok changes =>
      match Arbiter.start World.host changes setup.world with
      | .ok memory host => .ok { memory, host }
      | .error f _ => .error (.fault f)

/-- The arbiter of a session, whose listeners take their steps at most `bound`
times. -/
def arbiter (bound : Nat) : Arbiter World := .on World.host (callListener bound)

/-- Take one step, and hand out what is seen of it. -/
def take (bound : Nat) (step : Step) (s : System World) : StepReport × System World :=
  match perform (arbiter bound) step s with
  | .ok outcome s => (⟨outcome, s.host.trace, .of s⟩, clear s)
  | .error f s => (⟨.error (.fault f), s.host.trace, .of s⟩, clear s)
where
  /-- The system with the record of what happened read. -/
  clear (s : System World) : System World := { s with host := { s.host with trace := [] } }

/-- Take steps in order. -/
def takeAll (bound : Nat) : List Step → System World → List StepReport
  | [], _ => []
  | step :: rest, s =>
      let (seen, s) := take bound step s
      seen :: takeAll bound rest s

/-- Run a session: what is seen at its beginning, and of each of its steps. -/
def run (setup : Setup) (steps : List Step) : Except Problem (Snapshot × List StepReport) := do
  let s ← setup.system
  return (.of s, takeAll (Step.totalRuns steps) steps s)

end ZoneArbiter.Session
