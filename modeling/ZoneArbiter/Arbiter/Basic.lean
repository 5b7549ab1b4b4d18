import ZoneArbiter.Arbiter.Host
import ZoneArbiter.ChangeLog
import ZoneArbiter.Records
import ZoneArbiter.Status.Appendix
import ZoneArbiter.Telephony.Table

/-!
# ZoneArbiter.Arbiter.Basic — the arbiter, its memory and its calls

An arbiter is fixed by what it stands on and whom it tells: a `Host`, and a way
to call a listener. What changes over time is its `Memory`. The two states
together, the arbiter's memory and the host's state, are a `System`, and every
call of the arbiter is an `Effect` on a system.

Design points:

* the host and the listeners are called as effects on the whole system, so either
  may call the arbiter again; listeners themselves are known by number only. An
  arbiter on a host that keeps to itself is `Arbiter.on`;
* an effect that fails keeps the system as it was when it failed, so what was
  done before a failure stays done.
-/

namespace ZoneArbiter

namespace Arbiter

/-- The number that a listener is known by. -/
abbrev ListenerId := Nat

/-- What an arbiter remembers. -/
structure Memory where
  /-- The users' records that it has loaded. -/
  records : Records := {}
  /-- The latest suggestion of every telephony slot. -/
  telephony : Telephony.Table := {}
  /-- The latest geolocation suggestion, unless it was forgotten. -/
  geolocation : Option GeoSuggestion := none
  /-- The last zone changes that it made. -/
  changes : ChangeLog
  /-- The user that it last knew to be current. -/
  trackedUser : Int
  /-- Whom it tells of configuration changes, in the order of registration. -/
  listeners : List ListenerId := []
  /-- What is added to its status page, in the order of registration. -/
  appendices : List Status.Appendix := []
deriving Repr, DecidableEq

/-- The memory of an arbiter that has seen nothing but who is current. -/
def Memory.fresh (changes : ChangeLog) (currentUser : Int) : Memory :=
  { changes, trackedUser := currentUser }

end Arbiter

/-- An arbiter's memory and the state of its host. -/
structure System (ω : Type) where
  /-- What the arbiter remembers. -/
  memory : Arbiter.Memory
  /-- The state of the host. -/
  host : ω

/-- A call on a system, which may fail in the middle. -/
abbrev Effect (ω α : Type) := EStateM Fault (System ω) α

namespace Effect

variable {ω α : Type}

/-- A call of the host. -/
def onHost (call : EStateM Fault ω α) : Effect ω α := fun s =>
  match call s.host with
  | .ok a host => .ok a { s with host }
  | .error f host => .error f { s with host }

/-- Read the arbiter's memory. -/
def memory : Effect ω Arbiter.Memory := do return (← get).memory

/-- Change the arbiter's memory. -/
def remember (f : Arbiter.Memory → Arbiter.Memory) : Effect ω Unit :=
  modify fun s => { s with memory := f s.memory }

/-- Run an effect and hand out how it ended; what it did before it failed stays. -/
def attempt (effect : Effect ω α) : Effect ω (Except Fault α) := fun s =>
  match effect s with
  | .ok a s => .ok (.ok a) s
  | .error f s => .ok (.error f) s

end Effect

/-- An arbiter: what it stands on, and how it calls a listener. -/
structure Arbiter (ω : Type) where
  /-- What it stands on. -/
  host : Arbiter.Host (System ω)
  /-- How it calls a listener. -/
  callListener : Arbiter.ListenerId → Effect ω Unit

namespace Arbiter

open Effect

/-- An arbiter on a host that keeps to itself. -/
abbrev on {ω : Type} (host : Host ω) (callListener : ListenerId → Effect ω Unit) : Arbiter ω where
  host := host.lifted onHost fun f s => { s with host := f s.host }
  callListener

variable {ω : Type} (a : Arbiter ω)

/-- Log a line. -/
def note (n : Notice) : Effect ω Unit := modify (a.host.log n)

/-- The time in microseconds since the start of 1970. -/
def readClock : Effect ω Int := a.host.readClock

/-- The user in the foreground. -/
def currentUser : Effect ω Int := a.host.currentUser

/-- The records known by now. -/
def knownRecords : Effect ω Records := do return (← memory).records

/-- Change the records. -/
def reviseRecords (f : Records → Records) : Effect ω Unit :=
  remember fun m => { m with records := f m.records }

/-- The record of a user, loaded from the host if it is not known yet. -/
def recordOf (user : Int) : Effect ω Configuration :=
  Records.get knownRecords reviseRecords a.host.configurationOf user

section RecordOf

variable {a} {s : System ω} {user : Int}

/-- A known record is answered without the host. -/
theorem recordOf_of_peek {c : Configuration} (h : s.memory.records.peek user = some c) :
    a.recordOf user s = .ok c s :=
  Records.get_of_peek (show knownRecords s = .ok s.memory.records s from rfl) h

/-- For a user who is not known the host is asked, and its answer is kept. -/
theorem recordOf_of_peek_none (h : s.memory.records.peek user = none) :
    a.recordOf user s = (do
      let c ← a.host.configurationOf user
      reviseRecords (·.keep user c)
      return c : Effect ω Configuration) s :=
  Records.get_of_peek_none (show knownRecords s = .ok s.memory.records s from rfl) h

end RecordOf

/-- The record of the user in the foreground. -/
def currentRecord : Effect ω Configuration := do a.recordOf (← a.currentUser)

/-- The zone of the device, if it has one. -/
def currentZone : Effect ω (Option String) := do
  if ← a.host.zoneInitialized then a.host.deviceZone else return none

end Arbiter

end ZoneArbiter
