import ZoneArbiter.Fault
import ZoneArbiter.Notice

/-!
# ZoneArbiter.Arbiter.Host — what the arbiter stands on

The arbiter reads users' records and the device's zone, sets the zone and
persists settings through a `Host`. A host is given by its calls on a state;
every call may fail, and one that fails keeps the state it has reached.

A host that keeps to itself has a state of its own. A host that may call the
arbiter back acts on a larger state, which the arbiter is a part of; one with a
state of its own is carried over to a larger state by `Host.lifted`.

Persisting has two halves. The first does the work and says whether the host
reports a change before it returns; the arbiter then handles that report, and the
second half is what the host still does after it. So a host that keeps to itself
can report what it persists, in the order of effects of a host that calls back.

Logging does not fail. Reading the clock fails where no date can be told.
-/

namespace ZoneArbiter.Arbiter

/-- The device and its settings, as the arbiter uses them. -/
structure Host (σ : Type) where
  /-- The user in the foreground. -/
  currentUser : EStateM Fault σ Int
  /-- The record of a user. -/
  configurationOf : Int → EStateM Fault σ Configuration
  /-- Does the device have a zone? -/
  zoneInitialized : EStateM Fault σ Bool
  /-- The zone of the device. -/
  deviceZone : EStateM Fault σ (Option String)
  /-- Move the device to a zone. -/
  setDeviceZone : String → EStateM Fault σ Unit
  /-- Persist the settings that a change names, and say whether the host reports
  a change now. -/
  storeConfiguration : Int → ConfigurationChange → EStateM Fault σ Bool
  /-- What is left of persisting once the report has been handled. -/
  finishStore : EStateM Fault σ Unit
  /-- The time in microseconds since the start of 1970. -/
  readClock : EStateM Fault σ Int
  /-- Log a line. -/
  log : Notice → σ → σ

/-- The host on a larger state, with its calls and what logging does carried over. -/
abbrev Host.lifted {ω σ : Type} (call : {α : Type} → EStateM Fault ω α → EStateM Fault σ α)
    (logging : (ω → ω) → σ → σ) (host : Host ω) : Host σ where
  currentUser := call host.currentUser
  configurationOf user := call (host.configurationOf user)
  zoneInitialized := call host.zoneInitialized
  deviceZone := call host.deviceZone
  setDeviceZone zone := call (host.setDeviceZone zone)
  storeConfiguration user change := call (host.storeConfiguration user change)
  finishStore := call host.finishStore
  readClock := call host.readClock
  log n := logging (host.log n)

end ZoneArbiter.Arbiter
