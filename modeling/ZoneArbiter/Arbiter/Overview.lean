import ZoneArbiter.Arbiter.Basic
import ZoneArbiter.Geolocation

/-!
# ZoneArbiter.Arbiter.Overview — the arbiter's status page

The status page shows the current user's record and what follows from it, the
device's zone, the change log, the suggestions, and what other components add.
Lines are written as the answers come in, so a page that a fault cuts short holds
every line up to the fault.
-/

namespace ZoneArbiter.Arbiter

open Effect Text

variable {ω α : Type} (a : Arbiter ω)

/-- A call that writes to a page. -/
abbrev Writing (ω α : Type) := EStateM Fault (System ω × Status.Page) α

/-- An effect, with the page left as it is. -/
def Writing.act (effect : Effect ω α) : Writing ω α := fun (s, page) =>
  match effect s with
  | .ok value s => .ok value (s, page)
  | .error f s => .error f (s, page)

/-- A call on the page, with the system left as it is. -/
def Writing.onPage (call : EStateM Fault Status.Page α) : Writing ω α := fun (s, page) =>
  match call page with
  | .ok value page => .ok value (s, page)
  | .error f page => .error f (s, page)

/-- Change the page. -/
def Writing.put (f : Status.Page → Status.Page) : Writing ω Unit :=
  modify fun (s, page) => (s, f page)

open Writing

/-- The lines on the current user. -/
def overviewOfUser (users : List Int) (c : Configuration) : List String :=
  ["current_user_id=" ++ shownInt c.user,
   "known_user_ids=" ++ shownList (users.map shownInt),
   "configuration=" ++ c.shown,
   "detection_mode=" ++ c.mode.value,
   "capabilities=" ++ c.capabilities.shown]

/-- Write the change log, one level deeper. -/
def writeChanges (changes : ChangeLog) (page : Status.Page) : Status.Page :=
  ((page.line "Time zone change log:").indent.lines
    (changes.entries.map ZoneChange.statusLine)).dedent

/-- Write the status page. -/
def writeStatus (args : List String) : Writing ω Unit := do
  let c ← act a.currentRecord
  let users := (← act memory).records.users
  put fun page => (page.line "TimeZoneDetectorStrategy:").indent.lines (overviewOfUser users c)
  let initialized ← act a.host.zoneInitialized
  put (·.line ("device_time_zone_initialized=" ++ shownBool initialized))
  let zone ← act a.currentZone
  put (·.line ("device_time_zone=" ++ printedText zone))
  let m ← act memory
  put (writeChanges m.changes)
  put m.telephony.writeStatus
  put (Geolocation.writeStatus m.geolocation)
  put (·.dedent)
  -- An appendix starts where the one before it left the indent.
  m.appendices.forM fun appendix => onPage (appendix.run args)

/-- The page as far as it was written, and the fault that cut it short if one
did. -/
def overview (args : List String) (page : Status.Page) :
    Effect ω (Status.Page × Option Fault) := fun s =>
  match a.writeStatus args (s, page) with
  | .ok _ (s, page) => .ok (page, none) s
  | .error f (s, page) => .ok (page, some f) s

end ZoneArbiter.Arbiter
