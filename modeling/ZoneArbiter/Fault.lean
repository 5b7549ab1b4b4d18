import ZoneArbiter.Calendar

/-!
# ZoneArbiter.Fault — a call that fails

The device, a listener or a component may fail in the middle of a call; all that
is known of such a failure is its message. The clock fails when what it shows has
no date.
-/

namespace ZoneArbiter

/-- The failure of a call outside the engine. -/
inductive Fault
  /-- A call failed, and this is what the failure says. -/
  | reported (message : String)
  /-- The clock was read at an instant that has no date. -/
  | noDate (defect : Calendar.DateDefect)
deriving Repr, DecidableEq

/-- What a failure says. -/
def Fault.message : Fault → String
  | .reported message => message
  | .noDate defect => defect.message

end ZoneArbiter
