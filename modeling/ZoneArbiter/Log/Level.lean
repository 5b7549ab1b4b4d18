/-!
# ZoneArbiter.Log.Level — how much a log line matters

Levels are ordered by severity. A log with a least level keeps the lines of that
level and above.
-/

namespace ZoneArbiter.Log

/-- How much a log line matters. -/
inductive Level
  /-- For finding faults: why nothing happened. -/
  | debug
  /-- What happened. -/
  | info
  /-- Something unexpected. -/
  | warning
  /-- Something failed. -/
  | error
  /-- Nothing works any more. -/
  | critical
deriving Repr, DecidableEq

namespace Level

/-- The rank of a level; a graver level has a greater number. -/
def severity : Level → Nat
  | .debug => 10
  | .info => 20
  | .warning => 30
  | .error => 40
  | .critical => 50

/-- The name of a level. -/
def label : Level → String
  | .debug => "DEBUG"
  | .info => "INFO"
  | .warning => "WARNING"
  | .error => "ERROR"
  | .critical => "CRITICAL"

/-- All levels, the least grave first. -/
def all : List Level := [.debug, .info, .warning, .error, .critical]

/-- The level of a name. Two levels have a second one; other names, among them
`NOTSET`, are of no level. -/
def ofLabel? (s : String) : Option Level :=
  if s = "WARN" then some .warning
  else if s = "FATAL" then some .critical
  else all.find? (·.label = s)

/-- Does a log with this least level keep a line of the other level? -/
def keeps (least level : Level) : Bool := least.severity ≤ level.severity

/-- The least level to log: all lines for debugging, otherwise what happened. -/
def threshold (debugging : Bool) : Level := if debugging then .debug else .info

/-- A log for debugging keeps every line. -/
@[simp] theorem keeps_debug (level : Level) : keeps .debug level = true := by
  cases level <;> rfl

end Level

end ZoneArbiter.Log
