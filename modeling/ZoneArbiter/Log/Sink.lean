import ZoneArbiter.Calendar
import ZoneArbiter.Decimal
import ZoneArbiter.Log.Level

/-!
# ZoneArbiter.Log.Sink — where log lines go

A sink takes the lines of one logger and of the loggers below it, whose names
continue its own after a point. Before it is configured it takes nothing.
Configuring it again changes its level and nothing else: **there is one handler,
however often it is configured** (`handlers_configure`).
-/

namespace ZoneArbiter.Log

/-- The name of the sink's logger. -/
def loggerName : String := "timezone_detector"

/-- A place that log lines are written to. -/
structure Sink where
  /-- The least level to write, once there is one. -/
  least : Option Level := none
deriving Repr, DecidableEq

/-- A line before it is written. -/
structure Line where
  /-- What follows the name of the sink's logger in the name of the line's own. -/
  suffix : String
  /-- How much it matters, by one of the names of a level. -/
  label : String
  /-- What it says. -/
  message : String
  /-- When it was made, in seconds since the start of 1970. -/
  created : Decimal
  /-- The milliseconds to add. -/
  milliseconds : Decimal
deriving Repr, DecidableEq

namespace Sink

/-- Configure the sink to write all lines, or what happened. -/
def configure (_sink : Sink) (debugging : Bool) : Sink := ⟨some (.threshold debugging)⟩

/-- How many handlers write to the sink. -/
def handlers (sink : Sink) : Nat := if sink.least.isSome then 1 else 0

/-- Do lines also go where other loggers' lines go? Not once the sink writes
them itself. -/
def propagates (sink : Sink) : Bool := sink.least.isNone

/-- Is this the suffix of the sink's own logger, or of one below it? -/
def covers (suffix : String) : Bool :=
  match suffix.toList with
  | [] => true
  | c :: _ => c = '.'

/-- Can the year be written? It has to fit 32 bits, as does the number of years
since 1900. -/
def canWrite (date : Calendar.Date) : Bool := -2147481748 ≤ date.year && date.year ≤ 2147483647

/-- Does the sink take a line? It must be of a logger that the sink covers and of
a level that it keeps. -/
def takes (sink : Sink) (line : Line) : Bool :=
  covers line.suffix &&
    match sink.least, Level.ofLabel? line.label with
    | some least, some level => least.keeps level
    | _, _ => false

/-- The text of a line: when, how grave, from whom, and what. The year has as many
digits as it needs. Times are counted as 64-bit numbers; the part of a second in the
first of them is passed over, and so is the part of a millisecond. A line whose time
or year is too large to be written has no text. -/
def text? (line : Line) : Option String := do
  let created ← line.created.nearest
  let milliseconds ← line.milliseconds.nearest
  let moment := Calendar.Moment.ofSeconds created.floor
  if canWrite moment.date then
    some <| moment.date.text 1 ++ " " ++ moment.clock ++ "," ++
      Calendar.paddedInt 3 milliseconds.truncate ++ "Z " ++ line.label ++ ": " ++
      loggerName ++ line.suffix ++ ": " ++ line.message ++ "\n"
  else none

/-- What the sink writes for a line. -/
def write (sink : Sink) (line : Line) : String :=
  if sink.takes line then (text? line).getD "" else ""

/-- However often a sink is configured, one handler writes to it. -/
@[simp] theorem handlers_configure (sink : Sink) (debugging : Bool) :
    (sink.configure debugging).handlers = 1 := rfl

end Sink

end ZoneArbiter.Log
