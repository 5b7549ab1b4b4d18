/-!
# ZoneArbiter.Calendar — instants as dates and times of day

Instants are counted from the start of 1970 in UTC, and shown in UTC as well: a
log of zone changes that used the zone would be hard to read. Days become dates
by the proleptic Gregorian calendar; its cycle is 400 years or 146097 days, and a
year is taken to start in March, so that a leap day ends it.
-/

namespace ZoneArbiter.Calendar

/-- A day of the calendar. -/
structure Date where
  /-- The year. -/
  year : Int
  /-- The month, from one. -/
  month : Nat
  /-- The day of the month, from one. -/
  day : Nat
deriving Repr, DecidableEq

/-- A day of the calendar and a second of it. -/
structure Moment where
  /-- The day. -/
  date : Date
  /-- The seconds since the day began. -/
  second : Nat
deriving Repr, DecidableEq

/-- The days in a cycle of the calendar. -/
def cycleDays : Int := 146097

/-- The days from the first of March of year zero to the start of 1970. -/
def epochDays : Int := 719468

/-- The date of the day that is so many days after the start of 1970. -/
def Date.ofDays (days : Int) : Date :=
  -- Count from the first of March of a year that starts a cycle.
  let shifted := days + epochDays
  let cycle := shifted / cycleDays
  let dayOfCycle := (shifted % cycleDays).toNat
  -- Leave out the leap days before the day; what is left are years of 365 days.
  let yearOfCycle :=
    (dayOfCycle - dayOfCycle / 1460 + dayOfCycle / 36524 - dayOfCycle / 146096) / 365
  let dayOfYear := dayOfCycle - (365 * yearOfCycle + yearOfCycle / 4 - yearOfCycle / 100)
  let monthFromMarch := (5 * dayOfYear + 2) / 153
  let month := if monthFromMarch < 10 then monthFromMarch + 3 else monthFromMarch - 9
  { year := yearOfCycle + cycle * 400 + (if month ≤ 2 then 1 else 0)
    month
    day := dayOfYear - (153 * monthFromMarch + 2) / 5 + 1 }

/-- The moment so many seconds after the start of 1970. -/
def Moment.ofSeconds (seconds : Int) : Moment :=
  ⟨Date.ofDays (seconds / 86400), (seconds % 86400).toNat⟩

/-! ### Instants without a date -/

/-- Why an instant has no date. -/
inductive DateDefect
  /-- It is before the year 1 or after the year 9999. -/
  | noSuchYear
  /-- It is too many days away. -/
  | farAway (days : Int)
  /-- The number of days does not fit a signed word of 32 bits. -/
  | beyondWord
deriving Repr, DecidableEq

/-- What a defect says. -/
def DateDefect.message : DateDefect → String
  | .noSuchYear => "date value out of range"
  | .farAway days => "days=" ++ toString days ++ "; must have magnitude <= 999999999"
  | .beyondWord => "Python int too large to convert to C int"

/-- The first microsecond of the year 1, from the start of 1970. -/
def firstInstant : Int := -62135596800000000

/-- The last microsecond of the year 9999, from the start of 1970. -/
def lastInstant : Int := 253402300799999999

/-- The defect of an instant, given in microseconds, if it has no date. -/
def dateDefect? (microseconds : Int) : Option DateDefect :=
  let days := microseconds / 86400000000
  if days < -0x80000000 ∨ 0x7fffffff < days then some .beyondWord
  else if 999999999 < days.natAbs then some (.farAway days)
  else if microseconds < firstInstant ∨ lastInstant < microseconds then some .noSuchYear
  else none

/-! ### Dates as text -/

/-- A number with zeros in front, up to a width. -/
def padded (width n : Nat) : String :=
  let digits := toString n
  String.ofList (List.replicate (width - digits.length) '0') ++ digits

/-- An integer with zeros in front, up to a width that counts its sign. -/
def paddedInt (width : Nat) (n : Int) : String :=
  if n < 0 then "-" ++ padded (width - 1) n.natAbs else padded width n.natAbs

/-- The year, month and day with hyphens between them, the year with a least width. -/
def Date.text (yearWidth : Nat) (date : Date) : String :=
  paddedInt yearWidth date.year ++ "-" ++ padded 2 date.month ++ "-" ++ padded 2 date.day

/-- The hour, minute and second with colons between them. -/
def Moment.clock (moment : Moment) : String :=
  padded 2 (moment.second / 3600) ++ ":" ++ padded 2 (moment.second / 60 % 60) ++ ":" ++
    padded 2 (moment.second % 60)

/-- An instant, given in microseconds, with its offset from UTC. Microseconds
that do not fill a second are shown only where there are some. -/
def timestamp (microseconds : Int) : String :=
  let moment := Moment.ofSeconds (microseconds / 1000000)
  let fraction := (microseconds % 1000000).toNat
  moment.date.text 4 ++ "T" ++ moment.clock ++
    (if fraction = 0 then "" else "." ++ padded 6 fraction) ++ "+00:00"

/-- The instants with a date run from the year 1 to the year 9999. -/
example : (Date.ofDays (firstInstant / 86400000000)).year = 1 ∧
    (Date.ofDays (lastInstant / 86400000000)).year = 9999 := by decide +kernel

example : timestamp 0 = "1970-01-01T00:00:00+00:00" := by decide +kernel

example : timestamp (-1) = "1969-12-31T23:59:59.999999+00:00" := by decide +kernel

end ZoneArbiter.Calendar
