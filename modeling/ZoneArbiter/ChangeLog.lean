import ZoneArbiter.Calendar
import ZoneArbiter.Cause
import ZoneArbiter.Numeral

/-!
# ZoneArbiter.ChangeLog — the last changes of the zone

A change log keeps a fixed number of entries, oldest first. A new entry pushes
the oldest one out once the log is full, so the log is always the tail of the
changes made. A log for no entries keeps none.
-/

namespace ZoneArbiter

open ZoneArbiter.Text

/-- One change of the device's zone. -/
structure ZoneChange where
  /-- The zone changed to. -/
  zone : String
  /-- The zone changed from, if there was one. -/
  previous : Option String
  /-- Why it was changed. -/
  cause : Cause
  /-- When it was changed, in microseconds since the start of 1970. -/
  changedAt : Int
deriving Repr, DecidableEq

/-- A change as a line of a status page. -/
def ZoneChange.statusLine (change : ZoneChange) : String :=
  Calendar.timestamp change.changedAt ++ " " ++ printedText change.previous ++ " -> " ++
    change.zone ++ ": " ++ change.cause.text

/-- The last items of a list, at most `n` of them. -/
def lastItems {α : Type} (n : Nat) (items : List α) : List α := items.drop (items.length - n)

theorem length_lastItems_le {α : Type} (n : Nat) (items : List α) :
    (lastItems n items).length ≤ n := by
  simp only [lastItems, List.length_drop]
  omega

/-- The last items of what follows the last items are the last items of all. -/
theorem lastItems_lastItems_append {α : Type} (n : Nat) (items more : List α) :
    lastItems n (lastItems n items ++ more) = lastItems n (items ++ more) := by
  have hdrop : items.drop (items.length - n) ++ more =
      (items ++ more).drop (items.length - n) := by
    rw [List.drop_append_of_le_length (by omega)]
  simp only [lastItems, hdrop, List.drop_drop, List.length_drop, List.length_append]
  congr 1
  omega

/-- The last changes of the device's zone. -/
structure ChangeLog where
  /-- How many entries are kept. -/
  capacity : Nat
  /-- The entries, oldest first. -/
  entries : List ZoneChange := []
  /-- No more entries are kept than there is room for. -/
  bounded : entries.length ≤ capacity := by simp
deriving Repr, DecidableEq

namespace ChangeLog

/-- Why an integer cannot be the size of a log. -/
inductive SizeDefect
  /-- It is negative. -/
  | negative
  /-- It does not fit 64 bits. -/
  | beyondWord
deriving Repr, DecidableEq

/-- An empty log of a size, if the integer can be one. -/
def ofSize (size : Int) : Except SizeDefect ChangeLog :=
  if !Numeral.fits64 size then .error .beyondWord
  else if size < 0 then .error .negative
  else .ok ⟨size.toNat, [], Nat.zero_le _⟩

/-- The log after a further change. -/
def record (log : ChangeLog) (change : ZoneChange) : ChangeLog where
  capacity := log.capacity
  entries := lastItems log.capacity (log.entries ++ [change])
  bounded := length_lastItems_le _ _

end ChangeLog

end ZoneArbiter
