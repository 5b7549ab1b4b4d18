import ZoneArbiter.Keyed
import ZoneArbiter.Status.Page
import ZoneArbiter.Telephony.Score

/-!
# ZoneArbiter.Telephony.Table — the latest suggestion of every slot

A slot's new suggestion replaces its old one, and the table is read in the order
of the slots. `Table.best?` is the suggestion with the highest score; among
equals the lowest slot wins, because the scan goes upwards and gives way only to
a strictly better score.

The table holds suggestions alone: a score is a function of the suggestion, so
`Table.get?` and `Table.best?` work it out when they are asked.
-/

namespace ZoneArbiter.Telephony

open ZoneArbiter.Text

/-- The latest suggestion of every slot that made one. -/
structure Table where
  /-- The suggestions, under their slots. -/
  bySlot : Keyed TelephonySuggestion := Keyed.empty
deriving Repr, DecidableEq

/-- Of two suggestions the better one; the first of two equally good ones. -/
def Qualified.better (a b : Qualified) : Qualified :=
  if a.score.rank < b.score.rank then b else a

/-- The first of the best suggestions of a list, found in one pass from the best
of those before it. -/
def bestFrom? (sofar : Option Qualified) (candidates : List Qualified) : Option Qualified :=
  candidates.foldl (fun best? candidate =>
    match best? with
    | none => some candidate
    | some best => some (best.better candidate)) sofar

namespace Table

/-- The table before any suggestion. -/
def empty : Table := {}

/-- The table after a suggestion. -/
def record (t : Table) (s : TelephonySuggestion) : Table := ⟨t.bySlot.insert s.slot s⟩

/-- The latest suggestion of a slot with its score. -/
def get? (t : Table) (slot : Int) : Option Qualified := (t.bySlot.get? slot).map qualify

/-- All suggestions with their scores, by ascending slot. -/
def toList (t : Table) : List Qualified := t.bySlot.values.map qualify

/-- The suggestion to follow, if any was made. -/
def best? (t : Table) : Option Qualified := bestFrom? none t.toList

/-- One line of the status page: a slot and what it proposes. -/
def statusLine (entry : Int × TelephonySuggestion) : String :=
  "slot_index=" ++ shownInt entry.1 ++ " score=" ++ (score entry.2).printed ++
    " suggestion=" ++ entry.2.shown ++
    " debug_info=" ++ shownList (entry.2.debug.map quoted)

/-- The table as a section of a status page. -/
def writeStatus (t : Table) (page : Status.Page) : Status.Page :=
  let body := (page.line "Telephony suggestions:").indent
  let body := if t.bySlot.entries.isEmpty then body.line "(none)" else body
  (body.lines (t.bySlot.entries.map statusLine)).dedent

end Table

end ZoneArbiter.Telephony
