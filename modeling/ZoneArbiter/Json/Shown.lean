import ZoneArbiter.Decimal.Shortest
import ZoneArbiter.Json.Value
import ZoneArbiter.Text.Shown

/-!
# ZoneArbiter.Json.Shown — JSON values as they are shown

A value that came in where it does not belong is shown in the way of the
library's own values: text in quotes, numbers with a point by the fewest digits that
read back, items in brackets, fields in braces, each name once with its last value.
-/

namespace ZoneArbiter.Json

open ZoneArbiter.Text

/-- The entries with one for a name, in the place of the entry that the name has if
it has one. -/
def putEntry (name value : String) : List (String × String) → List (String × String)
  | [] => [(name, value)]
  | (n, v) :: rest => if n = name then (name, value) :: rest else (n, v) :: putEntry name value rest

/-- A number word as it is shown. -/
def shownWord : NumberWord → String
  | .nan => "nan"
  | .infinity => "inf"
  | .negativeInfinity => "-inf"

mutual

/-- The value as it is shown. -/
def shown : Json → String
  | .null => absent
  | .bool b => shownBool b
  | .int n => shownInt n
  | .decimal d => d.shownNearest
  | .word w => shownWord w
  | .text s => quoted s
  | .array items => shownList (shownItems items)
  | .object fields => shownTable (shownEntries [] fields)

/-- Items as they are shown. -/
def shownItems : List Json → List String
  | [] => []
  | item :: rest => shown item :: shownItems rest

/-- Fields as they are shown, after those that came before. -/
def shownEntries (sofar : List (String × String)) :
    List (String × Json) → List (String × String)
  | [] => sofar
  | (name, value) :: rest => shownEntries (putEntry (quoted name) (shown value) sofar) rest

end

/-- The fields of an object with their values as they are shown, each name once with
its last value. -/
def shownEach (fields : List (String × Json)) : List (String × String) :=
  fields.foldl (fun sofar entry => putEntry entry.1 entry.2.shown sofar) []

end ZoneArbiter.Json
