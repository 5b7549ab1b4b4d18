import ZoneArbiter.Text.Quoted

/-!
# ZoneArbiter.Text.Shown — how values are shown

The text of a value in a log line or on a status page: numbers in decimal, text in
quotes, sequences in brackets, the member of a closed family between angle
brackets with its value, and a record as its name followed by its fields.

A value that is *printed* rather than shown stands raw: a text is printed as it
is, without quotes.
-/

namespace ZoneArbiter.Text

/-- What is shown for a value that is not there. -/
def absent : String := "None"

/-- A truth value. -/
def shownBool (b : Bool) : String := if b then "True" else "False"

/-- An integer, in decimal. -/
def shownInt (n : Int) : String := toString n

/-- A value that may be missing. -/
def shownOption {α : Type} (shown : α → String) : Option α → String
  | none => absent
  | some a => shown a

/-- Texts with a comma and a space between them. -/
def commaSeparated (items : List String) : String := ", ".intercalate items

/-- A fixed sequence of shown values. One value is followed by a comma, which
tells the sequence from the value in parentheses. -/
def shownTuple : List String → String
  | [item] => "(" ++ item ++ ",)"
  | items => "(" ++ commaSeparated items ++ ")"

/-- A list of shown values. -/
def shownList (items : List String) : String := "[" ++ commaSeparated items ++ "]"

/-- A table of shown values under their shown keys. -/
def shownTable (entries : List (String × String)) : String :=
  "\x7b" ++ commaSeparated (entries.map fun entry => entry.1 ++ ": " ++ entry.2) ++ "\x7d"

/-- A member of a closed family: its name and the value that stands for it. -/
def shownMember (family member value : String) : String :=
  "<" ++ family ++ "." ++ member ++ ": " ++ value ++ ">"

/-- A record: its name, then every field with its shown value. -/
def shownRecord (name : String) (fields : List (String × String)) : String :=
  name ++ "(" ++ commaSeparated (fields.map fun field => field.1 ++ "=" ++ field.2) ++ ")"

/-- A text that may be missing, printed as it is. -/
def printedText (s : Option String) : String := s.getD absent

end ZoneArbiter.Text
