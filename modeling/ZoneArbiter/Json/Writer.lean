import ZoneArbiter.Json.Value
import ZoneArbiter.Text.Hex

/-!
# ZoneArbiter.Json.Writer — the text of a JSON value

Two layouts are in use: `Layout.compact` for what is exchanged and
`Layout.spaced` for what is read in a log. They differ in the separators alone.

Strings are written with as few escapes as the format allows: the quote, the
backslash and the control characters below the space, five of which have a short
form. Everything else stands raw.
-/

namespace ZoneArbiter.Json

/-- The separators of a layout. -/
structure Layout where
  /-- Between two items or fields. -/
  comma : List Char
  /-- Between the name and the value of a field. -/
  colon : List Char
deriving Repr, DecidableEq

/-- No blanks at all. -/
def Layout.compact : Layout := ⟨[','], [':']⟩

/-- A blank after each separator. -/
def Layout.spaced : Layout := ⟨[',', ' '], [':', ' ']⟩

/-- A character as it stands in a string. -/
def writeChar (c : Char) : List Char :=
  if c = '"' then ['\\', '"']
  else if c = '\\' then ['\\', '\\']
  else if c = '\n' then ['\\', 'n']
  else if c = '\r' then ['\\', 'r']
  else if c = '\t' then ['\\', 't']
  else if c.toNat = 8 then ['\\', 'b']
  else if c.toNat = 12 then ['\\', 'f']
  else if c.toNat < 0x20 then
    ['\\', 'u', '0', '0', Text.hexDigit (c.toNat / 16), Text.hexDigit (c.toNat % 16)]
  else [c]

/-- A string in quotes. -/
def writeText (s : String) : List Char := '"' :: s.toList.flatMap writeChar ++ ['"']

/-- An integer in decimal. -/
def writeInt (n : Int) : List Char :=
  if n < 0 then '-' :: Nat.toDigits 10 n.natAbs else Nat.toDigits 10 n.natAbs

/-- A decimal as its digits and its power of ten. -/
def writeDecimal (d : Decimal) : List Char :=
  (if d.negative then ['-'] else []) ++ Nat.toDigits 10 d.digits ++ 'e' :: writeInt d.exponent

mutual

/-- The text of a value. -/
def write (layout : Layout) : Json → List Char
  | .null => "null".toList
  | .bool true => "true".toList
  | .bool false => "false".toList
  | .int n => writeInt n
  | .decimal d => writeDecimal d
  | .word w => w.spelling.toList
  | .text s => writeText s
  | .array [] => ['[', ']']
  | .array (item :: items) =>
      '[' :: write layout item ++ writeItems layout items ++ [']']
  | .object [] => [Char.ofNat 0x7b, Char.ofNat 0x7d]
  | .object ((name, value) :: fields) =>
      Char.ofNat 0x7b :: writeText name ++ layout.colon ++ write layout value ++
        writeFields layout fields ++ [Char.ofNat 0x7d]

/-- The further items of an array, each after its comma. -/
def writeItems (layout : Layout) : List Json → List Char
  | [] => []
  | item :: items => layout.comma ++ write layout item ++ writeItems layout items

/-- The further fields of an object, each after its comma. -/
def writeFields (layout : Layout) : List (String × Json) → List Char
  | [] => []
  | (name, value) :: fields =>
      layout.comma ++ writeText name ++ layout.colon ++ write layout value ++
        writeFields layout fields

end

/-- The text without blanks. -/
def compact (j : Json) : String := String.ofList (j.write .compact)

/-- The text with a blank after each separator. -/
def spaced (j : Json) : String := String.ofList (j.write .spaced)

mutual

/-- The value with the fields of all its objects in the order of their names. -/
def sorted : Json → Json
  | .array items => .array (sortedItems items)
  | .object fields => .object ((sortedFields fields).mergeSort (fun a b => a.1 ≤ b.1))
  | j => j

/-- The items, each with its fields in order. -/
def sortedItems : List Json → List Json
  | [] => []
  | item :: items => sorted item :: sortedItems items

/-- The fields as they stand, each value with its fields in order. -/
def sortedFields : List (String × Json) → List (String × Json)
  | [] => []
  | (name, value) :: fields => (name, sorted value) :: sortedFields fields

end

end ZoneArbiter.Json
