import ZoneArbiter.Decimal

/-!
# ZoneArbiter.Json.Value — JSON values

A value keeps what its text said and a reader may care about: an integer of any
size, a number with a point or an exponent as a `Decimal`, and the three number
words for values that are not finite, are told apart. The fields of an object
stay in the order of the text, repeated names included; look-up takes the last
field of a name.
-/

namespace ZoneArbiter

/-- The number words. -/
inductive NumberWord
  /-- Not a number. -/
  | nan
  /-- Above all numbers. -/
  | infinity
  /-- Below all numbers. -/
  | negativeInfinity
deriving Repr, DecidableEq

/-- The spelling of a number word. -/
def NumberWord.spelling : NumberWord → String
  | .nan => "NaN"
  | .infinity => "Infinity"
  | .negativeInfinity => "-Infinity"

/-- A JSON value. -/
inductive Json
  /-- The value `null`. -/
  | null
  /-- A truth value. -/
  | bool (b : Bool)
  /-- A number without point and exponent. -/
  | int (n : Int)
  /-- A number with a point or an exponent. -/
  | decimal (d : Decimal)
  /-- A number word. -/
  | word (w : NumberWord)
  /-- A string. -/
  | text (s : String)
  /-- An array. -/
  | array (items : List Json)
  /-- An object. -/
  | object (fields : List (String × Json))
deriving Repr

namespace Json

/-- The value of the last field of a name. -/
def lookup (name : String) (fields : List (String × Json)) : Option Json :=
  (fields.reverse.find? (·.1 = name)).map (·.2)

/-- The value of a field, if the value is an object that has it. -/
def field? (j : Json) (name : String) : Option Json :=
  match j with
  | .object fields => lookup name fields
  | _ => none

/-- A value or `null`. -/
def ofOption {α : Type} (encode : α → Json) : Option α → Json
  | none => .null
  | some a => encode a

/-- The name of the family that a value belongs to. -/
def family : Json → String
  | .null => "NoneType"
  | .bool _ => "bool"
  | .int _ => "int"
  | .decimal _ | .word _ => "float"
  | .text _ => "str"
  | .array _ => "list"
  | .object _ => "dict"

/-- Does the value switch something on? Zeros and what is empty do not. -/
def isOn : Json → Bool
  | .null => false
  | .bool b => b
  | .int n => n ≠ 0
  | .decimal d => d.nearest.all (·.mantissa ≠ 0)
  | .word _ => true
  | .text s => s ≠ ""
  | .array items => !items.isEmpty
  | .object fields => !fields.isEmpty

/-- The text of a value. -/
def text? : Json → Option String
  | .text s => some s
  | _ => none

/-- An array of strings. -/
def texts (items : List String) : Json := .array (items.map .text)

end Json

end ZoneArbiter
