import ZoneArbiter.Json.Value
import ZoneArbiter.Numeral
import ZoneArbiter.Text.Hex

/-!
# ZoneArbiter.Json.Reader — reading JSON text

The grammar is the standard one with the number words `NaN`, `Infinity` and
`-Infinity` added, and with a bound on the length of a number before its point.
Blanks are the space, the tab, the line feed and the carriage return. A text that is
not of the grammar is refused without a reason: no caller tells one defect from
another.

Arrays and objects may stand inside each other `levels` deep. That bound is also
what the recursion descends on, so reading is a plain structural recursion; the
loops over items, fields and characters descend on `fuel`, for which the length
of the text is always enough, as each round takes a character.
-/

namespace ZoneArbiter.Json

variable [Numeral.Measure]

/-- Is the character a blank of the grammar? -/
def isBlank (c : Char) : Bool := c = ' ' || c = '\t' || c = '\n' || c = '\r'

/-- What is left after the blanks at the start. -/
def skipBlanks (cs : List Char) : List Char := cs.dropWhile isBlank

/-- What is left after a word, if the text starts with it. -/
def dropWord? (word cs : List Char) : Option (List Char) :=
  if word.isPrefixOf cs then some (cs.drop word.length) else none

/-! ### Strings -/

/-- Four hexadecimal digits. -/
def scanUnit : List Char → Option (Nat × List Char)
  | a :: b :: c :: d :: rest => do
      let a ← Text.hexValue? a
      let b ← Text.hexValue? b
      let c ← Text.hexValue? c
      let d ← Text.hexValue? d
      some (((a * 16 + b) * 16 + c) * 16 + d, rest)
  | _ => none

/-- Is the unit the first half of a character beyond the basic plane? -/
def isLeadUnit (unit : Nat) : Bool := 0xd800 ≤ unit && unit < 0xdc00

/-- Is the unit the second half of a character beyond the basic plane? -/
def isTrailUnit (unit : Nat) : Bool := 0xdc00 ≤ unit && unit < 0xe000

/-- What stands after `\u`: one unit, or the two halves of a character beyond
the basic plane. -/
def scanCode (cs : List Char) : Option (Char × List Char) := do
  let (unit, rest) ← scanUnit cs
  -- A second half without a first one is no character.
  if isTrailUnit unit then none
  else if isLeadUnit unit then
    match rest with
    | '\\' :: 'u' :: rest =>
        let (trail, rest) ← scanUnit rest
        if isTrailUnit trail then
          some (Char.ofNat (0x10000 + (unit - 0xd800) * 0x400 + (trail - 0xdc00)), rest)
        else none
    | _ => none
  else some (Char.ofNat unit, rest)

/-- The character that a one-letter escape stands for. -/
def shortEscape? (c : Char) : Option Char :=
  if c = '"' ∨ c = '\\' ∨ c = '/' then some c
  else if c = 'b' then some (Char.ofNat 8)
  else if c = 'f' then some (Char.ofNat 12)
  else if c = 'n' then some '\n'
  else if c = 'r' then some '\r'
  else if c = 't' then some '\t'
  else none

/-- What stands after a backslash. -/
def scanEscape : List Char → Option (Char × List Char)
  | [] => none
  | c :: rest => if c = 'u' then scanCode rest else (shortEscape? c).map (·, rest)

/-- The rest of a string, up to and with the closing quote. -/
def scanText : Nat → List Char → Option (List Char × List Char)
  | 0, _ | _, [] => none
  | fuel + 1, c :: rest =>
      if c = '"' then some ([], rest)
      else if c = '\\' then do
        let (d, rest) ← scanEscape rest
        let (ds, rest) ← scanText fuel rest
        some (d :: ds, rest)
      else if c.toNat < 0x20 then none
      else do
        let (ds, rest) ← scanText fuel rest
        some (c :: ds, rest)

/-! ### Numbers -/

/-- The number that decimal digits spell. -/
def digitsValue (ds : List Char) : Nat := Nat.ofDigitChars 10 ds 0

/-- At least one decimal digit, as many as there are. -/
def scanDigits (cs : List Char) : Option (List Char × List Char) :=
  match cs.takeWhile Char.isDigit with
  | [] => none
  | ds => some (ds, cs.dropWhile Char.isDigit)

/-- The digits before the point: a zero alone, or a number that starts with
another digit. -/
def scanLeading (cs : List Char) : Option (List Char × List Char) := do
  let (ds, rest) ← scanDigits cs
  if ds.head? = some '0' ∧ 1 < ds.length then none else some (ds, rest)

/-- The digits after the point, if there is a point. -/
def scanFraction : List Char → Option (List Char × List Char)
  | '.' :: rest => scanDigits rest
  | cs => some ([], cs)

/-- The sign of an exponent, which may be left out. -/
def scanSign : List Char → Bool × List Char
  | '-' :: rest => (true, rest)
  | '+' :: rest => (false, rest)
  | cs => (false, cs)

/-- The exponent, if there is one. -/
def scanExponent : List Char → Option (Option Int × List Char)
  | [] => some (none, [])
  | c :: cs =>
      if c = 'e' ∨ c = 'E' then do
        let (negative, rest) := scanSign cs
        let (ds, rest) ← scanDigits rest
        let size : Int := digitsValue ds
        some (some (if negative then -size else size), rest)
      else some (none, c :: cs)

/-- The digits before the point, unless they are too many after the sign. -/
def scanWhole (negative : Bool) (cs : List Char) : Option (List Char × List Char) := do
  let (leading, rest) ← scanLeading cs
  if Numeral.isTooLong negative leading.length then none else some (leading, rest)

/-- A number after its sign. -/
def scanUnsigned (negative : Bool) (cs : List Char) : Option (Json × List Char) := do
  let (leading, rest) ← scanWhole negative cs
  let (fraction, rest) ← scanFraction rest
  let (exponent, rest) ← scanExponent rest
  if fraction.isEmpty && exponent.isNone then
    let size : Int := digitsValue leading
    some (.int (if negative then -size else size), rest)
  else
    let digits := digitsValue (leading ++ fraction)
    some (.decimal ⟨negative, digits, exponent.getD 0 - fraction.length⟩, rest)

/-- A number or a number word. -/
def scanNumber (cs : List Char) : Option (Json × List Char) :=
  match dropWord? "NaN".toList cs with
  | some rest => some (.word .nan, rest)
  | none =>
    match dropWord? "Infinity".toList cs with
    | some rest => some (.word .infinity, rest)
    | none =>
      match dropWord? "-Infinity".toList cs with
      | some rest => some (.word .negativeInfinity, rest)
      | none =>
        match cs with
        | '-' :: rest => scanUnsigned true rest
        | _ => scanUnsigned false cs

/-! ### Values -/

/-- What is not a string, an array or an object. -/
def scanScalar (cs : List Char) : Option (Json × List Char) :=
  match dropWord? "null".toList cs with
  | some rest => some (.null, rest)
  | none =>
    match dropWord? "true".toList cs with
    | some rest => some (.bool true, rest)
    | none =>
      match dropWord? "false".toList cs with
      | some rest => some (.bool false, rest)
      | none => scanNumber cs

/-- The items of an array, up to and with its closing bracket. -/
def scanItems (item : List Char → Option (Json × List Char)) :
    Nat → List Char → Option (List Json × List Char)
  | 0, _ => none
  | fuel + 1, cs => do
      let (value, rest) ← item cs
      match skipBlanks rest with
      | c :: rest =>
          if c = ',' then do
            let (values, rest) ← scanItems item fuel rest
            some (value :: values, rest)
          else if c = ']' then some ([value], rest)
          else none
      | [] => none

/-- One field of an object. -/
def scanField (item : List Char → Option (Json × List Char)) (fuel : Nat) (cs : List Char) :
    Option ((String × Json) × List Char) :=
  match skipBlanks cs with
  | '"' :: rest => do
      let (name, rest) ← scanText fuel rest
      match skipBlanks rest with
      | ':' :: rest => do
          let (value, rest) ← item rest
          some ((String.ofList name, value), rest)
      | _ => none
  | _ => none

/-- The fields of an object, up to and with its closing brace. -/
def scanFields (item : List Char → Option (Json × List Char)) :
    Nat → List Char → Option (List (String × Json) × List Char)
  | 0, _ => none
  | fuel + 1, cs => do
      let (field, rest) ← scanField item fuel cs
      match skipBlanks rest with
      | c :: rest =>
          if c = ',' then do
            let (fields, rest) ← scanFields item fuel rest
            some (field :: fields, rest)
          else if c.toNat = 0x7d then some ([field], rest)
          else none
      | [] => none

/-- The rest of an array after its opening bracket. -/
def scanArray (item : List Char → Option (Json × List Char)) (fuel : Nat) (cs : List Char) :
    Option (Json × List Char) :=
  match skipBlanks cs with
  | ']' :: rest => some (.array [], rest)
  | rest => (scanItems item fuel rest).map fun found => (.array found.1, found.2)

/-- The rest of an object after its opening brace. -/
def scanObject (item : List Char → Option (Json × List Char)) (fuel : Nat) (cs : List Char) :
    Option (Json × List Char) :=
  match skipBlanks cs with
  | [] => none
  | c :: rest =>
      if c.toNat = 0x7d then some (.object [], rest)
      else (scanFields item fuel (c :: rest)).map fun found => (.object found.1, found.2)

/-- A value, with arrays and objects at most `levels` deep, those that hold nothing
not counted. -/
def scanValue (fuel : Nat) : Nat → List Char → Option (Json × List Char)
  | levels, cs =>
      match skipBlanks cs with
      | [] => none
      | c :: rest =>
          if c = '"' then
            (scanText fuel rest).map fun found => (.text (String.ofList found.1), found.2)
          else if c = '[' then
            match levels with
            | 0 => scanArray (fun _ => none) fuel rest
            | levels + 1 => scanArray (scanValue fuel levels) fuel rest
          else if c.toNat = 0x7b then
            match levels with
            | 0 => scanObject (fun _ => none) fuel rest
            | levels + 1 => scanObject (scanValue fuel levels) fuel rest
          else scanScalar (c :: rest)

/-- The value that a text holds, with nothing but blanks around it. -/
def parseChars (levels : Nat) (cs : List Char) : Option Json :=
  match scanValue (cs.length + 1) levels cs with
  | some (value, rest) => if skipBlanks rest = [] then some value else none
  | none => none

/-- How deep arrays and objects may stand inside each other. -/
def nestingLimit : Nat := 200

/-- The value that a text holds, up to the nesting limit. -/
def parse? (s : String) : Option Json := parseChars nestingLimit s.toList

end ZoneArbiter.Json
