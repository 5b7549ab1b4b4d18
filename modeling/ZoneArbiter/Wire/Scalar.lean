import ZoneArbiter.Json.Value
import ZoneArbiter.Numeral
import ZoneArbiter.Text.Blank
import ZoneArbiter.Wire.Issue

/-!
# ZoneArbiter.Wire.Scalar — reading single values leniently

Whoever sends a message may have spelled a value in a neighbouring type, so the
readers accept what plainly stands for the value: a truth value or a whole number
with a point for an integer, a string that spells an integer or a truth value.
Strings, arrays and members of a closed family are taken only as themselves.
-/

namespace ZoneArbiter.Wire

open ZoneArbiter.Text

variable [Numeral.Measure]

/-! ### Integers -/

/-- Digits with at most one underscore between two of them, without the
underscores. -/
def plainDigits? : List Char → Option (List Char)
  | [] => none
  | [d] => if d.isDigit then some [d] else none
  | d :: '_' :: rest => if d.isDigit then (plainDigits? rest).map (d :: ·) else none
  | d :: rest => if d.isDigit then (plainDigits? rest).map (d :: ·) else none

/-- The sign of a number, which may be left out, and the text after it. -/
def splitSign : List Char → Bool × List Char
  | '-' :: rest => (true, rest)
  | '+' :: rest => (false, rest)
  | cs => (false, cs)

/-- The text without the zeros in front, and without underscores among those zeros.
Where no digit follows them, the last of them stays. -/
def dropLeadingZeros? (cs : List Char) : Option (List Char) :=
  let isPadding (c : Char) : Bool := c = '0' || c = '_'
  let padding := cs.takeWhile isPadding
  let lastPadding := padding.drop (padding.length - 1)
  match cs with
  | '0' :: _ =>
      match cs.dropWhile isPadding with
      | [] => some lastPadding
      | '.' :: rest => some (lastPadding ++ '.' :: rest)
      | c :: rest => if c.isDigit || c = '-' then some (c :: rest) else none
  | c :: _ => if c.isDigit then some cs else none
  | [] => none

/-- The text before a point that is followed by zeros only, at least one of them;
a text without a point is left as it is. -/
def dropZeroFraction? (cs : List Char) : Option (List Char) :=
  match cs.dropWhile (· ≠ '.') with
  | [] => some cs
  | _ :: [] => none
  | _ :: zeros => if zeros.all (· = '0') then some (cs.takeWhile (· ≠ '.')) else none

/-- The integer of a sign and digits that start with a zero only if it is all there
is. -/
def signedNumeral? (negative : Bool) (cs : List Char) : Option Int := do
  let digits ← plainDigits? cs
  let size : Int := Nat.ofDigitChars 10 digits 0
  if digits.head? = some '0' ∧ 1 < digits.length then none
  else if Numeral.isTooLong negative digits.length then none
  else some (if negative then -size else size)

/-- The integer that a text spells, blanks around it aside. Zeros in front are taken
off before the digits are looked at; what they leave may bring a minus sign, and an
underscore after it, if the text has no minus sign of its own. -/
def integerOfText? (s : String) : Option Int := do
  let (negative, unsigned) := splitSign (trim s.toList)
  let whole ← dropZeroFraction? (← dropLeadingZeros? unsigned)
  match whole, negative with
  | '-' :: '_' :: rest, false | '-' :: rest, false => signedNumeral? true rest
  | _, _ => signedNumeral? negative whole

/-- Does the text begin with a numeral that is too long? Zeros in front begin none. -/
def startsTooLong (s : String) : Bool :=
  let (negative, unsigned) := match s.toList with
    | '-' :: rest => (true, rest)
    | cs => (false, cs)
  unsigned.head? ≠ some '0' &&
    Numeral.isTooLong negative (unsigned.takeWhile Char.isDigit).length

/-- A number with a point as an integer. It has to lie strictly inside the range of
64 bits: at the ends the nearest 64-bit floating-point number may be another. -/
def integerOfDecimal (d : Decimal) : Checked Int :=
  match d.nearest with
  | none => .refuse .notFinite
  | some near =>
      if !near.isWhole then .refuse .fractional
      else if -Numeral.halfRange < near.truncate ∧ near.truncate < Numeral.halfRange then
        .accepted near.truncate
      else .refuse .outOfRange

/-- An integer. -/
def integer : Json → Checked Int
  | .int n => .accepted n
  | .bool b => .accepted (if b then 1 else 0)
  | .decimal d => integerOfDecimal d
  | .word _ => .refuse .notFinite
  | .text s =>
      if startsTooLong s then .refuse .outOfRange
      else match integerOfText? s with
        | some n => .accepted n
        | none => .refuse .notInteger
  | .null | .array _ | .object _ => .refuse .integerType

/-! ### Truth values -/

/-- The spellings of a false value, in lower case. -/
def falseWords : List String := ["0", "off", "f", "false", "n", "no"]

/-- The spellings of a true value, in lower case. -/
def trueWords : List String := ["1", "on", "t", "true", "y", "yes"]

/-- The truth value that a text spells in either case. -/
def truthOfText? (s : String) : Option Bool :=
  let word := String.ofList (s.toList.map Char.toLower)
  if word ∈ falseWords then some false
  else if word ∈ trueWords then some true
  else none

/-- An integer as a truth value, if it is one of the two that are. -/
def truthOfInteger (n : Int) : Checked Bool :=
  if n = 0 then .accepted false
  else if n = 1 then .accepted true
  else .refuse .notTruth

/-- A number with a point as a truth value. It has to be an integer of 64 bits
before it is asked which one. -/
def truthOfDecimal (d : Decimal) : Checked Bool :=
  match integerOfDecimal d with
  | .accepted n => truthOfInteger n
  | .rejected _ => .refuse .truthType

/-- A truth value. -/
def truth : Json → Checked Bool
  | .bool b => .accepted b
  | .int n => if Numeral.fits64 n then truthOfInteger n else .refuse .truthType
  | .decimal d => truthOfDecimal d
  | .text s =>
      match truthOfText? s with
      | some b => .accepted b
      | none => .refuse .notTruth
  | .null | .word _ | .array _ | .object _ => .refuse .truthType

/-! ### Values that stand for themselves -/

/-- A string. -/
def text : Json → Checked String
  | .text s => .accepted s
  | _ => .refuse .textType

/-- A member of a closed family, by the value that stands for it. -/
def member {α : Type} (ofValue? : String → Option α) (values : List String) :
    Json → Checked α
  | .text s =>
      match ofValue? s with
      | some a => .accepted a
      | none => .refuse (.notMember values)
  | _ => .refuse (.notMember values)

/-- A value that may be `null`. -/
def optional {α : Type} (read : Json → Checked α) : Json → Checked (Option α)
  | .null => .accepted none
  | j => some <$> read j

/-- Every item in order, from the item of number `index` on. -/
def items {α : Type} (read : Json → Checked α) : Nat → List Json → Checked (List α)
  | _, [] => .accepted []
  | index, j :: rest =>
      List.cons <$> (read j).under (.item index) <*> items read (index + 1) rest

/-- An array. -/
def list {α : Type} (read : Json → Checked α) : Json → Checked (List α)
  | .array js => items read 0 js
  | _ => .refuse .arrayType

/-! ### Fields -/

/-- A field that has to be there. -/
def required {α : Type} (read : Json → Checked α) (fields : List (String × Json))
    (name : String) : Checked α :=
  match Json.lookup name fields with
  | some j => (read j).under (.field name)
  | none => .rejected [⟨.missing, [.field name]⟩]

/-- A field with a value for when it is not there. -/
def defaulted {α : Type} (read : Json → Checked α) (fallback : α)
    (fields : List (String × Json)) (name : String) : Checked α :=
  match Json.lookup name fields with
  | some j => (read j).under (.field name)
  | none => .accepted fallback

end ZoneArbiter.Wire
