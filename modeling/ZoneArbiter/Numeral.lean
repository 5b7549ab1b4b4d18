/-!
# ZoneArbiter.Numeral — limits on numbers

Integers have any size in this library. Two limits come in from outside: a numeral
in a message has a greatest length, with or without its minus sign (`Measure`), and
some numbers have to fit a signed word of 64 bits.
-/

namespace ZoneArbiter.Numeral

/-- The greatest length of a numeral. -/
def longest : Nat := 4300

/-- What counts against the greatest length of a numeral. Readers differ on the minus sign. -/
class inductive Measure
  /-- The digits alone. -/
  | digits
  /-- The digits, and a minus sign before them. -/
  | signToo

/-- Where nothing else is said, the digits alone count. -/
instance : Measure := .digits

/-- What a sign takes of the greatest length. -/
def signLength [measure : Measure] (negative : Bool) : Nat :=
  match measure, negative with
  | .signToo, true => 1
  | _, _ => 0

theorem signLength_false [measure : Measure] : signLength false = 0 := by
  cases measure <;> rfl

/-- A sign takes one character at most. -/
theorem signLength_le [measure : Measure] (negative : Bool) : signLength negative ≤ 1 := by
  cases measure <;> cases negative <;> decide

/-- Is a numeral with so many digits too long? -/
def isTooLong [Measure] (negative : Bool) (digits : Nat) : Bool :=
  longest < signLength negative + digits

/-- Half of the number of integers that 64 bits tell apart: two to the 63rd. -/
def halfRange : Int := 0x8000000000000000

/-- Does the integer fit a signed word of 64 bits? -/
def fits64 (n : Int) : Bool := -halfRange ≤ n && n < halfRange

/-- The word reaches one further down than up. -/
example : fits64 (-halfRange) = true ∧ fits64 halfRange = false := by decide

end ZoneArbiter.Numeral
