/-!
# ZoneArbiter.Decimal — numbers written with a point or an exponent

A decimal is a sign, a string of digits read as one number, and a power of ten.
Where such a number has to serve as an integer or as a truth value, it first
becomes the nearest binary floating-point number of 64 bits: `Decimal.nearest`
rounds to 53 significant bits, half-way cases to the even neighbour, and says
when the number is too large for the format. The arithmetic is exact, in `Nat`.
-/

namespace ZoneArbiter

/-- The number `digits · 10 ^ exponent`, negated if `negative`. -/
structure Decimal where
  /-- Is there a minus sign? -/
  negative : Bool
  /-- The digits, read as one number. -/
  digits : Nat
  /-- The power of ten that they count. -/
  exponent : Int
deriving Repr, DecidableEq

/-- A number of the form `mantissa · 2 ^ exponent`, negated if `negative`. -/
structure Dyadic where
  /-- Is the number below zero, or a negative zero? -/
  negative : Bool
  /-- The factor of the power of two. -/
  mantissa : Nat
  /-- The power of two. -/
  exponent : Int
deriving Repr, DecidableEq

namespace Dyadic

/-- Is the number an integer? -/
def isWhole (d : Dyadic) : Bool :=
  0 ≤ d.exponent || d.mantissa % Nat.pow 2 (-d.exponent).toNat == 0

/-- The absolute value with its fraction dropped. -/
def magnitude (d : Dyadic) : Nat :=
  if 0 ≤ d.exponent then d.mantissa * Nat.pow 2 d.exponent.toNat
  else d.mantissa / Nat.pow 2 (-d.exponent).toNat

/-- The number with its fraction dropped. -/
def truncate (d : Dyadic) : Int := if d.negative then -d.magnitude else d.magnitude

/-- The greatest integer that is not above the number. -/
def floor (d : Dyadic) : Int :=
  if d.negative && !d.isWhole then d.truncate - 1 else d.truncate

end Dyadic

namespace Decimal

/-- An integer as a decimal. -/
def ofInt (n : Int) : Decimal := ⟨n < 0, n.natAbs, 0⟩

/-- The quotient rounded to the nearest integer, half-way cases to the even one. -/
def roundDiv (num den : Nat) : Nat :=
  let q := num / den
  let twice := 2 * (num % den)
  if twice < den then q
  else if den < twice then q + 1
  else if q % 2 = 0 then q
  else q + 1

/-- The quotient of `num · 2 ^ (-shift)` and `den`, rounded. -/
def roundScaled (num den : Nat) (shift : Int) : Nat :=
  if 0 ≤ shift then roundDiv num (den * Nat.pow 2 shift.toNat)
  else roundDiv (num * Nat.pow 2 (-shift).toNat) den

/-- The lowest power of two that the 64-bit format can count. -/
def lowestExponent : Int := -1074

/-- The power of two that counts the last significant bit of `num / den`, both
being positive. -/
def lastBit (num den : Nat) : Int :=
  let estimate : Int := (num.log2 : Int) - (den.log2 : Int)
  let reached : Bool :=
    if 0 ≤ estimate then den * Nat.pow 2 estimate.toNat ≤ num
    else den ≤ num * Nat.pow 2 (-estimate).toNat
  max (if reached then estimate - 52 else estimate - 53) lowestExponent

/-- The 64-bit number nearest to a positive quotient, or nothing if the quotient
is beyond the largest one. -/
def nearestQuotient (negative : Bool) (num den : Nat) : Option Dyadic :=
  let exponent := lastBit num den
  let mantissa := roundScaled num den exponent
  let rounded : Dyadic := ⟨negative, mantissa, exponent⟩
  if Nat.pow 2 1024 ≤ rounded.magnitude then none else some rounded

/-- The number of decimal digits, zero for zero. -/
def digitCount (n : Nat) : Nat := if n = 0 then 0 else (Nat.toDigits 10 n).length

/-- The 64-bit number nearest to a decimal, or nothing if the decimal is beyond
the largest one. A magnitude far outside the range of the format is settled by
its number of digits alone. -/
def nearest (d : Decimal) : Option Dyadic :=
  let size : Int := (digitCount d.digits : Int) + d.exponent
  if d.digits = 0 then some ⟨d.negative, 0, 0⟩
  -- Beyond these bounds the powers of ten would be large, and the answer is plain.
  else if 310 < size then none
  else if size < -330 then some ⟨d.negative, 0, 0⟩
  else if 0 ≤ d.exponent then
    nearestQuotient d.negative (d.digits * Nat.pow 10 d.exponent.toNat) 1
  else
    nearestQuotient d.negative d.digits (Nat.pow 10 (-d.exponent).toNat)

end Decimal

end ZoneArbiter
