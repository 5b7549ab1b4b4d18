import ZoneArbiter.Decimal

/-!
# ZoneArbiter.Decimal.Shortest — the fewest digits that read back

A 64-bit number is shown as a decimal with as few digits as its value allows: the
decimal must **read back** (`Dyadic.readsBack`), that is, its nearest 64-bit number
must be the one shown. `Dyadic.shortest?` tries one digit, then two, and so on. For
a number of digits only the two neighbours of the value on the grid of such decimals
can be the answer, and the nearer one is tried first.
-/

namespace ZoneArbiter

namespace Dyadic

/-- The mantissa at which the 64-bit format counts with the next power of two. -/
def mantissaBound : Nat := 0x20000000000000

/-- The number with its mantissa below the bound, if rounding has led up to it. -/
def settled (d : Dyadic) : Dyadic :=
  if d.mantissa = mantissaBound then
    { d with mantissa := mantissaBound / 2, exponent := d.exponent + 1 }
  else d

/-- Is the number the 64-bit number nearest to a decimal? -/
def readsBack (d : Dyadic) (c : Decimal) : Bool := c.nearest.any (·.settled = d.settled)

/-- The absolute value divided by a power of ten, as a quotient. -/
def onGrid (d : Dyadic) (power : Int) : Nat × Nat :=
  (d.mantissa * Nat.pow 2 d.exponent.toNat * Nat.pow 10 (-power).toNat,
   Nat.pow 2 (-d.exponent).toNat * Nat.pow 10 power.toNat)

/-- The two neighbours of a quotient among the integers, the nearer one first and
the even one first if both are equally near. -/
def neighbours (quotient : Nat × Nat) : List Nat :=
  let q := quotient.1 / quotient.2
  let twice := 2 * (quotient.1 % quotient.2)
  if twice < quotient.2 ∨ (twice = quotient.2 ∧ q % 2 = 0) then [q, q + 1] else [q + 1, q]

/-- The number of digits before the point. It is negative by the number of zeros
that follow the point. -/
def pointPosition (d : Dyadic) : Int :=
  let (num, den) := d.onGrid 0
  if den ≤ num then Decimal.digitCount (num / den)
  else
    let zeros := (List.range 330).findIdx fun shift => den ≤ num * Nat.pow 10 (shift + 1)
    Int.negOfNat zeros

/-- The decimal that reads back among those whose last digit counts a power of
ten. -/
def onGrid? (d : Dyadic) (power : Int) : Option Decimal :=
  ((neighbours (d.onGrid power)).map fun digits => ⟨d.negative, digits, power⟩).find? d.readsBack

/-- The decimal with the fewest digits that reads back. Seventeen digits are always
enough. -/
def shortest? (d : Dyadic) : Option Decimal :=
  (List.range 17).findSome? fun fewer => d.onGrid? (d.pointPosition - (fewer + 1 : Nat))

end Dyadic

namespace Decimal

/-- The digits without the zeros at their end. -/
def significant (d : Decimal) : List Char :=
  ((Nat.toDigits 10 d.digits).reverse.dropWhile (· = '0')).reverse

/-- The power of ten that a number shown with an exponent is multiplied by: a sign
and at least two digits. -/
def exponentText (power : Int) : String :=
  let digits := toString power.natAbs
  (if power < 0 then "-" else "+") ++ (if digits.length < 2 then "0" else "") ++ digits

/-- Digits with their point after the given number of them. Within 16 digits before
the point and three zeros behind it the point is written where it belongs; beyond,
an exponent says where. -/
def laidOut (ds : List Char) (point : Int) : String :=
  let zeros (n : Int) : List Char := List.replicate n.toNat '0'
  if point ≤ -4 ∨ 16 < point then
    let fraction := match ds.drop 1 with
      | [] => []
      | rest => '.' :: rest
    String.ofList (ds.take 1 ++ fraction) ++ "e" ++ exponentText (point - 1)
  else if point ≤ 0 then String.ofList ('0' :: '.' :: zeros (-point) ++ ds)
  else
    let whole := ds.take point.toNat ++ zeros (point - ds.length)
    match ds.drop point.toNat with
    | [] => String.ofList (whole ++ ['.', '0'])
    | fraction => String.ofList (whole ++ '.' :: fraction)

/-- The decimal with its sign and its point. -/
def shown (d : Decimal) : String :=
  let digitsAndPoint :=
    if d.digits = 0 then "0.0"
    else laidOut d.significant (digitCount d.digits + d.exponent)
  (if d.negative then "-" else "") ++ digitsAndPoint

/-- The 64-bit number nearest to a decimal, with the fewest digits that read back. -/
def shownNearest (d : Decimal) : String :=
  match d.nearest with
  | none => if d.negative then "-inf" else "inf"
  | some near =>
      if near.mantissa = 0 then shown ⟨near.negative, 0, 0⟩
      else ((near.shortest?).getD d).shown

example : shownNearest ⟨false, 1, -1⟩ = "0.1" := by decide +kernel

example : shownNearest ⟨true, 123456789012345678, 0⟩ = "-1.2345678901234568e+17" := by
  decide +kernel

end Decimal

end ZoneArbiter
