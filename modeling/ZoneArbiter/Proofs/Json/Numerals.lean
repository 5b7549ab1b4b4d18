import Mathlib.Algebra.Group.Nat.Defs
import ZoneArbiter.Json.Reader
import ZoneArbiter.Json.Writer

/-!
# ZoneArbiter.Proofs.Json.Numerals — numbers in the text of a message

The reader sets a bound to the length of a numeral, `Numeral.longest`, and the writer
sets none. `Numeral.isLegible` tells the integers whose numeral keeps to it, whether or not
the reader counts the minus sign. A written number is read as itself if it is legible and
refused otherwise (`scanUnsigned_toDigits`, `scanUnsigned_decimal`), and an integer that was
read is legible (`isPlain_of_scanScalar`), so it can be written and read once more.

The bound is on digits, not on sizes: a number with a point may have as many digits after
it as one likes, and what was read there need not be legible.
-/

namespace ZoneArbiter

namespace Numeral

variable [Measure] {negative : Bool} {n : Nat}

/-- Is the numeral of a number short enough for the reader, after its sign? -/
def fits (negative : Bool) (n : Nat) : Bool := !isTooLong negative (Nat.toDigits 10 n).length

/-- Is the numeral of an integer short enough for the reader? -/
def isLegible (n : Int) : Bool := fits (n < 0) n.natAbs

/-- The numbers that fit after a sign are those below a power of ten. -/
theorem fits_iff : fits negative n = true ↔ n < 10 ^ (longest - signLength negative) := by
  have hsign := signLength_le negative
  have hroom : 0 < longest - signLength negative := by
    rw [longest]
    omega
  rw [← Nat.length_toDigits_le_iff (by decide) hroom, fits, isTooLong, Bool.not_eq_true',
    decide_eq_false_iff_not]
  omega

/-- So an integer is legible if it has no more digits than the greatest length allows, which are one
less after a sign that counts. -/
theorem isLegible_iff {n : Int} :
    isLegible n = true ↔ n.natAbs < 10 ^ (longest - signLength (n < 0)) :=
  fits_iff

/-- Without a sign there is no less room. -/
theorem fits_of_negative (h : fits negative n = true) : fits false n = true := by
  rw [fits_iff] at h ⊢
  calc n < 10 ^ (longest - signLength negative) := h
    _ ≤ 10 ^ (longest - signLength false) := by
        rw [signLength_false]
        exact Nat.pow_le_pow_right (by decide) (Nat.sub_le_sub_left (Nat.zero_le _) _)

/-- An integer is legible if its digits fit after the sign that it was spelled with. -/
theorem isLegible_of_fits (h : fits negative n = true) :
    isLegible (if negative then -(n : Int) else n) = true := by
  cases negative with
  | false =>
    have hsign : decide ((n : Int) < 0) = false := by simp
    rw [if_neg Bool.false_ne_true, isLegible, hsign, Int.natAbs_natCast]
    exact h
  | true =>
    rw [if_pos rfl, isLegible, Int.natAbs_neg, Int.natAbs_natCast]
    -- Minus zero is zero, and has no sign any more.
    cases hsign : decide (-(n : Int) < 0) with
    | true => exact h
    | false => exact fits_of_negative h

end Numeral

namespace Json

/-! ### Written digits -/

/-- No numeral starts with a zero, zero itself apart. -/
theorem eq_zero_of_head?_toDigits {n : Nat} (h : (Nat.toDigits 10 n).head? = some '0') :
    n = 0 := by
  induction n using Nat.strongRecOn with
  | ind n ih =>
    rcases Nat.lt_or_ge n 10 with small | large
    · rw [Nat.toDigits_of_lt_base small] at h
      have digit : ∀ d < 10, Nat.digitChar d = '0' → d = 0 := by decide
      exact digit n small (by simpa using h)
    · rw [Nat.toDigits_of_base_le (by decide) large] at h
      have := ih (n / 10) (by omega) (by
        cases e : Nat.toDigits 10 (n / 10) with
        | nil => exact absurd e Nat.toDigits_ne_nil
        | cons d ds => simpa [e] using h)
      omega

/-- A numeral has a first digit. -/
theorem toDigits_eq_cons (n : Nat) :
    ∃ d ds, Nat.toDigits 10 n = d :: ds ∧ d.isDigit = true := by
  cases e : Nat.toDigits 10 n with
  | nil => exact absurd e Nat.toDigits_ne_nil
  | cons d ds =>
    refine ⟨d, ds, rfl, Nat.isDigit_of_mem_toDigits (b := 10) (n := n) (by decide) (by decide) ?_⟩
    simp [e]

theorem ne_of_isDigit {c d : Char} (digit : d.isDigit = true) (other : c.isDigit = false) :
    d ≠ c := by
  rintro rfl
  simp [digit] at other

/-- Digits are scanned as far as they go. -/
theorem scanDigits_append {ds rest : List Char} (nonempty : ds ≠ [])
    (digits : ∀ c ∈ ds, c.isDigit = true) (ends : ∀ c ∈ rest.head?, c.isDigit = false) :
    scanDigits (ds ++ rest) = some (ds, rest) := by
  have stops : rest.takeWhile Char.isDigit = [] ∧ rest.dropWhile Char.isDigit = rest := by
    cases rest with
    | nil => simp
    | cons c rest => simp [ends c rfl]
  rw [scanDigits, List.takeWhile_append_of_pos digits, List.dropWhile_append_of_pos digits,
    stops.1, stops.2, List.append_nil]
  cases ds with
  | nil => contradiction
  | cons d ds => rfl

theorem scanDigits_toDigits (n : Nat) {rest : List Char}
    (ends : ∀ c ∈ rest.head?, c.isDigit = false) :
    scanDigits (Nat.toDigits 10 n ++ rest) = some (Nat.toDigits 10 n, rest) :=
  scanDigits_append Nat.toDigits_ne_nil
    (fun _ h => Nat.isDigit_of_mem_toDigits (by decide) (by decide) h) ends

/-- A written number is scanned as a whole, unless it is too long after its sign. -/
theorem scanWhole_toDigits [Numeral.Measure] (negative : Bool) (n : Nat) {rest : List Char}
    (ends : ∀ c ∈ rest.head?, c.isDigit = false) :
    scanWhole negative (Nat.toDigits 10 n ++ rest) =
      if Numeral.fits negative n then some (Nat.toDigits 10 n, rest) else none := by
  have noPadding :
      ¬ ((Nat.toDigits 10 n).head? = some '0' ∧ 1 < (Nat.toDigits 10 n).length) := by
    -- A zero in front is the whole numeral, so the guard against padding lets it pass.
    rintro ⟨zero, long⟩
    rw [eq_zero_of_head?_toDigits zero] at long
    revert long
    decide
  simp only [scanWhole, scanLeading, scanDigits_toDigits n ends, Option.bind_eq_bind,
    Option.bind_some, if_neg noPadding, Numeral.fits, Bool.not_eq_true']
  grind

@[simp] theorem digitsValue_toDigits (n : Nat) : digitsValue (Nat.toDigits 10 n) = n :=
  Nat.ofDigitChars_ten_toDigits

/-- What may follow a value: nothing, a comma, or a closing bracket of either kind. -/
def Ends (rest : List Char) : Prop :=
  ∀ c ∈ rest.head?, c = ',' ∨ c = ']' ∨ c = Char.ofNat 0x7d

/-- No digit follows on a value, so that it is clear where a number ends. -/
theorem Ends.not_digit {rest : List Char} (h : Ends rest) :
    ∀ c ∈ rest.head?, c.isDigit = false := by
  intro c hc
  rcases h c hc with rfl | rfl | rfl <;> decide

theorem Ends.scanFraction {rest : List Char} (h : Ends rest) :
    scanFraction rest = some ([], rest) := by
  cases rest with
  | nil => rfl
  | cons c rest => rcases h c rfl with rfl | rfl | rfl <;> rfl

theorem Ends.scanExponent {rest : List Char} (h : Ends rest) :
    scanExponent rest = some (none, rest) := by
  cases rest with
  | nil => rfl
  | cons c rest => rcases h c rfl with rfl | rfl | rfl <;> rfl

/-- **A written integer is read as itself or refused**, and its length alone decides. -/
theorem scanUnsigned_toDigits [Numeral.Measure] (negative : Bool) (n : Nat) {rest : List Char}
    (h : Ends rest) :
    scanUnsigned negative (Nat.toDigits 10 n ++ rest) =
      if Numeral.fits negative n then some (.int (if negative then -n else n), rest)
      else none := by
  rw [scanUnsigned, scanWhole_toDigits negative n h.not_digit]
  cases Numeral.fits negative n <;> simp [h.scanFraction, h.scanExponent]

theorem scanSign_toDigits (n : Nat) (rest : List Char) :
    scanSign (Nat.toDigits 10 n ++ rest) = (false, Nat.toDigits 10 n ++ rest) := by
  obtain ⟨d, ds, e, digit⟩ := toDigits_eq_cons n
  rw [e, List.cons_append, scanSign.eq_def]
  split
  · rename_i minus
    exact absurd (List.cons.inj minus).1 (ne_of_isDigit digit (by decide))
  · rename_i plus
    exact absurd (List.cons.inj plus).1 (ne_of_isDigit digit (by decide))
  · rfl

/-- An exponent is read as itself, however long it is. -/
theorem scanExponent_writeInt (n : Int) {rest : List Char} (h : Ends rest) :
    scanExponent ('e' :: (writeInt n ++ rest)) = some (some n, rest) := by
  by_cases below : n < 0
  · have e : scanSign (writeInt n ++ rest) = (true, Nat.toDigits 10 n.natAbs ++ rest) := by
      rw [writeInt, if_pos below]
      rfl
    have value : -(n.natAbs : Int) = n := by omega
    simp only [Json.scanExponent, true_or, if_true, e, scanDigits_toDigits _ h.not_digit,
      Option.bind_eq_bind, Option.bind_some, digitsValue_toDigits, value]
  · have e : scanSign (writeInt n ++ rest) = (false, Nat.toDigits 10 n.natAbs ++ rest) := by
      rw [writeInt, if_neg below, scanSign_toDigits]
    have value : (n.natAbs : Int) = n := by omega
    simp only [Json.scanExponent, true_or, if_true, e, scanDigits_toDigits _ h.not_digit,
      Option.bind_eq_bind, Option.bind_some, digitsValue_toDigits, Bool.false_eq_true, if_false,
      value]

/-- So is a number with an exponent, if what stands before the exponent is not too long. -/
theorem scanUnsigned_decimal [Numeral.Measure] (negative : Bool) (n : Nat) (exponent : Int)
    {rest : List Char} (h : Ends rest) :
    scanUnsigned negative (Nat.toDigits 10 n ++ 'e' :: (writeInt exponent ++ rest)) =
      if Numeral.fits negative n then some (.decimal ⟨negative, n, exponent⟩, rest)
      else none := by
  have noDigit : ∀ c ∈ ('e' :: (writeInt exponent ++ rest)).head?, c.isDigit = false := by
    rintro c ⟨rfl⟩
    rfl
  have noPoint : Json.scanFraction ('e' :: (writeInt exponent ++ rest)) =
      some ([], 'e' :: (writeInt exponent ++ rest)) := rfl
  rw [scanUnsigned, scanWhole_toDigits negative n noDigit]
  cases Numeral.fits negative n <;> simp [noPoint, scanExponent_writeInt exponent h]

/-! ### Digits that were read -/

/-- Digits make a number below the power of ten that has one digit more. -/
theorem ofDigitChars_lt {ds : List Char} (digits : ∀ c ∈ ds, c.isDigit = true) (start : Nat) :
    Nat.ofDigitChars 10 ds start < (start + 1) * 10 ^ ds.length := by
  -- The digits that follow never carry into `start`, which is why one more of it is a bound.
  induction ds generalizing start with
  | nil => simp
  | cons c ds ih =>
    have below : c.toNat - '0'.toNat < 10 := by
      have digit := digits c (by simp)
      simp only [Char.isDigit, Bool.and_eq_true, decide_eq_true_eq, UInt32.le_iff_toNat_le] at digit
      have : c.toNat ≤ 57 := digit.2
      have : '0'.toNat = 48 := rfl
      omega
    calc Nat.ofDigitChars 10 (c :: ds) start
        = Nat.ofDigitChars 10 ds (10 * start + (c.toNat - '0'.toNat)) := Nat.ofDigitChars_cons
      _ < (10 * start + (c.toNat - '0'.toNat) + 1) * 10 ^ ds.length :=
          ih (fun c h => digits c (by simp [h])) _
      _ ≤ ((start + 1) * 10) * 10 ^ ds.length := Nat.mul_le_mul_right _ (by omega)
      _ = (start + 1) * 10 ^ (c :: ds).length := by
          rw [List.length_cons, Nat.pow_succ', Nat.mul_assoc]

/-- What was read from digits that are not too many fits, for it has no more of them. -/
theorem fits_digitsValue [Numeral.Measure] {negative : Bool} {ds : List Char}
    (digits : ∀ c ∈ ds, c.isDigit = true)
    (short : Numeral.isTooLong negative ds.length = false) :
    Numeral.fits negative (digitsValue ds) = true := by
  have room : ds.length ≤ Numeral.longest - Numeral.signLength negative := by
    rw [Numeral.isTooLong, decide_eq_false_iff_not] at short
    omega
  rw [Numeral.fits_iff]
  calc digitsValue ds < (0 + 1) * 10 ^ ds.length := ofDigitChars_lt digits 0
    _ = 10 ^ ds.length := by rw [Nat.zero_add, Nat.one_mul]
    _ ≤ 10 ^ (Numeral.longest - Numeral.signLength negative) :=
        Nat.pow_le_pow_right (by decide) room

theorem isDigit_of_scanDigits {cs ds rest : List Char} (h : scanDigits cs = some (ds, rest)) :
    ∀ c ∈ ds, c.isDigit = true := by
  rw [scanDigits] at h
  split at h
  · simp at h
  · obtain ⟨rfl, -⟩ := Prod.mk.inj (Option.some.inj h)
    exact List.all_eq_true.mp List.all_takeWhile

/-- What was scanned as a whole is made of digits, and not too long. -/
theorem digits_of_scanWhole [Numeral.Measure] {negative : Bool} {cs ds rest : List Char}
    (h : scanWhole negative cs = some (ds, rest)) :
    (∀ c ∈ ds, c.isDigit = true) ∧ Numeral.isTooLong negative ds.length = false := by
  simp only [scanWhole, scanLeading, Option.bind_eq_bind, Option.bind_eq_some_iff, Prod.exists] at h
  obtain ⟨leading, afterLeading, ⟨found, afterFound, scanned, noPadding⟩, short⟩ := h
  split at noPadding
  · contradiction
  split at short
  · contradiction
  grind [isDigit_of_scanDigits]

/-- A value that is spelled by a word or a number; an integer has to be legible. -/
def IsPlain [Numeral.Measure] : Json → Prop
  | .int n => Numeral.isLegible n = true
  | .null | .bool _ | .decimal _ | .word _ => True
  | .text _ | .array _ | .object _ => False

theorem isPlain_of_scanUnsigned [Numeral.Measure] {negative : Bool} {cs rest : List Char} {j : Json}
    (h : scanUnsigned negative cs = some (j, rest)) : j.IsPlain := by
  simp only [scanUnsigned, Option.bind_eq_bind, Option.bind_eq_some_iff, Prod.exists] at h
  obtain ⟨leading, afterLeading, whole, fraction, afterFraction, -, exponent, afterExponent, -,
    h⟩ := h
  obtain ⟨digits, short⟩ := digits_of_scanWhole whole
  split at h
  · obtain ⟨rfl, -⟩ := Prod.mk.inj (Option.some.inj h)
    exact Numeral.isLegible_of_fits (fits_digitsValue digits short)
  · obtain ⟨rfl, -⟩ := Prod.mk.inj (Option.some.inj h)
    trivial

/-- **An integer that was read can be written and read once more.** -/
theorem isPlain_of_scanScalar [Numeral.Measure] {cs rest : List Char} {j : Json}
    (h : scanScalar cs = some (j, rest)) : j.IsPlain := by
  unfold scanScalar scanNumber at h
  repeat' split at h
  -- A word spells one value; the two cases that are left are numbers with a sign and without.
  all_goals first
    | exact isPlain_of_scanUnsigned h
    | (obtain ⟨rfl, -⟩ := Prod.mk.inj (Option.some.inj h); trivial)

end Json

end ZoneArbiter
