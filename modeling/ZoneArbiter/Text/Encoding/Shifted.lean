import ZoneArbiter.Text.Encoding.Wide

/-!
# ZoneArbiter.Text.Encoding.Shifted — UTF-7

ASCII characters stand for themselves but for the plus sign, which opens a **shift**:
the digits of base 64 that follow hold the units of UTF-16, six bits each. A shift
ends before the first character that is no digit; a hyphen there belongs to it. A
plus sign with a hyphen after it stands for itself.
-/

namespace ZoneArbiter.Text.Encoding

/-- The value of a digit of base 64. -/
def digit64? (byte : Nat) : Option Nat :=
  if 0x41 ≤ byte && byte ≤ 0x5a then some (byte - 0x41)
  else if 0x61 ≤ byte && byte ≤ 0x7a then some (byte - 0x61 + 26)
  else if 0x30 ≤ byte && byte ≤ 0x39 then some (byte - 0x30 + 52)
  else if byte = 0x2b then some 62
  else if byte = 0x2f then some 63
  else none

/-- An open shift. -/
structure Shift where
  /-- The bytes of the shift, the last one first. -/
  bytes : List Nat
  /-- How many bits have been read that no unit has taken. -/
  bits : Nat := 0
  /-- These bits as a number. -/
  value : Nat := 0
  /-- The first of two units, if the second one is due. -/
  pending : Option Nat := none

namespace Shift

/-- The shift with one more digit, and the character that is complete with it. -/
def push (s : Shift) (byte digit : Nat) : Shift × List Char :=
  let value := s.value * 64 + digit
  let bits := s.bits + 6
  let s := { s with bytes := byte :: s.bytes, bits, value }
  if bits < 16 then (s, [])
  else
    let weight := Nat.pow 2 (bits - 16)
    let u := value / weight
    let s := { s with bits := bits - 16, value := value % weight, pending := none }
    match s.pending.filter fun _ => closesPair u with
    | some first => (s, [ofPair first u])
    | none => if opensPair u then ({ s with pending := some u }, []) else (s, [Char.ofNat u])

/-- What is wrong with a shift that ends before a character. -/
def flawBefore (s : Shift) : Option Malformation :=
  if 6 ≤ s.bits then some .partOfCharacter
  else if s.bits ≠ 0 && s.value ≠ 0 then some .padding
  else none

/-- What is wrong with a shift that ends with the text. -/
def flawAtEnd (s : Shift) : Option Malformation :=
  if s.pending.isSome || s.flawBefore.isSome then some .openShift else none

end Shift

/-- The defect of a shift that ends before a position, with what comes after it. -/
def shiftDefect (s : Shift) (position : Nat) (what : Malformation) (more : List Nat) :
    DecodingDefect :=
  .malformed "utf7" what (position - s.bytes.length) (s.bytes.reverse ++ more)

/-- The characters of UTF-7 from a position on, in a shift if one is open. -/
def readUtf7 (shift : Option Shift) (position : Nat) : List Nat → Decoded
  | [] =>
      match shift with
      | some s =>
          match s.flawAtEnd with
          | some what => .error (shiftDefect s position what [])
          | none => .ok []
      | none => .ok []
  | byte :: rest =>
      let plain : Decoded :=
        if byte < 0x80 then (Char.ofNat byte :: ·) <$> readUtf7 none (position + 1) rest
        else .error (.malformed "utf7" .unshifted position [byte])
      match shift with
      | some s =>
          match digit64? byte with
          | some digit =>
              let (s, chars) := s.push byte digit
              (chars ++ ·) <$> readUtf7 (some s) (position + 1) rest
          | none =>
              match s.flawBefore with
              | some what => .error (shiftDefect s position what [byte])
              | none => if byte = 0x2d then readUtf7 none (position + 1) rest else plain
      | none =>
          if byte = 0x2b then
            match rest with
            | next :: rest =>
                if next = 0x2d then ('+' :: ·) <$> readUtf7 none (position + 2) rest
                else if (digit64? next).isNone then
                  .error (.malformed "utf7" .noShift position [byte, next])
                else readUtf7 (some { bytes := [byte] }) (position + 1) (next :: rest)
            | [] => readUtf7 (some { bytes := [byte] }) (position + 1) []
          else plain

end ZoneArbiter.Text.Encoding
