import ZoneArbiter.Text.Encoding.Defect

/-!
# ZoneArbiter.Text.Encoding.Labelled — texts that fit host names

Host names hold ASCII characters only. In **Punycode** the ASCII characters of a text
come first; behind the last hyphen there are numerals, one for each other character,
which say how far to go on through the code points and the places of the text. The
digits of a numeral weigh more from one to the next by a threshold, which adapts to
the numerals before.

Texts of *labels* with points between them are read as they are, if they are ASCII.
-/

namespace ZoneArbiter.Text.Encoding

/-- The characters of ASCII bytes from a position on. -/
def readAscii (position : Nat) : List Nat → Decoded
  | [] => .ok []
  | byte :: rest =>
      if byte < 0x80 then (Char.ofNat byte :: ·) <$> readAscii (position + 1) rest
      else .error (.malformed "ascii" .notAscii position [byte])

/-! ### Numerals -/

/-- The value of a digit of base 36. Letters come first. -/
def digit36? (c : Char) : Option Nat :=
  if 'A' ≤ c ∧ c ≤ 'Z' then some (c.toNat - 65)
  else if '0' ≤ c ∧ c ≤ '9' then some (c.toNat - 22)
  else none

/-- The threshold of a digit. -/
def threshold (index bias : Nat) : Nat := max 1 (min 26 (36 * (index + 1) - bias))

/-- The numeral that a text starts with, from the digit of an index on, and what
follows it. -/
def numeral (bias index weight value : Nat) : List Char → Except DecodingDefect (Nat × List Char)
  | [] => .error .openNumeral
  | c :: rest =>
      match digit36? c with
      | none => .error (.notDigit c)
      | some digit =>
          let t := threshold index bias
          let value := value + digit * weight
          if digit < t then .ok (value, rest)
          else numeral bias (index + 1) (weight * (36 - t)) value rest

/-- How often a number can be divided by 35 until it is at most 455, and what is left
then. -/
def divisions (n : Nat) : Nat × Nat :=
  if 455 < n then
    let (count, rest) := divisions (n / 35)
    (count + 1, rest)
  else (0, n)
termination_by n
decreasing_by omega

/-- The bias after a numeral, for a text of so many characters. -/
def adapted (first : Bool) (value length : Nat) : Nat :=
  let scaled := if first then value / 700 else value / 2
  let (count, rest) := divisions (scaled + scaled / length)
  count * 36 + 36 * rest / (rest + 38)

/-- Where characters are put into a text, and by which bias. -/
structure Insertion where
  /-- The code point of the last character that was put in. -/
  code : Nat := 0x80
  /-- The place behind that character. -/
  place : Nat := 0
  /-- The bias of the next numeral. -/
  bias : Nat := 72
  /-- Whether the next numeral is the first one. -/
  first : Bool := true

/-- The text with the characters of at most `fuel` numerals put in. -/
def insertNumerals : Nat → Insertion → List Char → List Char → Decoded
  | 0, _, text, _ => .ok text
  | _, _, text, [] => .ok text
  | fuel + 1, last, text, digits => do
      let (value, rest) ← numeral last.bias 0 1 0 digits
      let places := text.length + 1
      let code := last.code + (last.place + value) / places
      let place := (last.place + value) % places
      if 0x10ffff < code then .error (.numeralBeyondUnicode code)
      else
        let bias := adapted last.first value places
        insertNumerals fuel { code, place := place + 1, bias, first := false }
          (text.take place ++ Char.ofNat code :: text.drop place) rest

/-- The text of bytes in Punycode. -/
def readPunycode (bytes : List Nat) : Decoded := do
  let digits := (bytes.reverse.takeWhile (· ≠ 0x2d)).reverse
  let text ← readAscii 0 (bytes.take (bytes.length - digits.length - 1))
  let digits ← readAscii 0 digits
  insertNumerals digits.length {} text (digits.map Char.toUpper)

/-! ### Labels -/

/-- How many characters a label may have. -/
def longestLabel : Nat := 1024

/-- The text of ASCII bytes with labels that are not too long. -/
def readLabels (bytes : List Nat) : Decoded := do
  let text ← readAscii 0 bytes
  if (text.splitOn '.').any fun label => longestLabel < label.length then .error .longLabel
  else .ok text

end ZoneArbiter.Text.Encoding
