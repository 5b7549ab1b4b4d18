import ZoneArbiter.Text.Hex

/-!
# ZoneArbiter.Text.Encoding.Defect — why bytes are no text

Bytes that stand for nothing in an encoding are **malformed**: a defect names the
family of the encoding, what is wrong, where it is wrong, and the bytes in question.
A few defects concern a text as a whole.
-/

namespace ZoneArbiter.Text

/-- What is wrong with bytes that stand for nothing. -/
inductive Malformation
  /-- A byte beyond ASCII. -/
  | notAscii
  /-- A byte without a character. -/
  | noCharacter
  /-- Bytes that make up no character. -/
  | noSequence
  /-- A part of a unit at the end. -/
  | partOfUnit
  /-- The first of two units at the end. -/
  | halfPair
  /-- The first of two units, and not the second one. -/
  | brokenPair
  /-- The second of two units, and not the first one. -/
  | lonePart
  /-- A unit beyond the last code point. -/
  | beyondUnicode
  /-- A unit that is a half of a pair. -/
  | halfAsUnit
  /-- A byte that has to be shifted. -/
  | unshifted
  /-- A shift that nothing can be shifted by. -/
  | noShift
  /-- A character that ends too early in a shift. -/
  | partOfCharacter
  /-- Bits at the end of a shift that should be zero. -/
  | padding
  /-- A shift without an end. -/
  | openShift
  /-- An escape character at the end. -/
  | loneEscape
  /-- An escape with too few digits, as it should look. -/
  | shortEscape (form : String)
  /-- An escape for no code point. -/
  | escapeBeyondUnicode
  /-- An escape for no code point, where other escapes are not known. -/
  | rawEscapeBeyondUnicode
  /-- An escape for a name without a name. -/
  | escapeWithoutName
  /-- An escape for a name that no character has. -/
  | unknownName
deriving Repr, DecidableEq

/-- The words for what is wrong. -/
def Malformation.reason : Malformation → String
  | .notAscii => "ordinal not in range(128)"
  | .noCharacter => "character maps to <undefined>"
  | .noSequence => "illegal multibyte sequence"
  | .partOfUnit => "truncated data"
  | .halfPair => "unexpected end of data"
  | .brokenPair => "illegal UTF-16 surrogate"
  | .lonePart => "illegal encoding"
  | .beyondUnicode => "code point not in range(0x110000)"
  | .halfAsUnit => "code point in surrogate code point range(0xd800, 0xe000)"
  | .unshifted => "unexpected special character"
  | .noShift => "ill-formed sequence"
  | .partOfCharacter => "partial character in shift sequence"
  | .padding => "non-zero padding bits in shift sequence"
  | .openShift => "unterminated shift sequence"
  | .loneEscape => "\\ at end of string"
  | .shortEscape form => "truncated " ++ form ++ " escape"
  | .escapeBeyondUnicode => "illegal Unicode character"
  | .rawEscapeBeyondUnicode => "\\Uxxxxxxxx out of range"
  | .escapeWithoutName => "malformed \\N character escape"
  | .unknownName => "unknown Unicode character name"

/-- Why bytes are no text. -/
inductive DecodingDefect
  /-- Bytes stand for nothing. Positions count bytes. -/
  | malformed (family : String) (what : Malformation) (position : Nat) (bytes : List Nat)
  /-- No mark says what the order of the bytes is. -/
  | noMark (family : String)
  /-- Nothing has a meaning in the encoding. -/
  | noMeaning
  /-- A character is not a digit. -/
  | notDigit (c : Char)
  /-- A numeral has no end. -/
  | openNumeral
  /-- A numeral leads beyond the last code point. -/
  | numeralBeyondUnicode (code : Nat)
  /-- A label has too many characters. -/
  | longLabel
deriving Repr, DecidableEq

namespace DecodingDefect

/-- The broad kind of a defect. -/
def kind : DecodingDefect → String
  | .malformed .. => "UnicodeDecodeError"
  | _ => "UnicodeError"

/-- The hexadecimal digits of a number, without zeros in front. -/
def hexNumeral (n : Nat) : String :=
  String.ofList ((hexDigits 8 n).dropWhile (· = '0'))

/-- Where bytes are malformed. -/
def place (position : Nat) : List Nat → String
  | [byte] =>
      "byte 0x" ++ String.ofList (hexDigits 2 byte) ++ " in position " ++ toString position
  | bytes =>
      "bytes in position " ++ toString position ++ "-" ++ toString (position + bytes.length - 1)

/-- The text that tells a defect. -/
def message : DecodingDefect → String
  | .malformed family what position bytes =>
      "'" ++ family ++ "' codec can't decode " ++ place position bytes ++ ": " ++ what.reason
  | .noMark family => family ++ " stream does not start with BOM"
  | .noMeaning => "undefined encoding"
  | .notDigit c => "Invalid extended code point '" ++ c.toString ++ "'"
  | .openNumeral => "incomplete punicode string"
  | .numeralBeyondUnicode code => "Invalid character U+" ++ hexNumeral code
  | .longLabel => "label way too long"

end DecodingDefect

/-- What reading bytes yields. -/
abbrev Decoded := Except DecodingDefect (List Char)

end ZoneArbiter.Text
