import ZoneArbiter.Text.Encoding.Codepage
import ZoneArbiter.Text.Encoding.Escaped
import ZoneArbiter.Text.Encoding.Labelled
import ZoneArbiter.Text.Encoding.Shifted

/-!
# ZoneArbiter.Text.Encoding — texts as bytes

Texts are kept as bytes, and an **encoding** says which bytes stand for which
characters. `Encoding.reread` tells what the UTF-8 bytes of a text stand for in
another encoding; bytes that stand for nothing there are a `DecodingDefect`.

Encodings go by many names (`Encoding.ofName?`), and the case and the punctuation of
a name do not matter.
-/

namespace ZoneArbiter.Text

/-- Which bytes stand for which characters. -/
inductive Encoding
  /-- UTF-8. -/
  | utf8
  /-- UTF-8 behind a mark of the encoding. -/
  | markedUtf8
  /-- UTF-7. -/
  | utf7
  /-- UTF-16 behind a mark of the order of its bytes. -/
  | markedUtf16
  /-- UTF-16 with the bytes of a unit in a fixed order. -/
  | utf16 (order : ByteOrder)
  /-- UTF-32 behind a mark of the order of its bytes. -/
  | markedUtf32
  /-- UTF-32 with the bytes of a unit in a fixed order. -/
  | utf32 (order : ByteOrder)
  /-- The characters of ASCII. -/
  | ascii
  /-- The characters of a codepage. -/
  | codepage (page : Codepage)
  /-- The characters of an East Asian encoding that have one byte. -/
  | eastAsian (page : Codepage)
  /-- The first 256 characters, and escapes for all of them. -/
  | escaped (raw : Bool)
  /-- Labels of ASCII characters. -/
  | labels
  /-- Punycode. -/
  | punycode
  /-- An encoding in which nothing has a meaning. -/
  | meaningless
deriving Repr, DecidableEq

namespace Encoding

/-! ### Names -/

/-- A name in lower case, with one low line for whatever stands between its parts,
which consist of letters, digits and points. -/
def plainName (name : String) : String :=
  let isPart (c : Char) : Bool := c.isAlphanum || c = '.'
  let spaced := name.toList.map fun c => if isPart c then c.toLower else ' '
  "_".intercalate <| (spaced.splitOn ' ').filterMap fun part =>
    if part.isEmpty then none else some (String.ofList part)

/-- Is the name among these, of which the first one is their own name and the others
stand for it? In a name that stands for another, a point counts as a low line where
that helps. -/
def isAmong (names : List String) (name : String) : Bool :=
  let plain := plainName name
  let unpointed := String.ofList (plain.toList.map fun c => if c = '.' then '_' else c)
  names.contains plain || (names.drop 1).contains unpointed

/-- The names of the encodings that are not codepages. -/
def names : List (Encoding × List String) :=
  [(.utf8, ["utf_8", "u8", "utf", "utf8", "utf8_ucs2", "utf8_ucs4", "cp65001"]),
   (.markedUtf8, ["utf_8_sig"]),
   (.utf7, ["utf_7", "u7", "utf7", "unicode_1_1_utf_7"]),
   (.markedUtf16, ["utf_16", "u16", "utf16"]),
   (.utf16 .little, ["utf_16_le", "utf_16le", "unicodelittleunmarked"]),
   (.utf16 .big, ["utf_16_be", "utf_16be", "unicodebigunmarked"]),
   (.markedUtf32, ["utf_32", "u32", "utf32"]),
   (.utf32 .little, ["utf_32_le", "utf_32le"]),
   (.utf32 .big, ["utf_32_be", "utf_32be"]),
   (.ascii,
    ["ascii", "646", "ansi_x3.4_1968", "ansi_x3_4_1968", "ansi_x3.4_1986", "cp367", "csascii",
     "ibm367", "iso646_us", "iso_646.irv_1991", "iso_ir_6", "us", "us_ascii"]),
   (.escaped false, ["unicode_escape"]),
   (.escaped true, ["raw_unicode_escape"]),
   (.labels, ["idna"]),
   (.punycode, ["punycode"]),
   (.meaningless, ["undefined"])]

/-- The names of ways to write bytes that do not yield texts. -/
def transforms : List (List String) :=
  [["base64_codec", "base64", "base_64"], ["bz2_codec", "bz2"], ["hex_codec", "hex"],
   ["quopri_codec", "quopri", "quoted_printable", "quotedprintable"], ["rot_13", "rot13"],
   ["uu_codec", "uu"], ["zlib_codec", "zip", "zlib"]]

/-- Does the name stand for something that does not yield texts? -/
def isTransform (name : String) : Bool := transforms.any fun names => isAmong names name

/-- The encoding of a name. -/
def ofName? (name : String) : Option Encoding :=
  ((names.find? fun entry => isAmong entry.2 name).map (·.1)).or <|
    ((Codepage.all.find? fun page => isAmong page.names name).map codepage).or <|
      (Codepage.eastAsian.find? fun page => isAmong page.names name).map eastAsian

/-! ### Reading -/

/-- The text without the mark of its encoding, if that is its first character. -/
def dropMark : List Char → List Char
  | [] => []
  | c :: rest => if c.toNat = 0xfeff then rest else c :: rest

/-- Without a mark of the order of the bytes only the empty text can be read. What the
bytes would be with the low one first still has to be in order. -/
def readUnmarked (family : String) (bytes : List Nat) (text : Decoded) : Decoded :=
  if bytes.isEmpty then .ok [] else text.bind fun _ => .error (.noMark family)

/-- What the UTF-8 bytes of a text stand for. None of them begin with a mark of the
order of bytes. -/
def reread (encoding : Encoding) (s : String) : Decoded :=
  let bytes := s.toUTF8.toList.map UInt8.toNat
  match encoding with
  | .utf8 => .ok s.toList
  | .markedUtf8 => .ok (dropMark s.toList)
  | .utf7 => readUtf7 none 0 bytes
  | .markedUtf16 => readUnmarked "UTF-16" bytes (readUtf16 .little 0 bytes)
  | .utf16 order => readUtf16 order 0 bytes
  | .markedUtf32 => readUnmarked "UTF-32" bytes (readUtf32 .little 0 bytes)
  | .utf32 order => readUtf32 order 0 bytes
  | .ascii => readAscii 0 bytes
  | .codepage page => page.read bytes
  | .eastAsian page => page.readEastAsian bytes
  | .escaped raw => readEscaped raw 0 bytes
  | .labels => readLabels bytes
  | .punycode => readPunycode bytes
  | .meaningless => .error .noMeaning

example : (ofName? "ISO.8859-1").isSome = true := by decide +kernel

example : ofName? "hex" = none := by decide +kernel

end Encoding

end ZoneArbiter.Text
