import ZoneArbiter.Text.Encoding.Defect

/-!
# ZoneArbiter.Text.Encoding.Escaped — escapes for code points

Bytes stand for the first 256 characters, and a backslash opens an **escape**, which
stands for a character by the digits of its code point or, for some, by a letter. A
backslash that opens no escape stands for itself. In the *raw* form only the escapes
with `u` and `U` are known.
-/

namespace ZoneArbiter.Text.Encoding

/-- The code point of an escape with these hexadecimal digits, or how many bytes there
are before the first one that is no digit. -/
def hexCode (digits : List Nat) (due : Nat) : Except Nat Nat :=
  let found := digits.takeWhile fun byte => (hexValue? (Char.ofNat byte)).isSome
  if due ≤ found.length then
    .ok ((found.take due).foldl
      (fun code byte => code * 16 + (hexValue? (Char.ofNat byte)).getD 0) 0)
  else .error found.length

/-- What an escape stands for and how many bytes it takes behind the backslash, or
what is wrong with that many bytes. -/
abbrev Escape := Except (Malformation × Nat) (List Char × Nat)

/-- An escape with hexadecimal digits behind its letter. -/
def hexEscape (due : Nat) (form : String) (beyond : Malformation) (digits : List Nat) : Escape :=
  match hexCode digits due with
  | .ok code =>
      if code < 0x110000 then .ok ([Char.ofNat code], due + 1) else .error (beyond, due + 1)
  | .error seen => .error (.shortEscape form, seen + 1)

/-- An escape with up to three octal digits. -/
def octalEscape (bytes : List Nat) : Escape :=
  let digits := (bytes.take 3).takeWhile fun byte => 0x30 ≤ byte && byte ≤ 0x37
  .ok ([Char.ofNat (digits.foldl (fun code byte => code * 8 + (byte - 0x30)) 0)], digits.length)

/-- An escape for a name in braces. No names are known. -/
def nameEscape (bytes : List Nat) : Escape :=
  match bytes with
  | 0x7b :: rest =>
      let name := rest.takeWhile (· ≠ 0x7d)
      if name.length = rest.length then .error (.escapeWithoutName, rest.length + 2)
      else if name.isEmpty then .error (.escapeWithoutName, 2)
      else .error (.unknownName, name.length + 3)
  | _ => .error (.escapeWithoutName, 1)

/-- The characters that letters stand for in escapes. -/
def letterEscapes : List (Char × Nat) :=
  [('\\', 0x5c), ('\'', 0x27), ('"', 0x22), ('b', 8), ('f', 12), ('t', 9), ('n', 10), ('r', 13),
   ('v', 11), ('a', 7)]

/-- The escape that these bytes behind a backslash are. -/
def escapeOf (raw : Bool) (bytes : List Nat) : Escape :=
  match bytes with
  | [] => .error (.loneEscape, 0)
  | byte :: rest =>
      let c := Char.ofNat byte
      let beyond := if raw then Malformation.rawEscapeBeyondUnicode else .escapeBeyondUnicode
      if c = 'u' then hexEscape 4 "\\uXXXX" beyond rest
      else if c = 'U' then hexEscape 8 "\\UXXXXXXXX" beyond rest
      else if raw then .ok (['\\', c], 1)
      else if c = 'x' then hexEscape 2 "\\xXX" beyond rest
      else if c = 'N' then nameEscape rest
      else if c = '\n' then .ok ([], 1)
      else if '0' ≤ c && c ≤ '7' then octalEscape bytes
      else match letterEscapes.lookup c with
        | some code => .ok ([Char.ofNat code], 1)
        | none => .ok (['\\', c], 1)

/-- The family of the encoding with escapes. -/
def escapeFamily (raw : Bool) : String := if raw then "rawunicodeescape" else "unicodeescape"

/-- The characters of bytes with escapes from a position on. -/
def readEscaped (raw : Bool) (position : Nat) (bytes : List Nat) : Decoded :=
  match bytes with
  | [] => .ok []
  | byte :: rest =>
      if byte = 0x5c && !(raw && rest.isEmpty) then
        match escapeOf raw rest with
        | .ok (chars, taken) =>
            (chars ++ ·) <$> readEscaped raw (position + 1 + taken) (rest.drop taken)
        | .error (what, taken) =>
            .error (.malformed (escapeFamily raw) what position (byte :: rest.take taken))
      else (Char.ofNat byte :: ·) <$> readEscaped raw (position + 1) rest
termination_by bytes.length
decreasing_by
  · simp only [List.length_drop, List.length_cons]
    omega
  · simp

end ZoneArbiter.Text.Encoding
