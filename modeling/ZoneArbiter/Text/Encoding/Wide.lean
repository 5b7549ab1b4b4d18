import ZoneArbiter.Text.Encoding.Defect

/-!
# ZoneArbiter.Text.Encoding.Wide — units of several bytes

UTF-16 has units of two bytes, of which most characters take one and the others a
pair, and UTF-32 has units of four bytes, one for each character. The bytes of a unit
come in one of two orders.
-/

namespace ZoneArbiter.Text

/-- The order of the bytes of a unit. -/
inductive ByteOrder
  /-- The lowest byte first. -/
  | little
  /-- The highest byte first. -/
  | big
deriving Repr, DecidableEq

namespace ByteOrder

/-- The number that bytes with the highest one first make up. -/
def ofBytes (bytes : List Nat) : Nat := bytes.foldl (fun n byte => n * 0x100 + byte) 0

/-- The unit that bytes make up. -/
def unit (order : ByteOrder) (bytes : List Nat) : Nat :=
  match order with
  | .little => ofBytes bytes.reverse
  | .big => ofBytes bytes

/-- The family of UTF-16 with the order. -/
def family16 : ByteOrder → String
  | .little => "utf-16-le"
  | .big => "utf-16-be"

/-- The family of UTF-32 with the order. -/
def family32 : ByteOrder → String
  | .little => "utf-32-le"
  | .big => "utf-32-be"

end ByteOrder

namespace Encoding

/-- Is the unit the first of two? -/
def opensPair (u : Nat) : Bool := 0xd800 ≤ u && u < 0xdc00

/-- Is the unit the second of two? -/
def closesPair (u : Nat) : Bool := 0xdc00 ≤ u && u < 0xe000

/-- The character of two units. -/
def ofPair (u v : Nat) : Char := Char.ofNat (0x10000 + (u - 0xd800) * 0x400 + (v - 0xdc00))

/-- The characters of UTF-16 from a position on. -/
def readUtf16 (order : ByteOrder) (position : Nat) : List Nat → Decoded
  | [] => .ok []
  | [byte] => .error (.malformed order.family16 .partOfUnit position [byte])
  | first :: second :: rest =>
      let u := order.unit [first, second]
      let wrong (what : Malformation) (more : List Nat) : Decoded :=
        .error (.malformed order.family16 what position (first :: second :: more))
      if closesPair u then wrong .lonePart []
      else if opensPair u then
        match rest with
        | third :: fourth :: rest =>
            let v := order.unit [third, fourth]
            if closesPair v then (ofPair u v :: ·) <$> readUtf16 order (position + 4) rest
            else wrong .brokenPair []
        | rest => wrong .halfPair rest
      else (Char.ofNat u :: ·) <$> readUtf16 order (position + 2) rest

/-- The characters of UTF-32 from a position on. -/
def readUtf32 (order : ByteOrder) (position : Nat) : List Nat → Decoded
  | [] => .ok []
  | first :: second :: third :: fourth :: rest =>
      let bytes := [first, second, third, fourth]
      let u := order.unit bytes
      if opensPair u || closesPair u then
        .error (.malformed order.family32 .halfAsUnit position bytes)
      else if 0x110000 ≤ u then .error (.malformed order.family32 .beyondUnicode position bytes)
      else (Char.ofNat u :: ·) <$> readUtf32 order (position + 4) rest
  | bytes => .error (.malformed order.family32 .partOfUnit position bytes)

end Encoding

end ZoneArbiter.Text
