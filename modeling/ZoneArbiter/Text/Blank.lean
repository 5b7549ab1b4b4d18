/-!
# ZoneArbiter.Text.Blank — white space

The characters with the Unicode property *White_Space*, the characters that separate
words, and the text that is left when blanks are taken off both ends.
-/

namespace ZoneArbiter.Text

/-- Does the character have the property *White_Space*? -/
def isBlank (c : Char) : Bool :=
  let code := c.toNat
  (9 ≤ code && code ≤ 13) || code == 0x20 || code == 0x85 || code == 0xa0 || code == 0x1680 ||
    (0x2000 ≤ code && code ≤ 0x200a) || code == 0x2028 || code == 0x2029 || code == 0x202f ||
    code == 0x205f || code == 0x3000

/-- Does the character separate words? These are the blanks and the four information
separators. -/
def isSpace (c : Char) : Bool := isBlank c || (0x1c ≤ c.toNat && c.toNat ≤ 0x1f)

/-- The characters without the blanks at the end. -/
def trimEnd (blank : Char → Bool) (cs : List Char) : List Char :=
  (cs.reverse.dropWhile blank).reverse

/-- The characters without the blanks at either end. -/
def trim (cs : List Char) : List Char := trimEnd isBlank (cs.dropWhile isBlank)

end ZoneArbiter.Text
