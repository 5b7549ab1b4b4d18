import ZoneArbiter.Text.Hex
import ZoneArbiter.Text.Printable

/-!
# ZoneArbiter.Text.Quoted — text in quotes, on one line

Log lines and status pages show stored text in quotes, so that two values can be told
apart and no stored value can end a line or hide in one. The quote is `'`, or
`"` where that saves escapes: the text holds a `'` and no `"`. The quote in use
and the backslash take a backslash; line feed, carriage return and tab have
short escapes; any other unprintable character is written by its code point, in
the shortest of the forms `\xhh`, `\uhhhh` and `\Uhhhhhhhh` that holds it.

**Quoted text never breaks a line**: `newline_not_mem_quoted`.
-/

namespace ZoneArbiter.Text

/-- A character written by its code point, in the shortest form that holds it. -/
def codeEscape (c : Char) : List Char :=
  let code := c.toNat
  if code < 0x100 then ['\\', 'x'] ++ hexDigits 2 code
  else if code < 0x10000 then ['\\', 'u'] ++ hexDigits 4 code
  else ['\\', 'U'] ++ hexDigits 8 code

/-- A character as it stands between two of the quotes `quote`. -/
def escapeChar (quote c : Char) : List Char :=
  if c = quote ∨ c = '\\' then ['\\', c]
  else if c = '\n' then ['\\', 'n']
  else if c = '\r' then ['\\', 'r']
  else if c = '\t' then ['\\', 't']
  else if isPrintable c then [c]
  else codeEscape c

/-- The quote that a text takes. -/
def quoteFor (cs : List Char) : Char :=
  if '\'' ∈ cs ∧ '"' ∉ cs then '"' else '\''

/-- The text `cs` in quotes, as characters. -/
def quotedChars (cs : List Char) : List Char :=
  let quote := quoteFor cs
  quote :: cs.flatMap (escapeChar quote) ++ [quote]

/-- A text in quotes. -/
def quoted (s : String) : String := String.ofList (quotedChars s.toList)

/-! ### Quoted text stays on one line -/

theorem newline_ne_hexDigit {n : Nat} (h : n < 16) : '\n' ≠ hexDigit n := by
  revert h
  revert n
  decide

theorem newline_not_mem_hexDigits (width n : Nat) : '\n' ∉ hexDigits width n := by
  induction width generalizing n with
  | zero => simp [hexDigits]
  | succ width ih =>
      have h : '\n' ≠ hexDigit (n % 16) := newline_ne_hexDigit (Nat.mod_lt _ (by decide))
      simp [hexDigits, ih, h]

theorem newline_not_mem_codeEscape (c : Char) : '\n' ∉ codeEscape c := by
  unfold codeEscape
  dsimp only
  split
  · simp [newline_not_mem_hexDigits]
  · split <;> simp [newline_not_mem_hexDigits]

theorem newline_not_mem_escapeChar {quote : Char} (hquote : quote ≠ '\n') (c : Char) :
    '\n' ∉ escapeChar quote c := by
  unfold escapeChar
  split
  · rename_i h
    have hc : c ≠ '\n' := by
      rcases h with rfl | rfl
      · exact hquote
      · decide
    simp [Ne.symm hc]
  · split
    · simp
    · split
      · simp
      · split
        · simp
        · rename_i hn _ _
          split
          · simpa using fun h => hn h.symm
          · exact newline_not_mem_codeEscape c

theorem quoteFor_ne_newline (cs : List Char) : quoteFor cs ≠ '\n' := by
  unfold quoteFor
  split <;> decide

/-- Quoted text holds no line feed, whatever the text holds. -/
theorem newline_not_mem_quoted (s : String) : '\n' ∉ (quoted s).toList := by
  have hquote := quoteFor_ne_newline s.toList
  simp only [quoted, String.toList_ofList, quotedChars, List.cons_append, List.mem_cons,
    List.mem_append, List.mem_flatMap, List.not_mem_nil, or_false, not_or, not_exists, not_and]
  exact ⟨hquote.symm, fun c _ => newline_not_mem_escapeChar hquote c, hquote.symm⟩

end ZoneArbiter.Text
