import Mathlib.Tactic.SplitIfs
import ZoneArbiter.Proofs.Json.Numerals

/-!
# ZoneArbiter.Proofs.Json.ReadBack — the reader undoes the compact writer

A value that is written without blanks is read back as it was, unless one of its
numerals is longer than the reader takes or its arrays and objects stand too deep
inside each other; then its text is refused. `Json.isLegible` is that condition, and
`parse?_compact` says both at once. Strings are under no condition: every character
comes back, whether it is written raw or as an escape (`scanText_writeChars`).

The reader takes a value from the front of a longer text, so the statement that goes
through the induction is about a text with a rest behind it (`scanValue_write`). A
numeral would swallow digits that follow it, hence `Ends`: what follows a value
inside an array or an object is a comma or a closing bracket.
-/

namespace ZoneArbiter.Json

section Legible

variable [Numeral.Measure]

mutual

/-- Is the text of a value read back, with arrays and objects at most `levels` deep? -/
def isLegible : Nat → Json → Bool
  | _, .null | _, .bool _ | _, .word _ | _, .text _ => true
  | _, .int n => Numeral.isLegible n
  | _, .decimal d => Numeral.fits d.negative d.digits
  | _, .array [] | _, .object [] => true
  | 0, .array (_ :: _) | 0, .object (_ :: _) => false
  | levels + 1, .array items => isLegibleItems levels items
  | levels + 1, .object fields => isLegibleFields levels fields

/-- Are all items read back? -/
def isLegibleItems : Nat → List Json → Bool
  | _, [] => true
  | levels, item :: items => isLegible levels item && isLegibleItems levels items

/-- Are the values of all fields read back? -/
def isLegibleFields : Nat → List (String × Json) → Bool
  | _, [] => true
  | levels, (_, value) :: fields => isLegible levels value && isLegibleFields levels fields

end

end Legible

/-- An induction over values in which an array or object has the hypothesis for each
of its members. -/
@[elab_as_elim]
theorem members_induction {motive : Json → Prop} (null : motive .null)
    (bool : ∀ b, motive (.bool b)) (int : ∀ n, motive (.int n))
    (decimal : ∀ d, motive (.decimal d)) (word : ∀ w, motive (.word w))
    (text : ∀ s, motive (.text s))
    (array : ∀ items, (∀ item ∈ items, motive item) → motive (.array items))
    (object : ∀ fields, (∀ field ∈ fields, motive field.2) → motive (.object fields))
    (j : Json) : motive j :=
  @Json.rec motive (fun items => ∀ item ∈ items, motive item)
    (fun fields => ∀ field ∈ fields, motive field.2) (fun field => motive field.2)
    null bool int decimal word text array object
    (by simp) (by simp +contextual) (by simp) (by simp +contextual) (fun _ _ h => h) j

/-! ### Strings -/

theorem scanText_escape {c : Char} {cs rest : List Char} (h : scanEscape cs = some (c, rest))
    (fuel : Nat) :
    scanText (fuel + 1) ('\\' :: cs) =
      (scanText fuel rest).map fun found => (c :: found.1, found.2) := by
  simp only [scanText, if_neg (show '\\' ≠ '"' by decide), if_true, h, Option.bind_eq_bind,
    Option.bind_some]
  cases scanText fuel rest <;> rfl

theorem scanText_plain {c : Char} (notQuote : c ≠ '"') (notBackslash : c ≠ '\\')
    (notControl : ¬ c.toNat < 0x20) (fuel : Nat) (rest : List Char) :
    scanText (fuel + 1) (c :: rest) =
      (scanText fuel rest).map fun found => (c :: found.1, found.2) := by
  simp only [scanText, if_neg notQuote, if_neg notBackslash, if_neg notControl,
    Option.bind_eq_bind]
  cases scanText fuel rest <;> rfl

/-- The two digits after the zeros of a long escape. -/
theorem scanEscape_control {c : Char} (control : c.toNat < 0x20) (rest : List Char) :
    scanEscape ('u' :: '0' :: '0' :: Text.hexDigit (c.toNat / 16) ::
      Text.hexDigit (c.toNat % 16) :: rest) = some (c, rest) := by
  have high := Text.hexValue?_hexDigit (show c.toNat / 16 < 16 by omega)
  have low := Text.hexValue?_hexDigit (show c.toNat % 16 < 16 by omega)
  have zero : Text.hexValue? '0' = some 0 := by decide
  have unit : ((0 * 16 + 0) * 16 + c.toNat / 16) * 16 + c.toNat % 16 = c.toNat := by omega
  have basic : isTrailUnit c.toNat = false ∧ isLeadUnit c.toNat = false := by
    simp [isTrailUnit, isLeadUnit]
    omega
  simp only [scanEscape, scanCode, scanUnit, zero, high, low, Option.bind_eq_bind,
    Option.bind_some, unit, basic, Char.ofNat_toNat]
  rfl

/-- A character takes one round of the reader, whichever way it was written. -/
theorem scanText_writeChar (c : Char) (fuel : Nat) (rest : List Char) :
    scanText (fuel + 1) (writeChar c ++ rest) =
      (scanText fuel rest).map fun found => (c :: found.1, found.2) := by
  unfold writeChar
  -- One case for each branch of the writer: seven short escapes, the long one, and none.
  split_ifs with quote backslash lineFeed carriage tab backspace formFeed control
  · exact scanText_escape (by subst quote; rfl) fuel
  · exact scanText_escape (by subst backslash; rfl) fuel
  · exact scanText_escape (by subst lineFeed; rfl) fuel
  · exact scanText_escape (by subst carriage; rfl) fuel
  · exact scanText_escape (by subst tab; rfl) fuel
  · exact scanText_escape (by rw [← Char.ofNat_toNat c, backspace]; rfl) fuel
  · exact scanText_escape (by rw [← Char.ofNat_toNat c, formFeed]; rfl) fuel
  · exact scanText_escape (scanEscape_control control rest) fuel
  · exact scanText_plain quote backslash control fuel rest

/-- Text is read back from its escapes, up to the quote that ends it. -/
theorem scanText_writeChars (cs : List Char) {fuel : Nat} (room : cs.length < fuel)
    (rest : List Char) :
    scanText fuel (cs.flatMap writeChar ++ '"' :: rest) = some (cs, rest) := by
  induction cs generalizing fuel with
  | nil =>
    obtain ⟨fuel, rfl⟩ := Nat.exists_eq_add_of_lt room
    simp [scanText]
  | cons c cs ih =>
    obtain ⟨fuel, rfl⟩ : ∃ left, fuel = left + 1 := ⟨fuel - 1, by grind⟩
    rw [List.flatMap_cons, List.append_assoc, scanText_writeChar, ih (by grind)]
    rfl

/-! ### How a value starts -/

theorem skipBlanks_cons {c : Char} (h : isBlank c = false) (rest : List Char) :
    skipBlanks (c :: rest) = c :: rest := by
  simp [skipBlanks, h]

/-- The reader of the members of an array or object; where none may stand, it takes
nothing. -/
def scanMember [Numeral.Measure] (fuel : Nat) : Nat → List Char → Option (Json × List Char)
  | 0 => fun _ => none
  | levels + 1 => scanValue fuel levels

theorem scanValue_quote [Numeral.Measure] (fuel levels : Nat) (rest : List Char) :
    scanValue fuel levels ('"' :: rest) =
      (scanText fuel rest).map fun found => (.text (String.ofList found.1), found.2) := by
  rw [scanValue, skipBlanks_cons (by decide)]
  rfl

theorem scanValue_bracket [Numeral.Measure] (fuel levels : Nat) (rest : List Char) :
    scanValue fuel levels ('[' :: rest) = scanArray (scanMember fuel levels) fuel rest := by
  rw [scanValue, skipBlanks_cons (by decide)]
  cases levels <;> rfl

theorem scanValue_brace [Numeral.Measure] (fuel levels : Nat) (rest : List Char) :
    scanValue fuel levels (Char.ofNat 0x7b :: rest) =
      scanObject (scanMember fuel levels) fuel rest := by
  rw [scanValue, skipBlanks_cons (by decide)]
  cases levels <;> rfl

theorem scanValue_scalar [Numeral.Measure] {c : Char} (notBlank : isBlank c = false)
    (notQuote : c ≠ '"') (notBracket : c ≠ '[') (notBrace : c.toNat ≠ 0x7b) (fuel levels : Nat)
    (rest : List Char) : scanValue fuel levels (c :: rest) = scanScalar (c :: rest) := by
  rw [scanValue, skipBlanks_cons notBlank]
  simp only [if_neg notQuote, if_neg notBracket, if_neg notBrace]

/-! ### Values without members -/

theorem dropWord?_of_isDigit {d : Char} (digit : d.isDigit = true) {word : List Char}
    (letter : word.head?.map Char.isDigit = some false) (rest : List Char) :
    dropWord? word (d :: rest) = none := by
  cases word with
  | nil => contradiction
  | cons w word =>
    have other : w ≠ d := (ne_of_isDigit digit (by simpa using letter)).symm
    simp [dropWord?, other]

/-- A number starts like no word, whether it has a sign or not. -/
theorem scanScalar_number [Numeral.Measure] (negative : Bool) {d : Char} (digit : d.isDigit = true)
    (rest : List Char) :
    scanScalar ((if negative then ['-'] else []) ++ d :: rest) =
      scanUnsigned negative (d :: rest) := by
  cases negative with
  | true =>
    -- One word has a sign as well, so here the second character decides.
    have notInfinity : 'I' ≠ d := (ne_of_isDigit digit (by decide)).symm
    simp [scanScalar, scanNumber, dropWord?, notInfinity]
  | false =>
    have noSign : ∀ after, d :: rest = '-' :: after → False := fun after e =>
      ne_of_isDigit digit (by decide) (List.cons.inj e).1
    show scanScalar (d :: rest) = scanUnsigned false (d :: rest)
    simp (disch := decide) only [scanScalar, dropWord?_of_isDigit digit]
    rw [scanNumber]
    · simp (disch := decide) only [dropWord?_of_isDigit digit]
    · exact noSign

/-- A digit, after a minus sign or not, can only start a number. -/
theorem scanValue_number [Numeral.Measure] (negative : Bool) {d : Char} (digit : d.isDigit = true)
    (fuel levels : Nat) (rest : List Char) :
    scanValue fuel levels ((if negative then ['-'] else []) ++ d :: rest) =
      scanUnsigned negative (d :: rest) := by
  rw [← scanScalar_number negative digit rest]
  cases negative with
  | true => exact scanValue_scalar (by decide) (by decide) (by decide) (by decide) ..
  | false =>
    refine scanValue_scalar ?_ (ne_of_isDigit digit (by decide)) (ne_of_isDigit digit (by decide))
      ?_ ..
    · simp [isBlank, ne_of_isDigit digit]
    · intro brace
      rw [← Char.ofNat_toNat d, brace] at digit
      exact absurd digit (by decide)

theorem writeInt_eq (n : Int) :
    writeInt n = (if decide (n < 0) then ['-'] else []) ++ Nat.toDigits 10 n.natAbs := by
  by_cases below : n < 0 <;> simp [writeInt, below]

/-- The text of a value starts with no blank, and not like the end of an array. -/
theorem write_eq_cons (j : Json) :
    ∃ c cs, j.write .compact = c :: cs ∧ isBlank c = false ∧ c ≠ ']' := by
  have number (negative : Bool) (n : Nat) (cs : List Char) :
      ∃ d ds, (if negative then ['-'] else []) ++ Nat.toDigits 10 n ++ cs = d :: ds ∧
        isBlank d = false ∧ d ≠ ']' := by
    obtain ⟨d, ds, e, digit⟩ := toDigits_eq_cons n
    cases negative with
    | true => exact ⟨'-', _, rfl, by decide, by decide⟩
    | false =>
      exact ⟨d, ds ++ cs, by simp [e], by simp [isBlank, ne_of_isDigit digit],
        ne_of_isDigit digit (by decide)⟩
  cases j with
  | null => exact ⟨'n', _, rfl, by decide, by decide⟩
  | bool b => cases b <;> exact ⟨_, _, rfl, by decide, by decide⟩
  | int n => simpa [write, writeInt_eq] using number (decide (n < 0)) n.natAbs []
  | decimal d =>
    simpa [write, writeDecimal] using
      number d.negative d.digits ('e' :: writeInt d.exponent)
  | word w => cases w <;> exact ⟨_, _, rfl, by decide, by decide⟩
  | text s => exact ⟨'"', _, rfl, by decide, by decide⟩
  | array items => cases items <;> exact ⟨'[', _, rfl, by decide, by decide⟩
  | object fields => cases fields <;> exact ⟨Char.ofNat 0x7b, _, rfl, by decide, by decide⟩

/-! ### Arrays and objects -/

/-- A reader takes a written value from the front of a text, or refuses it if it is not
one to be taken. -/
def Takes (read : List Char → Option (Json × List Char)) (ok : Json → Bool) (j : Json) : Prop :=
  ∀ rest, Ends rest →
    read (j.write .compact ++ rest) = if ok j then some (j, rest) else none

section

variable {read : List Char → Option (Json × List Char)} {ok : Json → Bool}

theorem ends_comma (rest : List Char) : Ends (',' :: rest) := by
  rintro c ⟨rfl⟩
  exact .inl rfl

theorem ends_bracket (rest : List Char) : Ends (']' :: rest) := by
  rintro c ⟨rfl⟩
  exact .inr (.inl rfl)

theorem ends_brace (rest : List Char) : Ends (Char.ofNat 0x7d :: rest) := by
  rintro c ⟨rfl⟩
  exact .inr (.inr rfl)

@[simp] theorem compact_comma : Layout.compact.comma = [','] := rfl

@[simp] theorem compact_colon : Layout.compact.colon = [':'] := rfl

/-- Items are read back if all of them are legible, and refused otherwise. -/
theorem scanItems_write {item : Json} {items : List Json}
    (takes : ∀ j ∈ item :: items, Takes read ok j) {rounds : Nat}
    (room : (writeItems .compact items).length < rounds) (rest : List Char) :
    scanItems read rounds (item.write .compact ++ (writeItems .compact items ++ ']' :: rest)) =
      if (item :: items).all ok then some (item :: items, rest) else none := by
  obtain ⟨rounds, rfl⟩ : ∃ left, rounds = left + 1 := ⟨rounds - 1, by omega⟩
  induction items generalizing item rounds with
  | nil =>
    rw [scanItems, writeItems, List.nil_append, takes item (by simp) _ (ends_bracket rest)]
    cases h : ok item <;> simp (disch := decide) [h, skipBlanks_cons]
  | cons next items ih =>
    simp only [writeItems, compact_comma, List.length_append, List.length_singleton] at room
    obtain ⟨rounds, rfl⟩ : ∃ left, rounds = left + 1 := ⟨rounds - 1, by omega⟩
    have tail := ih (fun j (h : j ∈ next :: items) => takes j (.tail _ h)) rounds (by omega)
    rw [scanItems, writeItems]
    simp only [compact_comma, List.append_assoc, List.cons_append, List.nil_append]
    rw [takes item (by simp) _ (ends_comma _)]
    -- An item that is refused ends the scan; one that is taken leaves the comma behind it.
    cases first : ok item with
    | false => simp [first]
    | true =>
      rw [List.all_cons, first, Bool.true_and]
      simp (disch := decide) only [if_true, Option.bind_eq_bind, Option.bind_some,
        skipBlanks_cons, tail]
      cases (next :: items).all ok <;> rfl

theorem scanArray_write {item : Json} {items : List Json}
    (takes : ∀ j ∈ item :: items, Takes read ok j) {fuel : Nat}
    (room : (writeItems .compact items).length < fuel) (rest : List Char) :
    scanArray read fuel (item.write .compact ++ (writeItems .compact items ++ ']' :: rest)) =
      if (item :: items).all ok then some (.array (item :: items), rest) else none := by
  obtain ⟨c, cs, e, notBlank, notBracket⟩ := write_eq_cons item
  have found := scanItems_write takes room rest
  rw [e, List.cons_append] at found ⊢
  rw [scanArray, skipBlanks_cons notBlank]
  split
  · rename_i closed
    exact absurd (List.cons.inj closed).1 notBracket
  · rw [found]
    cases (item :: items).all ok <;> rfl

/-- A field is read back if its value is legible. -/
theorem scanField_write {name : String} {value : Json} (takes : Takes read ok value) {fuel : Nat}
    (room : name.toList.length < fuel) {rest : List Char} (ends : Ends rest) :
    scanField read fuel (writeText name ++ (':' :: (value.write .compact ++ rest))) =
      if ok value then some ((name, value), rest) else none := by
  have text := scanText_writeChars name.toList room (':' :: (value.write .compact ++ rest))
  simp (disch := decide) only [writeText, scanField, List.cons_append, List.append_assoc,
    List.nil_append, skipBlanks_cons, text, Option.bind_eq_bind, Option.bind_some,
    takes rest ends]
  cases ok value <;> simp

theorem length_writeChar_pos (c : Char) : 0 < (writeChar c).length := by
  unfold writeChar
  split_ifs <;> simp

theorem length_le_writeText (s : String) : s.toList.length + 2 ≤ (writeText s).length := by
  have chars : ∀ cs : List Char, cs.length ≤ (cs.flatMap writeChar).length := by
    intro cs
    induction cs with
    | nil => simp
    | cons c cs ih =>
      have := length_writeChar_pos c
      simp only [List.flatMap_cons, List.length_append, List.length_cons]
      omega
  have := chars s.toList
  simp only [writeText, List.length_append, List.length_cons, List.length_nil]
  omega

/-- The rounds that are left also bound the name of the next field, so the names count here. -/
theorem scanFields_write {name : String} {value : Json} {fields : List (String × Json)}
    (takes : ∀ field ∈ (name, value) :: fields, Takes read ok field.2) {rounds : Nat}
    (room : name.toList.length + (writeFields .compact fields).length + 1 < rounds)
    (rest : List Char) :
    scanFields read rounds (writeText name ++ (':' :: (value.write .compact ++
        (writeFields .compact fields ++ Char.ofNat 0x7d :: rest)))) =
      if ((name, value) :: fields).all fun field => ok field.2 then
        some ((name, value) :: fields, rest) else none := by
  obtain ⟨rounds, rfl⟩ : ∃ left, rounds = left + 1 := ⟨rounds - 1, by omega⟩
  have takesValue : Takes read ok value := takes (name, value) (by simp)
  induction fields generalizing name value rounds with
  | nil =>
    rw [scanFields, writeFields, List.nil_append,
      scanField_write takesValue (by omega) (ends_brace rest)]
    cases h : ok value <;> simp (disch := decide) [h, skipBlanks_cons]
  | cons next fields ih =>
    obtain ⟨nextName, nextValue⟩ := next
    have size := length_le_writeText nextName
    have shorter : nextName.toList.length + (writeFields .compact fields).length + 1 < rounds := by
      simp only [writeFields, compact_comma, compact_colon, List.length_append,
        List.length_singleton] at room
      omega
    obtain ⟨rounds, rfl⟩ : ∃ left, rounds = left + 1 := ⟨rounds - 1, by omega⟩
    have tail := ih
      (fun field (h : field ∈ (nextName, nextValue) :: fields) => takes field (.tail _ h))
      rounds shorter (takes (nextName, nextValue) (by simp))
    rw [scanFields, writeFields]
    simp only [compact_comma, compact_colon, List.append_assoc, List.cons_append, List.nil_append]
    rw [scanField_write takesValue (by omega) (ends_comma _)]
    cases first : ok value with
    | false => simp [first]
    | true =>
      rw [List.all_cons, first, Bool.true_and]
      simp (disch := decide) only [if_true, Option.bind_eq_bind, Option.bind_some,
        skipBlanks_cons, tail]
      cases ((nextName, nextValue) :: fields).all fun field => ok field.2 <;> rfl

/-- An object is read back if the values of all its fields are legible. -/
theorem scanObject_write {name : String} {value : Json} {fields : List (String × Json)}
    (takes : ∀ field ∈ (name, value) :: fields, Takes read ok field.2) {fuel : Nat}
    (room : name.toList.length + (writeFields .compact fields).length + 1 < fuel)
    (rest : List Char) :
    scanObject read fuel (writeText name ++ (':' :: (value.write .compact ++
        (writeFields .compact fields ++ Char.ofNat 0x7d :: rest)))) =
      if ((name, value) :: fields).all fun field => ok field.2 then
        some (.object ((name, value) :: fields), rest) else none := by
  have found := scanFields_write takes room rest
  simp only [writeText, List.cons_append] at found ⊢
  rw [scanObject, skipBlanks_cons (by decide)]
  simp only [if_neg (show ¬ '"'.toNat = 0x7d by decide), found]
  cases ((name, value) :: fields).all fun field => ok field.2 <;> rfl

end

/-! ### Values -/

/-- What `isLegible` asks of the members of an array or object. -/
def isLegibleMember [Numeral.Measure] : Nat → Json → Bool
  | 0 => fun _ => false
  | levels + 1 => isLegible levels

theorem isLegibleItems_eq [Numeral.Measure] (levels : Nat) (items : List Json) :
    isLegibleItems levels items = items.all (isLegible levels) := by
  induction items with
  | nil => simp [isLegibleItems]
  | cons item items ih => simp [isLegibleItems, ih]

theorem isLegibleFields_eq [Numeral.Measure] (levels : Nat) (fields : List (String × Json)) :
    isLegibleFields levels fields = fields.all fun field => isLegible levels field.2 := by
  induction fields with
  | nil => simp [isLegibleFields]
  | cons field fields ih => simp [isLegibleFields, ih]

/-- An array is legible if its items are, one level further down. -/
theorem isLegible_array [Numeral.Measure] (levels : Nat) (items : List Json) :
    isLegible levels (.array items) = items.all (isLegibleMember levels) := by
  cases levels <;> cases items <;> simp [isLegible, isLegibleItems_eq, isLegibleMember]

/-- An object is legible if its fields are, one level further down. -/
theorem isLegible_object [Numeral.Measure] (levels : Nat) (fields : List (String × Json)) :
    isLegible levels (.object fields) = fields.all fun field => isLegibleMember levels field.2 := by
  cases levels <;> cases fields <;> simp [isLegible, isLegibleFields_eq, isLegibleMember]

/-- One level down the same is read, as long as there are levels left. -/
theorem takes_member [Numeral.Measure] {fuel : Nat} {j : Json}
    (takes : ∀ levels, Takes (scanValue fuel levels) (isLegible levels) j) (levels : Nat) :
    Takes (scanMember fuel levels) (isLegibleMember levels) j := by
  cases levels with
  | zero => exact fun _ _ => rfl
  | succ levels => exact takes levels

theorem length_writeItems {item : Json} {items : List Json} (h : item ∈ items) :
    (item.write .compact).length < (writeItems .compact items).length := by
  induction items with
  | nil => simp at h
  | cons first items ih =>
    simp only [writeItems, compact_comma, List.length_append, List.length_singleton]
    rcases List.mem_cons.mp h with rfl | later
    · omega
    · have := ih later
      omega

theorem length_writeFields {field : String × Json} {fields : List (String × Json)}
    (h : field ∈ fields) :
    (field.2.write .compact).length < (writeFields .compact fields).length := by
  induction fields with
  | nil => simp at h
  | cons first fields ih =>
    simp only [writeFields, compact_comma, compact_colon, List.length_append,
      List.length_singleton]
    rcases List.mem_cons.mp h with rfl | later
    · omega
    · have := ih later
      omega

/-- **The reader takes what was written, and takes it exactly if it is legible.** -/
theorem scanValue_write [Numeral.Measure] (j : Json) {fuel : Nat}
    (room : (j.write .compact).length ≤ fuel) (levels : Nat) :
    Takes (scanValue fuel levels) (isLegible levels) j := by
  induction j using members_induction generalizing levels with
  | null =>
    intro rest _
    exact scanValue_scalar (by decide) (by decide) (by decide) (by decide) ..
  | bool b =>
    intro rest _
    cases b <;> exact scanValue_scalar (by decide) (by decide) (by decide) (by decide) ..
  | int n =>
    intro rest ends
    obtain ⟨d, ds, e, digit⟩ := toDigits_eq_cons n.natAbs
    have value : (if decide (n < 0) then -(n.natAbs : Int) else n.natAbs) = n := by
      split <;> grind
    rw [write, writeInt_eq, isLegible, List.append_assoc, e, List.cons_append,
      scanValue_number _ digit, ← List.cons_append, ← e, scanUnsigned_toDigits _ _ ends, value,
      Numeral.isLegible]
  | decimal d =>
    intro rest ends
    obtain ⟨c, cs, e, digit⟩ := toDigits_eq_cons d.digits
    rw [write, writeDecimal, isLegible, List.append_assoc, List.append_assoc, e, List.cons_append,
      scanValue_number _ digit, ← List.cons_append, ← e]
    exact scanUnsigned_decimal d.negative d.digits d.exponent ends
  | word w =>
    intro rest _
    cases w <;> exact scanValue_scalar (by decide) (by decide) (by decide) (by decide) ..
  | text s =>
    intro rest _
    have size := length_le_writeText s
    rw [write] at room
    have text : scanText fuel (s.toList.flatMap writeChar ++ '"' :: rest) = some (s.toList, rest) :=
      scanText_writeChars s.toList (by omega) rest
    simp only [write, writeText, List.cons_append, List.append_assoc, List.nil_append,
      scanValue_quote, text, Option.map_some, String.ofList_toList, isLegible, if_true]
  | array items ih =>
    -- The text of an item is part of the whole, so there is room for it as well; this and the
    -- level are all that the hypotheses ask for.
    intro rest _
    cases items with
    | nil => exact scanValue_bracket ..
    | cons item items =>
      simp only [write, List.cons_append, List.length_cons, List.length_append] at room
      have takes : ∀ j ∈ item :: items,
          Takes (scanMember fuel levels) (isLegibleMember levels) j := by
        intro j member
        refine takes_member (ih j member ?_) levels
        rcases List.mem_cons.mp member with rfl | later
        · omega
        · have := length_writeItems later
          omega
      simp only [write, List.cons_append, List.append_assoc, List.nil_append, scanValue_bracket]
      rw [scanArray_write takes (by omega), isLegible_array]
  | object fields ih =>
    intro rest _
    cases fields with
    | nil => exact scanValue_brace ..
    | cons field fields =>
      obtain ⟨name, value⟩ := field
      have size := length_le_writeText name
      simp only [write, compact_colon, List.cons_append, List.length_cons, List.length_append,
        List.length_nil] at room
      have takes : ∀ field ∈ (name, value) :: fields,
          Takes (scanMember fuel levels) (isLegibleMember levels) field.2 := by
        intro field member
        refine takes_member (ih field member ?_) levels
        rcases List.mem_cons.mp member with rfl | later
        · dsimp only
          omega
        · have := length_writeFields later
          omega
      simp only [write, compact_colon, List.cons_append, List.append_assoc, List.nil_append,
        scanValue_brace]
      rw [scanObject_write takes (by omega), isLegible_object]

/-- **Reading undoes writing**, on the values that are legible and on no others. -/
theorem parse?_compact [Numeral.Measure] (j : Json) :
    parse? j.compact = if j.isLegible nestingLimit then some j else none := by
  have taken := scanValue_write j (Nat.le_succ _) nestingLimit [] (by simp [Ends])
  rw [List.append_nil] at taken
  rw [parse?, compact, String.toList_ofList, parseChars, taken]
  cases j.isLegible nestingLimit <;> rfl

/-! ### Integers that were read -/

theorem scanArray_eq {read : List Char → Option (Json × List Char)} {fuel : Nat}
    {cs rest : List Char} {j : Json} (h : scanArray read fuel cs = some (j, rest)) :
    ∃ items, j = .array items := by
  rw [scanArray] at h
  split at h
  · exact ⟨[], (Prod.mk.inj (Option.some.inj h)).1.symm⟩
  · obtain ⟨found, -, e⟩ := Option.map_eq_some_iff.mp h
    exact ⟨found.1, (Prod.mk.inj e).1.symm⟩

theorem scanObject_eq {read : List Char → Option (Json × List Char)} {fuel : Nat}
    {cs rest : List Char} {j : Json} (h : scanObject read fuel cs = some (j, rest)) :
    ∃ fields, j = .object fields ∧
      (fields = [] ∨ ∃ cs, scanFields read fuel cs = some (fields, rest)) := by
  rw [scanObject] at h
  split at h
  · contradiction
  split at h
  · exact ⟨[], (Prod.mk.inj (Option.some.inj h)).1.symm, .inl rfl⟩
  · obtain ⟨found, scanned, e⟩ := Option.map_eq_some_iff.mp h
    obtain ⟨rfl, rfl⟩ := Prod.mk.inj e
    exact ⟨found.1, rfl, .inr ⟨_, scanned⟩⟩

/-- What a value can have been read as, by the character that it starts with. -/
theorem scanValue_cases [Numeral.Measure] {fuel levels : Nat} {cs rest : List Char} {j : Json}
    (h : scanValue fuel levels cs = some (j, rest)) :
    (∃ s, j = .text s) ∨ (∃ cs, scanArray (scanMember fuel levels) fuel cs = some (j, rest)) ∨
      (∃ cs, scanObject (scanMember fuel levels) fuel cs = some (j, rest)) ∨
      ∃ cs, scanScalar cs = some (j, rest) := by
  rw [scanValue] at h
  split at h
  · contradiction
  rename_i c afterFirst _
  split_ifs at h with quote bracket brace
  · obtain ⟨found, -, e⟩ := Option.map_eq_some_iff.mp h
    exact .inl ⟨_, (Prod.mk.inj e).1.symm⟩
  · refine .inr (.inl ⟨afterFirst, ?_⟩)
    cases levels <;> exact h
  · refine .inr (.inr (.inl ⟨afterFirst, ?_⟩))
    cases levels <;> exact h
  · exact .inr (.inr (.inr ⟨_, h⟩))

/-- An integer that was read is legible, wherever it stood. -/
theorem isLegible_of_scanValue [Numeral.Measure] {fuel levels : Nat} {cs rest : List Char} {n : Int}
    (h : scanValue fuel levels cs = some (.int n, rest)) : Numeral.isLegible n = true := by
  obtain ⟨s, e⟩ | ⟨cs, array⟩ | ⟨cs, object⟩ | ⟨cs, scalar⟩ := scanValue_cases h
  · contradiction
  · obtain ⟨items, e⟩ := scanArray_eq array
    contradiction
  · obtain ⟨fields, e, -⟩ := scanObject_eq object
    contradiction
  · exact isPlain_of_scanScalar scalar

theorem isLegible_of_scanMember [Numeral.Measure] {fuel levels : Nat} {cs rest : List Char}
    {n : Int} (h : scanMember fuel levels cs = some (.int n, rest)) :
    Numeral.isLegible n = true := by
  cases levels with
  | zero => contradiction
  | succ levels => exact isLegible_of_scanValue h

theorem scanField_value {read : List Char → Option (Json × List Char)} {fuel : Nat}
    {cs rest : List Char} {field : String × Json}
    (h : scanField read fuel cs = some (field, rest)) :
    ∃ cs, read cs = some (field.2, rest) := by
  rw [scanField] at h
  split at h
  · simp only [Option.bind_eq_bind, Option.bind_eq_some_iff, Prod.exists] at h
    obtain ⟨name, afterName, -, h⟩ := h
    split at h
    · simp only [Option.bind_eq_some_iff, Prod.exists] at h
      obtain ⟨value, afterValue, found, e⟩ := h
      obtain ⟨rfl, rfl⟩ := Prod.mk.inj (Option.some.inj e)
      exact ⟨_, found⟩
    · contradiction
  · contradiction

/-- Every field that was read has a value that was read. -/
theorem scanFields_values {read : List Char → Option (Json × List Char)} {rounds : Nat}
    {cs rest : List Char} {fields : List (String × Json)}
    (h : scanFields read rounds cs = some (fields, rest)) :
    ∀ field ∈ fields, ∃ cs rest, read cs = some (field.2, rest) := by
  induction rounds generalizing cs rest fields with
  | zero => contradiction
  | succ rounds ih =>
    simp only [scanFields, Option.bind_eq_bind, Option.bind_eq_some_iff, Prod.exists] at h
    obtain ⟨name, value, afterField, first, h⟩ := h
    obtain ⟨text, found⟩ := scanField_value first
    split at h
    · split_ifs at h with comma brace
      · simp only [Option.bind_eq_some_iff, Prod.exists] at h
        obtain ⟨later, afterLater, scanned, e⟩ := h
        obtain ⟨rfl, rfl⟩ := Prod.mk.inj (Option.some.inj e)
        exact List.forall_mem_cons.mpr ⟨⟨_, _, found⟩, ih scanned⟩
      · obtain ⟨rfl, rfl⟩ := Prod.mk.inj (Option.some.inj h)
        exact List.forall_mem_cons.mpr ⟨⟨_, _, found⟩, by simp⟩
    · contradiction

/-- An integer in a field of a message can be written and read once more. -/
theorem isLegible_of_parse? [Numeral.Measure] {s : String} {fields : List (String × Json)}
    (h : parse? s = some (.object fields)) {name : String} {n : Int}
    (member : (name, .int n) ∈ fields) : Numeral.isLegible n = true := by
  rw [parse?, parseChars] at h
  split at h
  · rename_i value rest scanned
    split_ifs at h with blank
    -- Only an opening brace starts an object, and its fields were read by the reader of members.
    obtain rfl := Option.some.inj h
    obtain ⟨s, e⟩ | ⟨cs, array⟩ | ⟨cs, object⟩ | ⟨cs, scalar⟩ := scanValue_cases scanned
    · contradiction
    · obtain ⟨items, e⟩ := scanArray_eq array
      contradiction
    · obtain ⟨found, e, rfl | ⟨cs, scannedFields⟩⟩ := scanObject_eq object
      · simp_all
      · cases e
        obtain ⟨cs, rest, read⟩ := scanFields_values scannedFields _ member
        exact isLegible_of_scanMember read
    · exact (isPlain_of_scanScalar scalar).elim
  · contradiction

end ZoneArbiter.Json
