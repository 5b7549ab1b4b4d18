import Mathlib.Algebra.Group.Int.Defs
import ZoneArbiter.Proofs.Json.ReadBack
import ZoneArbiter.Wire.Message

/-!
# ZoneArbiter.Proofs.Wire.RoundTrip — messages say all there is to a value

For each of the six kinds of message, the text of a value is read back as that value,
debug lines and the difference between nothing, `null` and what is empty included
(`messages_read_back`). One thing stands in the way: a reader takes numerals of at most
`Numeral.longest` characters, while a value may hold any integer, and the text of a value with
a longer one is refused (`overlong_slot_refused`). Readers that count a minus sign take one
digit less after it, and all of this holds of them as well as of those that do not
(`Numeral.Measure`).

No value that was accepted is of that sort. A numeral in the text was short enough to be
read, and so was a string that spells a number; a number with a point is taken only inside
64 bits. So a message that was accepted can be passed on any number of times and stays as
it is, however its sender had spelled it.

The argument has three parts for each kind: the fields of an encoded value are read one by
one, the encoded value is legible if its integer is, and an integer that was accepted is.
-/

namespace ZoneArbiter.Wire

namespace Checked

variable {α β : Type}

@[simp] theorem under_accepted (step : Step) (a : α) :
    (Checked.accepted a).under step = .accepted a := rfl

/-- Whatever is accepted has the property. -/
def Ensures (x : Checked α) (p : α → Prop) : Prop := ∀ a, x = .accepted a → p a

theorem Ensures.under {x : Checked α} {p : α → Prop} (h : x.Ensures p) (step : Step) :
    (x.under step).Ensures p := by
  intro a e
  cases x with
  | accepted b => exact h a e
  | rejected issues => contradiction

theorem Ensures.map {x : Checked α} {p : α → Prop} {q : β → Prop} (h : x.Ensures p) {f : α → β}
    (step : ∀ a, p a → q (f a)) : (f <$> x).Ensures q := by
  intro b e
  cases x with
  | accepted a =>
    cases e
    exact step a (h a rfl)
  | rejected issues => contradiction

/-- A further field says nothing about those before it. -/
theorem Ensures.seq {f : Checked (α → β)} {q : β → Prop} (h : f.Ensures fun g => ∀ a, q (g a))
    (x : Checked α) : (f <*> x).Ensures q := by
  intro b e
  cases f with
  | accepted g =>
    cases x with
    | accepted a =>
      cases e
      exact h g rfl a
    | rejected issues => contradiction
  | rejected issues => cases x <;> contradiction

end Checked

namespace Model

variable {α : Type}

/-- What is written is refused if it is not legible, and read by its fields otherwise. -/
theorem read_write [Numeral.Measure] (m : Model α) (a : α) :
    m.read (m.write a) =
      if (m.encode a).isLegible Json.nestingLimit then m.check (m.encode a)
      else .refuse .notJson := by
  rw [read, write, Json.parse?_compact]
  cases (m.encode a).isLegible Json.nestingLimit <;> rfl

/-- The message that a text holds, written anew. -/
def renew [Numeral.Measure] (m : Model α) (s : String) : Checked String := m.write <$> m.read s

/-- Nothing is lost between a value and its text, save that a text is refused for a
numeral that is too long; `short` tells the values that have none. -/
structure Faithful [Numeral.Measure] (m : Model α) (short : α → Bool) : Prop where
  /-- What is written is read back. -/
  reads_back : ∀ a, short a = true → m.read (m.write a) = .accepted a
  /-- What has a numeral that is too long is written as a text that no reader takes. -/
  refuses : ∀ a, short a = false → m.read (m.write a) = .rejected [⟨.notJson, []⟩]
  /-- What was accepted, from whatever text, is accepted again. -/
  settles : ∀ s a, m.read s = .accepted a → m.read (m.write a) = .accepted a
  /-- The text of what was accepted is the same when it is renewed. -/
  fixed : ∀ s t, m.renew s = .accepted t → m.renew t = .accepted t

/-- A text that is accepted holds an object, and the fields of it are accepted. -/
theorem fields_of_read [Numeral.Measure] {m : Model α} {s : String} {a : α}
    (h : m.read s = .accepted a) :
    ∃ fields, Json.parse? s = some (.object fields) ∧ m.fields fields = .accepted a := by
  rw [read] at h
  split at h
  · rename_i j parsed
    cases j with
    | object fields => exact ⟨fields, parsed, h⟩
    | _ => contradiction
  · contradiction

/-- What is to be known of a model: its fields are read as they were encoded, the encoded message
is legible if the value is short, and what is accepted is short. -/
theorem Faithful.of_fields [Numeral.Measure] {m : Model α} {short : α → Bool}
    (back : ∀ a, m.check (m.encode a) = .accepted a)
    (legible : ∀ a, (m.encode a).isLegible Json.nestingLimit = short a)
    (accepted : ∀ s fields, Json.parse? s = some (.object fields) →
      (m.fields fields).Ensures fun a => short a = true) : m.Faithful short := by
  have reads_back : ∀ a, short a = true → m.read (m.write a) = .accepted a := by
    intro a h
    rw [read_write, legible, if_pos h, back]
  have settles : ∀ s a, m.read s = .accepted a → m.read (m.write a) = .accepted a := by
    intro s a h
    obtain ⟨fields, parsed, read⟩ := fields_of_read h
    exact reads_back a (accepted s fields parsed a read)
  refine ⟨reads_back, ?_, settles, ?_⟩
  · intro a h
    rw [read_write, legible, h]
    rfl
  · intro s t h
    rw [renew] at h
    cases e : m.read s with
    | accepted a =>
      rw [e] at h
      cases h
      rw [renew, settles s a e]
      rfl
    | rejected issues =>
      rw [e] at h
      contradiction

end Model

/-! ### Reading what was encoded -/

/-- A value that may be missing is read as it was encoded, if it is when it is there. -/
theorem optional_ofOption {α : Type} {read : Json → Checked α} {encode : α → Json}
    (back : ∀ a, read (encode a) = .accepted a) (notNull : ∀ a, encode a ≠ .null)
    (a? : Option α) : optional read (.ofOption encode a?) = .accepted a? := by
  cases a? with
  | none => rfl
  | some a =>
    -- `null` stands for nothing, so it must not be what a value is encoded as.
    have e : optional read (encode a) = some <$> read (encode a) := by
      rw [optional]
      exact notNull a
    rw [Json.ofOption, e, back]
    rfl

@[simp] theorem integer_int [Numeral.Measure] (n : Int) : integer (.int n) = .accepted n := rfl

@[simp] theorem truth_bool (b : Bool) : truth (.bool b) = .accepted b := rfl

@[simp] theorem text_text (s : String) : text (.text s) = .accepted s := rfl

/-- Texts are read one by one, from whatever index on. -/
theorem items_texts (lines : List String) (index : Nat) :
    items text index (lines.map .text) = .accepted lines := by
  induction lines generalizing index with
  | nil => rfl
  | cons line lines ih => simp [items, ih]

@[simp] theorem list_texts (lines : List String) : list text (.texts lines) = .accepted lines :=
  items_texts lines 0

/-- Every capability is read back from its own spelling. -/
theorem capability_value (c : Capability) : capability (.text c.value) = .accepted c := by
  cases c <;> rfl

theorem matchType_value (m : MatchType) : matchType (.text m.value) = .accepted m := by
  cases m <;> rfl

theorem quality_value (q : Quality) : quality (.text q.value) = .accepted q := by
  cases q <;> rfl

/-- What is absent is written as null, and null is read as absent. -/
theorem optional_truth (b? : Option Bool) : optional truth (.ofOption .bool b?) = .accepted b? :=
  optional_ofOption truth_bool (by simp) b?

theorem optional_text (s? : Option String) : optional text (.ofOption .text s?) = .accepted s? :=
  optional_ofOption text_text (by simp) s?

/-- The fields of an encoded configuration are read as they were. -/
theorem configuration_check_encode [Numeral.Measure] (c : Configuration) :
    configurationModel.check (configurationModel.encode c) = .accepted c := by
  simp [configurationModel, Model.check, required, Json.lookup]

theorem change_check_encode (change : ConfigurationChange) :
    changeModel.check (changeModel.encode change) = .accepted change := by
  simp [changeModel, Model.check, defaulted, Json.lookup, optional_truth]

theorem capabilities_check_encode [Numeral.Measure] (caps : Capabilities) :
    capabilitiesModel.check (capabilitiesModel.encode caps) = .accepted caps := by
  simp [capabilitiesModel, Model.check, required, Json.lookup, capability_value]

/-- A suggestion of telephony is read back, whichever of its parts are absent. -/
theorem telephony_check_encode [Numeral.Measure] (s : TelephonySuggestion) :
    telephonyModel.check (telephonyModel.encode s) = .accepted s := by
  simp [telephonyModel, Model.check, required, defaulted, Json.lookup, optional_text,
    optional_ofOption, matchType_value, quality_value]

/-- A geolocation suggestion is read back: no list of zones and an empty one stay apart. -/
theorem geo_check_encode (s : GeoSuggestion) :
    geoModel.check (geoModel.encode s) = .accepted s := by
  have notNull : ∀ lines, Json.texts lines ≠ .null := by simp [Json.texts]
  simp [geoModel, Model.check, required, defaulted, Json.lookup, optional_ofOption, notNull]

theorem manual_check_encode (s : ManualSuggestion) :
    manualModel.check (manualModel.encode s) = .accepted s := by
  simp [manualModel, Model.check, required, Json.lookup]

/-! ### Messages are legible -/

/-- A value that is missing is legible. -/
theorem isLegible_ofOption [Numeral.Measure] {α : Type} (encode : α → Json) (levels : Nat)
    (a? : Option α) :
    (Json.ofOption encode a?).isLegible levels = a?.all fun a => (encode a).isLegible levels := by
  cases a? with
  | none => simp [Json.ofOption, Json.isLegible]
  | some a => rfl

theorem isLegible_text [Numeral.Measure] (levels : Nat) (s : String) :
    (Json.text s).isLegible levels = true := by
  simp [Json.isLegible]

theorem isLegible_texts [Numeral.Measure] (levels : Nat) (lines : List String) :
    (Json.texts lines).isLegible (levels + 1) = true := by
  simp [Json.texts, Json.isLegible_array, Json.isLegibleMember, isLegible_text]

/-- A message is legible if its fields are. They stand one level down. -/
theorem isLegible_message [Numeral.Measure] {fields : List (String × Json)} :
    (Json.object fields).isLegible Json.nestingLimit =
      fields.all fun field => field.2.isLegible 199 := by
  rw [Json.isLegible_object]
  rfl

/-- The one number of a configuration is its user. -/
theorem configuration_isLegible [Numeral.Measure] (c : Configuration) :
    (configurationModel.encode c).isLegible Json.nestingLimit = Numeral.isLegible c.user := by
  simp [configurationModel, isLegible_message, Json.isLegible]

/-- Settings hold no integer, so they are legible, whatever they are. -/
theorem change_isLegible [Numeral.Measure] (change : ConfigurationChange) :
    (changeModel.encode change).isLegible Json.nestingLimit = true := by
  simp [changeModel, isLegible_message, isLegible_ofOption, Json.isLegible]

/-- The only integer of capabilities is the user. -/
theorem capabilities_isLegible [Numeral.Measure] (caps : Capabilities) :
    (capabilitiesModel.encode caps).isLegible Json.nestingLimit =
      Numeral.isLegible caps.user := by
  simp [capabilitiesModel, isLegible_message, Json.isLegible]

/-- The one number of a suggestion of telephony is its slot. -/
theorem telephony_isLegible [Numeral.Measure] (s : TelephonySuggestion) :
    (telephonyModel.encode s).isLegible Json.nestingLimit = Numeral.isLegible s.slot := by
  have debug := isLegible_texts 198 s.debug
  simp [telephonyModel, isLegible_message, isLegible_ofOption, debug, Json.isLegible]

theorem geo_isLegible [Numeral.Measure] (s : GeoSuggestion) :
    (geoModel.encode s).isLegible Json.nestingLimit = true := by
  simp [geoModel, isLegible_message, isLegible_ofOption, isLegible_texts 198]

theorem manual_isLegible [Numeral.Measure] (s : ManualSuggestion) :
    (manualModel.encode s).isLegible Json.nestingLimit = true := by
  simp [manualModel, isLegible_message, isLegible_text]

/-! ### Integers that were accepted -/

/-- Inside 64 bits every integer is legible. -/
theorem isLegible_of_le [Numeral.Measure] {n : Int} (h : n.natAbs ≤ 2 ^ 63) :
    Numeral.isLegible n = true := by
  have hroom : 19 ≤ Numeral.longest - Numeral.signLength (n < 0) := by
    have hsign := Numeral.signLength_le (n < 0)
    rw [Numeral.longest]
    omega
  rw [Numeral.isLegible_iff]
  calc n.natAbs ≤ 2 ^ 63 := h
    _ < 10 ^ 19 := by decide
    _ ≤ 10 ^ (Numeral.longest - Numeral.signLength (n < 0)) :=
        Nat.pow_le_pow_right (by decide) hroom

/-- Without its underscores a numeral in a string is nothing but digits. -/
theorem plainDigits?_isDigit {cs ds : List Char} (h : plainDigits? cs = some ds) :
    ∀ c ∈ ds, c.isDigit = true := by
  fun_induction plainDigits? cs generalizing ds with
  | case1 => contradiction
  | case2 d digit =>
    cases h
    simpa using digit
  | case3 d notDigit => contradiction
  | case4 d rest digit ih | case6 d rest notLast notJoined digit ih =>
    obtain ⟨later, found, rfl⟩ := Option.map_eq_some_iff.mp h
    exact List.forall_mem_cons.mpr ⟨digit, ih found⟩
  | case5 d rest notDigit => contradiction
  | case7 d rest notLast notJoined notDigit => contradiction

/-- So it is legible if it is not too long after its sign. -/
theorem signedNumeral?_isLegible [Numeral.Measure] {negative : Bool} {cs : List Char} {n : Int}
    (h : signedNumeral? negative cs = some n) : Numeral.isLegible n = true := by
  simp only [signedNumeral?, Option.bind_eq_bind, Option.bind_eq_some_iff] at h
  obtain ⟨digits, plain, h⟩ := h
  split at h
  · contradiction
  split at h
  · contradiction
  rename_i noPadding short
  rw [← Option.some.inj h]
  exact Numeral.isLegible_of_fits
    (Json.fits_digitsValue (plainDigits?_isDigit plain) (by simpa using short))

/-- An integer in a string has to keep to the same bound as a numeral. -/
theorem integerOfText?_isLegible [Numeral.Measure] {s : String} {n : Int}
    (h : integerOfText? s = some n) : Numeral.isLegible n = true := by
  simp only [integerOfText?, Option.bind_eq_bind, Option.bind_eq_some_iff] at h
  obtain ⟨unpadded, -, whole, -, h⟩ := h
  split at h <;> exact signedNumeral?_isLegible h

/-- A number with a point is an integer inside 64 bits only. -/
theorem integerOfDecimal_isLegible [Numeral.Measure] {d : Decimal} {n : Int}
    (h : integerOfDecimal d = .accepted n) : Numeral.isLegible n = true := by
  rw [integerOfDecimal] at h
  split at h
  · contradiction
  split at h
  · contradiction
  split at h
  · rename_i near _ _ inside
    cases h
    apply isLegible_of_le
    simp only [Numeral.halfRange] at inside
    omega
  · contradiction

/-- An accepted integer is legible if it did not come from a numeral that is not. -/
theorem integer_isLegible [Numeral.Measure] {j : Json}
    (numeral : ∀ k, j = .int k → Numeral.isLegible k = true) :
    (integer j).Ensures fun n => Numeral.isLegible n = true := by
  intro n h
  cases j with
  | int k =>
    cases h
    exact numeral n rfl
  | bool b =>
    cases h
    apply isLegible_of_le
    cases b <;> decide
  | decimal d => exact integerOfDecimal_isLegible h
  | text s =>
    rw [integer] at h
    split at h
    · contradiction
    split at h
    · cases h
      exact integerOfText?_isLegible ‹_›
    · contradiction
  | null | word w | array items | object fields => contradiction

/-- A field that is found is one of the fields. -/
theorem mem_of_lookup {name : String} {fields : List (String × Json)} {j : Json}
    (h : Json.lookup name fields = some j) : (name, j) ∈ fields := by
  obtain ⟨field, found, rfl⟩ := Option.map_eq_some_iff.mp h
  have same : field.1 = name := by simpa using List.find?_some found
  rw [← same]
  exact List.mem_reverse.mp (List.mem_of_find?_eq_some found)

/-- An integer in a field of a message that was read is legible, however it was spelled. -/
theorem required_integer_isLegible [Numeral.Measure] {s : String} {fields : List (String × Json)}
    (h : Json.parse? s = some (.object fields)) (name : String) :
    (required integer fields name).Ensures fun n => Numeral.isLegible n = true := by
  intro n accepted
  rw [required] at accepted
  split at accepted
  · rename_i j found
    refine (integer_isLegible ?_).under _ n accepted
    rintro k rfl
    exact Json.isLegible_of_parse? h (mem_of_lookup found)
  · contradiction

/-! ### The six kinds of message -/

/-- **Messages read back.** Of each kind of message, what is written is read as what was
written, unless an integer is longer than a reader takes, and what was accepted from any
text is of a form that does not change any more. This is so whether or not the reader counts a
minus sign. -/
theorem messages_read_back [Numeral.Measure] :
    configurationModel.Faithful (fun c => Numeral.isLegible c.user) ∧
    changeModel.Faithful (fun _ => true) ∧
    capabilitiesModel.Faithful (fun caps => Numeral.isLegible caps.user) ∧
    telephonyModel.Faithful (fun s => Numeral.isLegible s.slot) ∧
    geoModel.Faithful (fun _ => true) ∧
    manualModel.Faithful (fun _ => true) := by
  refine ⟨?configuration, ?change, ?capabilities, ?telephony, ?geo, ?manual⟩
  case configuration =>
    refine .of_fields configuration_check_encode configuration_isLegible fun s fields h => ?_
    -- The integer is the first field; what is accepted there holds whatever the others are.
    have user := required_integer_isLegible h "user_id"
    exact .seq (.seq (.seq (.seq (.seq (user.map fun _ legible _ _ _ _ _ => legible) _) _) _) _) _
  case change =>
    exact .of_fields change_check_encode change_isLegible fun _ _ _ _ _ => rfl
  case capabilities =>
    refine .of_fields capabilities_check_encode capabilities_isLegible fun s fields h => ?_
    have user := required_integer_isLegible h "user_id"
    exact .seq (.seq (.seq (user.map fun _ legible _ _ _ => legible) _) _) _
  case telephony =>
    refine .of_fields telephony_check_encode telephony_isLegible fun s fields h => ?_
    have slot := required_integer_isLegible h "slot_index"
    exact .seq (.seq (.seq (.seq (slot.map fun _ legible _ _ _ _ => legible) _) _) _) _
  case geo =>
    exact .of_fields geo_check_encode geo_isLegible fun _ _ _ _ _ => rfl
  case manual =>
    exact .of_fields manual_check_encode manual_isLegible fun _ _ _ _ _ => rfl

/-- A suggestion of a negative slot with quotes, a backslash, a control character and lines that are
empty or break, and one of no zones that differs from one that says nothing of zones. -/
theorem messages_read_back_escaped :
    let s : TelephonySuggestion := ⟨-7, some "\"\\\x01é", none, some .singleZone, ["", "\n"]⟩
    let g : GeoSuggestion := ⟨some [], []⟩
    telephonyModel.read (telephonyModel.write s) = .accepted s ∧
      geoModel.read " \x7b\"zone_ids\": [ ]\x7d" = .accepted g ∧
      geoModel.read (geoModel.write g) = .accepted g := by
  obtain ⟨-, -, -, telephony, geo, -⟩ := messages_read_back
  have spaced : geoModel.read " \x7b\"zone_ids\": [ ]\x7d" = .accepted ⟨some [], []⟩ := by
    decide +kernel
  exact ⟨telephony.reads_back _ (by decide), spaced, geo.settles _ _ spaced⟩

/-- A value that would have to be read back if integers of any size were. No reader takes it,
whichever way it counts. -/
theorem overlong_slot_refused :
    let read (_ : Numeral.Measure) :=
      telephonyModel.read (telephonyModel.write { slot := 10 ^ Numeral.longest })
    read .digits = .rejected [⟨.notJson, []⟩] ∧ read .signToo = .rejected [⟨.notJson, []⟩] := by
  have size (k : Nat) : ((10 : Int) ^ k).natAbs = 10 ^ k := Int.natAbs_pow 10 k
  have overlong (_ : Numeral.Measure) : Numeral.isLegible (10 ^ Numeral.longest) = false := by
    rw [← Bool.not_eq_true, Numeral.isLegible_iff, size, Nat.not_lt]
    exact Nat.pow_le_pow_right (by decide) (Nat.sub_le _ _)
  have refused (_ : Numeral.Measure) :
      telephonyModel.read (telephonyModel.write { slot := 10 ^ Numeral.longest }) =
        .rejected [⟨.notJson, []⟩] := by
    rw [Model.read_write, telephony_isLegible]
    dsimp only
    rw [overlong, if_neg Bool.false_ne_true]
    rfl
  exact ⟨refused .digits, refused .signToo⟩

end ZoneArbiter.Wire
