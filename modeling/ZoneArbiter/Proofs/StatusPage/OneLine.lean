import ZoneArbiter.Arbiter.Overview

/-!
# ZoneArbiter.Proofs.StatusPage.OneLine

**What is shown stays on one line; what is printed need not.** Numbers, truth values, members of
families and texts in quotes hold no line feed, and neither does anything that is put together
from them: records, sequences, timestamps, causes. A printed text holds the line feeds that it
holds. Of the lines of a status page, only the one on the device's zone and those on changes of the
zone print a text.
-/

namespace ZoneArbiter

namespace Text

/-- The text holds no line feed. -/
def OneLine (s : String) : Prop := '\n' ∉ s.toList

instance : DecidablePred OneLine := fun s => inferInstanceAs (Decidable ('\n' ∉ s.toList))

/-- Text that is put together is one line if its parts are. -/
@[simp] theorem oneLine_append {s t : String} : OneLine (s ++ t) ↔ OneLine s ∧ OneLine t := by
  simp [OneLine]

/-! ### Single values -/

theorem newline_ne_of_isDigit {c : Char} (h : c.isDigit = true) : '\n' ≠ c := by
  rintro rfl
  exact absurd h (by decide)

@[simp] theorem oneLine_repr (n : Nat) : OneLine n.repr := by
  rw [OneLine, Nat.toList_repr]
  intro hmem
  have hdigit : '\n'.isDigit = true :=
    Nat.isDigit_of_mem_toDigits (by decide) (by decide) hmem
  exact newline_ne_of_isDigit hdigit rfl

@[simp] theorem oneLine_shownInt (n : Int) : OneLine (shownInt n) := by
  cases n with
  | ofNat n => exact oneLine_repr n
  | negSucc n => exact oneLine_append.mpr ⟨by decide, oneLine_repr (n + 1)⟩

@[simp] theorem oneLine_shownBool (b : Bool) : OneLine (shownBool b) := by
  cases b <;> decide

/-- Quoting escapes every line feed. -/
@[simp] theorem oneLine_quoted (s : String) : OneLine (quoted s) := newline_not_mem_quoted s

theorem oneLine_shownOption {α : Type} {shown : α → String} (h : ∀ a, OneLine (shown a))
    (a : Option α) : OneLine (shownOption shown a) := by
  cases a with
  | none => exact (by decide : OneLine absent)
  | some a => exact h a

/-- A printed text is as it is; only a missing one is sure to stay on its line. -/
theorem oneLine_printedText {s : Option String} :
    OneLine (printedText s) ↔ ∀ text ∈ s, OneLine text := by
  cases s with
  | none => exact iff_of_true (by decide : OneLine absent) (by simp)
  | some text => simp [printedText]

/-! ### Values put together -/

/-- What stands between items holds no line feed. -/
theorem oneLine_commaSeparated {items : List String} (h : ∀ item ∈ items, OneLine item) :
    OneLine (commaSeparated items) := by
  unfold commaSeparated
  induction items with
  | nil => decide
  | cons item rest ih =>
      have hitem : OneLine item := h item List.mem_cons_self
      have hrest := ih fun other hmem => h other (List.mem_cons_of_mem _ hmem)
      cases rest with
      | nil => simpa using hitem
      | cons next rest =>
          rw [String.intercalate_cons_cons, oneLine_append, oneLine_append]
          exact ⟨⟨hitem, by decide⟩, hrest⟩

theorem oneLine_shownTuple {items : List String} (h : ∀ item ∈ items, OneLine item) :
    OneLine (shownTuple items) := by
  unfold shownTuple
  split
  · simpa +decide using h
  · simpa +decide using oneLine_commaSeparated h

theorem oneLine_shownList {items : List String} (h : ∀ item ∈ items, OneLine item) :
    OneLine (shownList items) := by
  simpa +decide [shownList] using oneLine_commaSeparated h

theorem oneLine_shownMember {family member value : String} (hfamily : OneLine family)
    (hmember : OneLine member) (hvalue : OneLine value) :
    OneLine (shownMember family member value) := by
  simpa +decide [shownMember] using ⟨⟨hfamily, hmember⟩, hvalue⟩

/-- A record is shown on one line if all that it is made of is. -/
theorem oneLine_shownRecord {name : String} {fields : List (String × String)}
    (hname : OneLine name) (h : ∀ field ∈ fields, OneLine field.1 ∧ OneLine field.2) :
    OneLine (shownRecord name fields) := by
  have hfields : OneLine (commaSeparated (fields.map fun field => field.1 ++ "=" ++ field.2)) := by
    refine oneLine_commaSeparated fun item hmem => ?_
    obtain ⟨field, hfield, rfl⟩ := List.mem_map.mp hmem
    simpa +decide using h field hfield
  simpa +decide [shownRecord] using ⟨hname, hfields⟩

/-- Texts in quotes, in sequence. -/
theorem oneLine_of_mem_map_quoted {texts : List String} :
    ∀ item ∈ texts.map quoted, OneLine item := by
  intro item hmem
  obtain ⟨text, -, rfl⟩ := List.mem_map.mp hmem
  exact oneLine_quoted text

end Text

open Text

/-! ### Instants -/

theorem Calendar.oneLine_padded (width n : Nat) : OneLine (padded width n) := by
  have hzeros (count : Nat) : OneLine (String.ofList (List.replicate count '0')) := by
    simp [OneLine]
  simp [padded, hzeros]

theorem Calendar.oneLine_paddedInt (width : Nat) (n : Int) : OneLine (paddedInt width n) := by
  unfold paddedInt
  split <;> simp +decide [oneLine_padded]

/-- A time is digits and signs. -/
theorem Calendar.oneLine_timestamp (microseconds : Int) : OneLine (timestamp microseconds) := by
  unfold timestamp
  dsimp only
  split <;> simp +decide [Date.text, Moment.clock, oneLine_padded, oneLine_paddedInt]

/-! ### Records, suggestions and causes -/

theorem Configuration.oneLine_shown (c : Configuration) : OneLine c.shown :=
  oneLine_shownRecord (by decide) (by simp +decide [shownFields])

theorem Capability.oneLine_shown (c : Capability) : OneLine c.shown :=
  oneLine_shownMember (by decide) (by cases c <;> decide) (oneLine_quoted c.value)

theorem Capabilities.oneLine_shown (c : Capabilities) : OneLine c.shown :=
  oneLine_shownRecord (by decide) (by
    simp +decide [shownFields, Capability.oneLine_shown])

theorem MatchType.oneLine_shown (m : MatchType) : OneLine m.shown :=
  oneLine_shownMember (by decide) (by cases m <;> decide) (oneLine_quoted m.value)

theorem Quality.oneLine_shown (q : Quality) : OneLine q.shown :=
  oneLine_shownMember (by decide) (by cases q <;> decide) (oneLine_quoted q.value)

theorem Telephony.Score.oneLine_printed (score : Telephony.Score) : OneLine score.printed :=
  oneLine_repr score.rank

/-- A suggestion is shown with its zone quoted, whatever the zone is. -/
theorem TelephonySuggestion.oneLine_shown (s : TelephonySuggestion) : OneLine s.shown := by
  refine oneLine_shownRecord (by decide) ?_
  simp only [shownFields, List.forall_mem_cons]
  exact ⟨⟨by decide, oneLine_shownInt _⟩,
    ⟨by decide, oneLine_shownOption oneLine_quoted _⟩,
    ⟨by decide, oneLine_shownOption MatchType.oneLine_shown _⟩,
    ⟨by decide, oneLine_shownOption Quality.oneLine_shown _⟩,
    ⟨by decide, oneLine_shownTuple oneLine_of_mem_map_quoted⟩, by simp⟩

theorem GeoSuggestion.oneLine_shownZones (zones : List String) : OneLine (shownZones zones) :=
  oneLine_shownTuple oneLine_of_mem_map_quoted

theorem Reason.oneLine_text (reason : Reason) : OneLine reason.text := by
  cases reason with
  | telephonySuggestion slot => exact oneLine_append.mpr ⟨by decide, oneLine_shownInt slot⟩
  | _ => decide

/-- A cause quotes the zones that it names. -/
theorem Cause.oneLine_text (cause : Cause) : OneLine cause.text := by
  cases cause with
  | manual user => exact oneLine_append.mpr ⟨by decide, oneLine_shownInt user⟩
  | geolocation zones reason =>
      show OneLine (_ ++ GeoSuggestion.shownZones zones ++ _ ++ reason.text ++ _)
      simp only [oneLine_append]
      exact ⟨⟨⟨⟨by decide, GeoSuggestion.oneLine_shownZones zones⟩, by decide⟩,
        reason.oneLine_text⟩, by decide⟩
  | telephony slot score reason =>
      show OneLine (_ ++ shownInt slot ++ _ ++ score.printed ++ _ ++ reason.text ++ _)
      simp only [oneLine_append]
      exact ⟨⟨⟨⟨⟨⟨by decide, oneLine_shownInt slot⟩, by decide⟩,
        score.oneLine_printed⟩, by decide⟩, reason.oneLine_text⟩, by decide⟩

/-- A change of the zone stays on its line exactly if the zones that it prints do. -/
theorem ZoneChange.oneLine_statusLine {change : ZoneChange} :
    OneLine change.statusLine ↔
      OneLine change.zone ∧ ∀ previous ∈ change.previous, OneLine previous := by
  have htime : OneLine (Calendar.timestamp change.changedAt) := Calendar.oneLine_timestamp _
  have hcause : OneLine change.cause.text := change.cause.oneLine_text
  have hblank : OneLine " " := by decide
  have harrow : OneLine " -> " := by decide
  have hcolon : OneLine ": " := by decide
  show OneLine (Calendar.timestamp change.changedAt ++ " " ++ printedText change.previous ++
    " -> " ++ change.zone ++ ": " ++ change.cause.text) ↔ _
  simp only [oneLine_append, oneLine_printedText, htime, hcause, hblank, harrow, hcolon, true_and,
    and_true]
  exact and_comm

/-- A slot of the table takes one line, debug lines included, for they are quoted. -/
theorem Telephony.Table.oneLine_statusLine (entry : Int × TelephonySuggestion) :
    OneLine (statusLine entry) := by
  show OneLine (_ ++ shownInt entry.1 ++ _ ++ (score entry.2).printed ++ _ ++ entry.2.shown ++ _ ++
    shownList (entry.2.debug.map quoted))
  simp only [oneLine_append]
  refine ⟨⟨⟨⟨⟨⟨⟨?_, oneLine_shownInt _⟩, ?_⟩, Score.oneLine_printed _⟩, ?_⟩,
    entry.2.oneLine_shown⟩, ?_⟩, oneLine_shownList oneLine_of_mem_map_quoted⟩
  all_goals decide

/-- The lines on the current user print no text. -/
theorem Arbiter.oneLine_overviewOfUser {users : List Int} {c : Configuration} :
    ∀ line ∈ overviewOfUser users c, OneLine line := by
  have husers : OneLine (shownList (users.map shownInt)) := by
    refine oneLine_shownList fun item hmem => ?_
    obtain ⟨user, -, rfl⟩ := List.mem_map.mp hmem
    exact oneLine_shownInt user
  have hmode : OneLine c.mode.value := by cases c.mode <;> decide
  simp only [overviewOfUser, List.forall_mem_cons, oneLine_append]
  exact ⟨⟨by decide, oneLine_shownInt _⟩, ⟨by decide, husers⟩,
    ⟨by decide, c.oneLine_shown⟩, ⟨by decide, hmode⟩,
    ⟨by decide, c.capabilities.oneLine_shown⟩, by simp⟩

end ZoneArbiter
