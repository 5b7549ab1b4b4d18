import ZoneArbiter.Arbiter.Basic

/-!
# ZoneArbiter.Proofs.DebugLines.Plain — what is left without debug lines

`plain` takes the debug lines off a suggestion, off a table of suggestions and off the memory of an
arbiter. **Two suggestions agree exactly if they are the same without debug lines** (`agrees_iff`),
so that agreement can be reasoned about as an equation, and what a table answers without debug lines
is what the table without debug lines answers (`get?_plain`, `best?_plain`).

Two runs take their time each, so the times of a change log are taken off as well (`undated`).
-/

namespace ZoneArbiter

/-! ### Suggestions -/

/-- The suggestion without debug lines. -/
def TelephonySuggestion.plain (s : TelephonySuggestion) : TelephonySuggestion :=
  { s with debug := [] }

/-- The suggestion without debug lines. -/
def GeoSuggestion.plain (s : GeoSuggestion) : GeoSuggestion := { s with debug := [] }

/-- The suggestion without debug lines, with its score. -/
def Telephony.Qualified.plain (q : Telephony.Qualified) : Telephony.Qualified :=
  { q with suggestion := q.suggestion.plain }

/-- Suggestions of telephony agree exactly if they are the same without debug lines. -/
theorem TelephonySuggestion.agrees_iff {a b : TelephonySuggestion} :
    a.agrees b = true ↔ a.plain = b.plain := by
  simp [agrees, plain, and_assoc]

/-- Geolocation suggestions agree exactly if they are the same without debug lines. -/
theorem GeoSuggestion.agrees_iff {a b : GeoSuggestion} : a.agrees b = true ↔ a.plain = b.plain := by
  simp [agrees, plain]

/-- Scores have to be the same as well. -/
theorem Telephony.Qualified.agrees_iff {a b : Telephony.Qualified} :
    a.agrees b = true ↔ a.plain = b.plain := by
  simp [agrees, plain, TelephonySuggestion.agrees_iff]

/-- What agrees in every entry that is there, agrees. -/
theorem Option.rel_of_map_eq {α β : Type} {R : α → α → Prop} {f : α → β}
    (hR : ∀ {x y}, f x = f y → R x y) {a b : Option α} (h : a.map f = b.map f) : a.Rel R b := by
  cases a with
  | none =>
      cases b with
      | none => exact .none
      | some b => cases h
  | some a =>
      cases b with
      | none => cases h
      | some b => exact .some (hR (Option.some.inj h))

/-! ### Maps -/

namespace Keyed

variable {α β : Type}

/-- The map with every value replaced by its image. -/
def map (f : α → β) (m : Keyed α) : Keyed β :=
  ⟨m.entries.map fun entry => (entry.1, f entry.2), List.pairwise_map.mpr m.ascending⟩

/-- A look-up in the map of images finds the image. -/
theorem get?_map (f : α → β) (m : Keyed α) (key : Int) :
    (m.map f).get? key = (m.get? key).map f := by
  show lookupEntry key (m.entries.map fun entry => (entry.1, f entry.2)) =
    (lookupEntry key m.entries).map f
  induction m.entries with
  | nil => rfl
  | cons entry rest ih =>
      simp only [List.map_cons, lookupEntry]
      split
      · rfl
      · exact ih

/-- To insert a value is to insert its image. -/
theorem map_insert (f : α → β) (m : Keyed α) (key : Int) (value : α) :
    (m.insert key value).map f = (m.map f).insert key (f value) := by
  refine ext_get? fun other => ?_
  rw [get?_map, get?_insert, get?_insert, get?_map]
  split <;> rfl

theorem values_map (f : α → β) (m : Keyed α) : (m.map f).values = m.values.map f := by
  simp [values, map]

end Keyed

/-! ### The table -/

namespace Telephony

/-- The table without debug lines. -/
def Table.plain (t : Table) : Table := ⟨t.bySlot.map TelephonySuggestion.plain⟩

/-- Which of two is better depends on their scores alone. -/
theorem Qualified.plain_better (a b : Qualified) : (a.better b).plain = a.plain.better b.plain := by
  unfold better
  exact apply_ite Qualified.plain _ _ _

/-- So the scan for the best comes to the same end without debug lines. -/
theorem bestFrom?_plain (sofar : Option Qualified) (candidates : List Qualified) :
    bestFrom? (sofar.map Qualified.plain) (candidates.map Qualified.plain) =
      (bestFrom? sofar candidates).map Qualified.plain := by
  induction candidates generalizing sofar with
  | nil => rfl
  | cons candidate rest ih =>
      cases sofar with
      | none => exact ih (some candidate)
      | some best =>
          have hnext := ih (some (best.better candidate))
          rw [Option.map_some, Qualified.plain_better] at hnext
          exact hnext

namespace Table

/-- A suggestion is recorded under its slot, with debug lines or without. -/
theorem plain_record (t : Table) (s : TelephonySuggestion) :
    (t.record s).plain = t.plain.record s.plain :=
  congrArg Table.mk (t.bySlot.map_insert TelephonySuggestion.plain s.slot s)

/-- The table without debug lines answers what the table does, without debug lines. -/
theorem get?_plain (t : Table) (slot : Int) :
    t.plain.get? slot = (t.get? slot).map Qualified.plain := by
  show ((t.bySlot.map TelephonySuggestion.plain).get? slot).map qualify = _
  rw [Keyed.get?_map, Table.get?, Option.map_map, Option.map_map]
  rfl

theorem toList_plain (t : Table) : t.plain.toList = t.toList.map Qualified.plain := by
  show ((t.bySlot.map TelephonySuggestion.plain).values).map qualify = _
  rw [Keyed.values_map, Table.toList, List.map_map, List.map_map]
  rfl

/-- Debug lines do not decide which suggestion is best. -/
theorem best?_plain (t : Table) : t.plain.best? = t.best?.map Qualified.plain := by
  rw [best?, toList_plain]
  exact bestFrom?_plain none t.toList

end Table

end Telephony

/-! ### The change log -/

/-- The change, whenever it was made. -/
def ZoneChange.undated (change : ZoneChange) : ZoneChange := { change with changedAt := 0 }

namespace ChangeLog

/-- The log without times. -/
def undated (log : ChangeLog) : ChangeLog :=
  ⟨log.capacity, log.entries.map ZoneChange.undated, by
    rw [List.length_map]
    exact log.bounded⟩

/-- Which entries a log drops does not depend on their times. -/
theorem undated_record (log : ChangeLog) (change : ZoneChange) :
    (log.record change).undated = log.undated.record change.undated := by
  simp [undated, record, lastItems]

end ChangeLog

/-! ### The memory -/

/-- The memory without debug lines and times. -/
def Arbiter.Memory.plain (m : Arbiter.Memory) : Arbiter.Memory :=
  { m with
    telephony := m.telephony.plain
    geolocation := m.geolocation.map GeoSuggestion.plain
    changes := m.changes.undated }

end ZoneArbiter
