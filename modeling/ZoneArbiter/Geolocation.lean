import ZoneArbiter.Status.Page
import ZoneArbiter.Suggestion

/-!
# ZoneArbiter.Geolocation — following the candidates of a location

The latest geolocation suggestion is kept until it is forgotten, so its place is
an `Option GeoSuggestion`. A device that is already in one of the candidate
zones stays there; otherwise it moves to the preferred candidate.
-/

namespace ZoneArbiter.Geolocation

open ZoneArbiter.Text

/-- The zone to move to, or nothing if no move is warranted: there are no
candidates, or the current zone is one of them. -/
def selectZone (zones : Option (List String)) (current : Option String) : Option String :=
  match zones with
  | none | some [] => none
  | some (first :: rest) =>
      match current with
      | none => some first
      | some zone => if zone ∈ first :: rest then none else some first

/-- The latest suggestion as a section of a status page. -/
def writeStatus (latest : Option GeoSuggestion) (page : Status.Page) : Status.Page :=
  match latest with
  | none => page.line "Geolocation suggestion: (none)"
  | some s =>
      page.line ("Geolocation suggestion: zone_ids=" ++
        shownOption GeoSuggestion.shownZones s.zones ++
        " debug_info=" ++ shownList (s.debug.map quoted))

/-- A zone is selected exactly if it is the preferred candidate and the device is
in none of the candidate zones. -/
theorem selectZone_eq_some_iff {zones : Option (List String)} {current : Option String}
    {zone : String} :
    selectZone zones current = some zone ↔
      ∃ candidates, zones = some candidates ∧ candidates.head? = some zone ∧
        ∀ z, current = some z → z ∉ candidates := by
  rcases zones with _ | (_ | ⟨first, rest⟩)
  · simp [selectZone]
  · simp [selectZone]
  · cases current with
    | none => simp [selectZone]
    | some z =>
        by_cases hz : z ∈ first :: rest
        · simp only [selectZone, if_pos hz]
          simp only [reduceCtorEq, Option.some.injEq, exists_eq_left', false_iff]
          exact fun ⟨_, h⟩ => h z rfl hz
        · simp only [selectZone, if_neg hz]
          simp only [Option.some.injEq, exists_eq_left', List.head?_cons]
          exact ⟨fun h => ⟨h, fun z' hz' => hz' ▸ hz⟩, fun h => h.1⟩

end ZoneArbiter.Geolocation
