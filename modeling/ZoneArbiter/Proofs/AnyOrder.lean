import ZoneArbiter.Proofs.Latest
import ZoneArbiter.Proofs.PlainDevice

/-!
# ZoneArbiter.Proofs.AnyOrder

**It makes no difference in which order slots make their suggestions** (`same_in_any_order`), if
each makes one: the table is the same in the end, and so is the best of it. On the way the device
may be moved about, differently in every order. What it comes to in the end is the same all the
same, unless it had no zone to begin with and not even the best suggestion reaches the threshold;
then the first suggestion that names a zone decides.

A suggestion that reaches the threshold is never overtaken by one that does not. So in a device
with a zone nothing happens up to the first that does, and from then on every step leaves the device
where the best suggestion so far wants it (`Heard.take`).
-/

namespace ZoneArbiter

open Session (Step World keptRecord)
open Telephony (Table)

/-! ### Settled zones -/

namespace Telephony

theorem lastOf_perm {suggestions permuted : List TelephonySuggestion}
    (hperm : permuted.Perm suggestions) (hslots : (suggestions.map (·.slot)).Nodup) (slot : Int) :
    lastOf slot permuted = lastOf slot suggestions := by
  have hslots' : (permuted.map (·.slot)).Nodup := (hperm.map _).nodup_iff.mpr hslots
  refine Option.ext fun s => ?_
  rw [lastOf_of_nodup hslots', lastOf_of_nodup hslots, hperm.mem_iff]

namespace Table

variable {t t' : Table} {suggestions : List TelephonySuggestion}

/-- The best suggestion reaches the threshold. -/
def Usable (t : Table) : Prop :=
  ∃ best, t.best? = some best ∧ Score.usageThreshold.rank ≤ best.score.rank

/-- The zone of the best suggestion if it reaches the threshold, and `zone` otherwise. -/
def settled (t : Table) (zone : Option String) : Option String :=
  match t.best? with
  | none => zone
  | some best =>
      if Score.usageThreshold.rank ≤ best.score.rank then best.suggestion.zone else zone

theorem settled_of_usable (h : t.Usable) (zone zone' : Option String) :
    t.settled zone = t.settled zone' := by
  obtain ⟨best, hbest, hscore⟩ := h
  simp only [settled, hbest, if_pos hscore]

theorem settled_of_not_usable (h : ¬ t.Usable) (zone : Option String) : t.settled zone = zone := by
  unfold settled
  cases hbest : t.best? with
  | none => rfl
  | some best => exact if_neg fun hscore => h ⟨best, hbest, hscore⟩

/-- A suggestion that reaches the threshold is followed on every device. -/
theorem destination_of_usable (h : t.Usable) (zone : Option String) :
    t.destination zone = t.settled zone := by
  obtain ⟨best, hbest, hscore⟩ := h
  obtain ⟨asked, hzone⟩ := zone_best? hbest hscore
  simp only [destination, settled, hbest, hzone, if_pos hscore]
  exact if_neg fun h => absurd h.2 (by omega)

/-- One that does not is ignored on a device that has a zone. -/
theorem destination_of_not_usable (h : ¬ t.Usable) (zone : String) :
    t.destination (some zone) = some zone := by
  unfold destination
  cases hbest : t.best? with
  | none => rfl
  | some best =>
      have hscore : best.score.rank < Score.usageThreshold.rank :=
        Nat.lt_of_not_le fun hscore => h ⟨best, hbest, hscore⟩
      cases hzone : best.suggestion.zone with
      | none => simp [hzone]
      | some asked => simp [hzone, hscore]

/-- **A slot that has not made a suggestion before takes nothing away.** -/
theorem Holds.usable_record (h : t.Holds suggestions) {s : TelephonySuggestion}
    (hnew : s.slot ∉ suggestions.map (·.slot)) (husable : t.Usable) : (t.record s).Usable := by
  obtain ⟨best, hbest, hscore⟩ := husable
  obtain ⟨hlast, hbestScore, -⟩ := h.best?_eq_some_iff.mp hbest
  have hslot : best.suggestion.slot ≠ s.slot := fun heq =>
    hnew (heq ▸ List.mem_map_of_mem (lastOf_eq_some hlast).1)
  have hstill : lastOf best.suggestion.slot (suggestions ++ [s]) = some best.suggestion := by
    rw [lastOf_snoc, if_neg hslot, hlast]
  cases hbest' : (t.record s).best? with
  | none =>
      have hempty := (h.record s).best?_eq_none_iff.mp hbest'
      simp at hempty
  | some best' =>
      have hahead := ((h.record s).best?_eq_some_iff.mp hbest').ahead _ hstill
      have hrank : (qualify best.suggestion).score.rank = best.score.rank := by
        rw [hbestScore, qualify]
      refine ⟨best', hbest', ?_⟩
      unfold Qualified.Ahead at hahead
      omega

end Table

end Telephony

/-! ### Runs -/

/-- The system after slots have made suggestions to one that was empty: the table holds them, and
the device is where the best one wants it, unless it is too weak for that. -/
structure Heard (start : System World) (suggestions : List TelephonySuggestion)
    (s : System World) : Prop where
  rig : s.host.rig = none
  mode : (keptRecord s s.host.device.currentUser).mode = .autoTelephony
  table : s.memory.telephony.Holds suggestions
  zone : start.host.device.zone.isSome = true ∨ s.memory.telephony.Usable →
    s.host.device.zone = s.memory.telephony.settled start.host.device.zone

variable {bound : Nat} {start s : System World}

theorem Heard.take {suggestions : List TelephonySuggestion} (h : Heard start suggestions s)
    {suggestion : TelephonySuggestion} (hnew : suggestion.slot ∉ suggestions.map (·.slot)) :
    Heard start (suggestions ++ [suggestion])
      (Session.take bound (.telephony suggestion) s).2 := by
  have hlands : Lands _ _ (Session.take bound (.telephony suggestion) s).2 :=
    lands_telephony h.rig h.mode suggestion
  have htable : (Session.take bound (.telephony suggestion) s).2.memory.telephony =
      s.memory.telephony.record suggestion := hlands.telephony
  refine ⟨hlands.rig, ?_, ?_, fun hdecided => ?_⟩
  · rw [hlands.kept, hlands.currentUser]
    exact h.mode
  · rw [htable]
    exact h.table.record suggestion
  rw [hlands.zone]
  rw [htable] at hdecided ⊢
  by_cases husable : (s.memory.telephony.record suggestion).Usable
  · rw [Table.destination_of_usable husable]
    exact Table.settled_of_usable husable _ _
  · -- Then none was usable before, and the device is still where it was in the beginning.
    have hbefore : ¬ s.memory.telephony.Usable :=
      fun hbefore => husable (h.table.usable_record hnew hbefore)
    have hinitialized := hdecided.resolve_right husable
    obtain ⟨zone, hzone⟩ := Option.isSome_iff_exists.mp hinitialized
    rw [h.zone (.inl hinitialized), Table.settled_of_not_usable hbefore,
      Table.settled_of_not_usable husable, hzone]
    exact Table.destination_of_not_usable husable zone

theorem Heard.after {suggestions rest : List TelephonySuggestion} (h : Heard start suggestions s)
    (hslots : ((suggestions ++ rest).map (·.slot)).Nodup) :
    Heard start (suggestions ++ rest) (Session.after bound s (rest.map .telephony)) := by
  induction rest generalizing suggestions s with
  | nil => simpa using h
  | cons suggestion rest ih =>
      have hnew : suggestion.slot ∉ suggestions.map (·.slot) := by
        rw [List.map_append, List.nodup_append] at hslots
        exact fun hmem => hslots.2.2 _ hmem _ List.mem_cons_self rfl
      have hsplit : suggestions ++ suggestion :: rest = (suggestions ++ [suggestion]) ++ rest := by
        simp
      rw [hsplit] at hslots ⊢
      exact ih (h.take hnew) hslots

/-- The system after suggestions of telephony were made in order. -/
def Session.heard (bound : Nat) (s : System World) (suggestions : List TelephonySuggestion) :
    System World :=
  Session.after bound s (suggestions.map .telephony)

open Session (heard)

/-- **Any order.** Slots make one suggestion each, in any order, to an arbiter on a device in
memory that has none yet and goes by them. Then the table and its best suggestion are the same for
every order. If the device had a zone, or the best suggestion reaches the threshold, the zone in the
end is too: that of the best suggestion if it reaches the threshold, or else the one of the
beginning. -/
theorem same_in_any_order {suggestions permuted : List TelephonySuggestion}
    (hrig : s.host.rig = none) (hempty : s.memory.telephony = {})
    (hmode : (keptRecord s s.host.device.currentUser).mode = .autoTelephony)
    (hslots : (suggestions.map (·.slot)).Nodup) (hperm : permuted.Perm suggestions) :
    (heard bound s permuted).memory.telephony = (heard bound s suggestions).memory.telephony ∧
      (Session.take bound .best (heard bound s permuted)).1.outcome =
        (Session.take bound .best (heard bound s suggestions)).1.outcome ∧
      (s.host.device.zone.isSome = true ∨ (heard bound s suggestions).memory.telephony.Usable →
        (heard bound s suggestions).host.device.zone =
            (heard bound s suggestions).memory.telephony.settled s.host.device.zone ∧
          (heard bound s permuted).host.device.zone =
            (heard bound s suggestions).host.device.zone) := by
  have hstart : Heard s [] s := by
    refine ⟨hrig, hmode, hempty ▸ .nil, fun _ => ?_⟩
    rw [hempty]
    rfl
  have hone : Heard s suggestions (heard bound s suggestions) := hstart.after hslots
  have hother : Heard s permuted (heard bound s permuted) :=
    hstart.after ((hperm.map _).nodup_iff.mpr hslots)
  have htable : (heard bound s permuted).memory.telephony =
      (heard bound s suggestions).memory.telephony :=
    hother.table.ext hone.table (Telephony.lastOf_perm hperm hslots)
  have hbest (s : System World) : (Session.take bound .best s).1.outcome =
      .ok (.telephony s.memory.telephony.best?) := rfl
  refine ⟨htable, by rw [hbest, hbest, htable], fun hdecided => ⟨hone.zone hdecided, ?_⟩⟩
  rw [hone.zone hdecided, hother.zone (htable ▸ hdecided), htable]

/-- Slot 0 does not say how it came to Oslo, slot 1 cannot tell Rome from Athens, and slot -1 is
sure of Paris. -/
def Session.threeSlots : List TelephonySuggestion :=
  [{ slot := 0, zone := some "Europe/Oslo", matchType := some .networkCountryOnly },
    { slot := 1, zone := some "Europe/Rome", quality := some .multipleZonesDifferentOffsets },
    { slot := -1, zone := some "Europe/Paris", quality := some .singleZone }]

open Session (threeSlots)

/-- A device that has no zone comes to Paris, by way of Oslo or at once. -/
theorem same_in_any_order_three :
    let s := Session.Setup.opening ⟨1, true, true, true, false, false⟩ none
    (heard 0 s threeSlots.reverse).memory.telephony = (heard 0 s threeSlots).memory.telephony ∧
      (heard 0 s threeSlots).host.device.zone = some "Europe/Paris" ∧
      (heard 0 s threeSlots.reverse).host.device.zone = some "Europe/Paris" := by
  intro s
  have hmode : (keptRecord s s.host.device.currentUser).mode = .autoTelephony := by decide +kernel
  have husable : (heard 0 s threeSlots).memory.telephony.Usable :=
    ⟨⟨{ slot := -1, zone := some "Europe/Paris", quality := some .singleZone }, .high⟩,
      by decide +kernel, by decide⟩
  have hparis : (heard 0 s threeSlots).memory.telephony.settled s.host.device.zone =
      some "Europe/Paris" := by
    decide +kernel
  obtain ⟨htable, -, hzone⟩ :=
    @same_in_any_order 0 s threeSlots _ rfl rfl hmode (by decide) (List.reverse_perm _)
  obtain ⟨hone, hother⟩ := hzone (.inr husable)
  exact ⟨htable, hone.trans hparis, hother.trans (hone.trans hparis)⟩

/-- Where no suggestion reaches the threshold, a device without a zone keeps the one that it came
to first. -/
example :
    let s := Session.Setup.opening ⟨1, true, true, true, false, false⟩ none
    (heard 0 s (threeSlots.take 2)).host.device.zone = some "Europe/Oslo" ∧
      (heard 0 s (threeSlots.take 2).reverse).host.device.zone = some "Europe/Rome" := by
  decide +kernel

end ZoneArbiter
