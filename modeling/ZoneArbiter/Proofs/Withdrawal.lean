import ZoneArbiter.Proofs.Boundary.InMemory
import ZoneArbiter.Proofs.Reentry

/-!
# ZoneArbiter.Proofs.Withdrawal

**A slot that has withdrawn its suggestion is as good as no slot at all** (`withdrawal_neutral`):
detection by telephony leaves the device in the zone that it would leave it in if those slots had
never been in the table (`Table.active`).

A withdrawn suggestion has the lowest score there is, and the scan for the best one gives way only
to a better one. So a withdrawn suggestion can keep others from being the best in one place alone:
at the start of the scan, ahead of suggestions that do not score either. On a device that has a
zone these are too weak anyway. A device without a zone takes any zone, though, and there the best
suggestion is the withdrawn one and names none: the exception is `Table.Upstaged`.
-/

namespace ZoneArbiter

open Session (World)

/-! ### The best of a list -/

namespace Telephony

variable {x : Qualified} {sofar : Option Qualified} {candidates : List Qualified}

/-- The best so far is of no account once a better one comes. -/
theorem bestFrom?_of_lt (h : ∃ z ∈ candidates, ∀ x, sofar = some x → x.score.rank < z.score.rank) :
    bestFrom? sofar candidates = bestFrom? none candidates := by
  induction candidates generalizing sofar with
  | nil => simp at h
  | cons y rest ih =>
      obtain ⟨z, hz, hlt⟩ := h
      cases sofar with
      | none => rfl
      | some x =>
          show bestFrom? (some (x.better y)) rest = bestFrom? (some y) rest
          by_cases hxy : x.score.rank < y.score.rank
          · rw [Qualified.better, if_pos hxy]
          · -- The better one comes later, and then neither of the two counts.
            have hxz := hlt x rfl
            have hrest : z ∈ rest := by
              refine (List.mem_cons.mp hz).resolve_left fun hzy => ?_
              exact hxy (hzy ▸ hxz)
            have hyz : y.score.rank < z.score.rank := by omega
            have hforget (w : Qualified) (hw : w.score.rank < z.score.rank) :
                bestFrom? (some w) rest = bestFrom? none rest :=
              ih ⟨z, hrest, fun w' hw' => Option.some.inj hw' ▸ hw⟩
            rw [Qualified.better, if_neg hxy, hforget x hxz, hforget y hyz]

/-- The best so far stays where none is better. -/
theorem bestFrom?_of_le (h : ∀ z ∈ candidates, z.score.rank ≤ x.score.rank) :
    bestFrom? (some x) candidates = some x := by
  induction candidates with
  | nil => rfl
  | cons y rest ih =>
      obtain ⟨hy, hrest⟩ := List.forall_mem_cons.mp h
      show bestFrom? (some (x.better y)) rest = some x
      rw [Qualified.better, if_neg (by omega)]
      exact ih hrest

/-- After the start, what has the lowest score may as well be left out. -/
theorem bestFrom?_filter {p : Qualified → Bool}
    (h : ∀ z ∈ candidates, p z = false → z.score = .unrated) :
    bestFrom? (some x) (candidates.filter p) = bestFrom? (some x) candidates := by
  induction candidates generalizing x with
  | nil => rfl
  | cons y rest ih =>
      obtain ⟨hy, hrest⟩ := List.forall_mem_cons.mp h
      cases hp : p y with
      | true =>
          rw [List.filter_cons_of_pos hp]
          exact ih hrest
      | false =>
          rw [List.filter_cons_of_neg (by simp [hp]), ih hrest]
          show _ = bestFrom? (some (x.better y)) rest
          have hstays : ¬ x.score.rank < y.score.rank := by
            rw [hy hp]
            exact Nat.not_lt_zero _
          rw [Qualified.better, if_neg hstays]

end Telephony

/-! ### Tables without the slots that have withdrawn -/

namespace Keyed

variable {α : Type}

/-- The map with the values that pass a test. -/
def filter (m : Keyed α) (p : α → Bool) : Keyed α :=
  ⟨m.entries.filter (p ·.2), m.ascending.filter _⟩

theorem values_filter (m : Keyed α) (p : α → Bool) : (m.filter p).values = m.values.filter p :=
  (List.filter_map).symm

end Keyed

namespace Telephony

/-- Does the suggestion name a zone? -/
def Qualified.active (q : Qualified) : Bool := q.suggestion.zone.isSome

namespace Table

variable (t : Table) {zone : Option String}

/-- The table without the slots that have withdrawn their suggestions. -/
def active : Table := ⟨t.bySlot.filter (·.zone.isSome)⟩

theorem toList_active : t.active.toList = t.toList.filter Qualified.active := by
  rw [toList, active, Keyed.values_filter, toList, List.filter_map]
  rfl

/-- Where detection by telephony leaves a device that is in a zone, or in none. -/
def destination (zone : Option String) : Option String :=
  match t.best? with
  | none => zone
  | some best =>
      match best.suggestion.zone with
      | none => zone
      | some asked =>
          if zone.isSome ∧ best.score.rank < Score.usageThreshold.rank then zone else some asked

/-- No suggestion scores, and a slot that has withdrawn its own comes before one that has not. -/
structure Upstaged : Prop where
  withdrawn : ∃ q, t.toList.head? = some q ∧ q.active = false
  named : ∃ q ∈ t.toList, q.active = true
  unrated : ∀ q ∈ t.toList, q.score = .unrated

variable {t}

/-- A withdrawn suggestion does not score. -/
theorem unrated_of_not_active {q : Qualified} (hq : q ∈ t.toList) (h : q.active = false) :
    q.score = .unrated := by
  obtain ⟨s, -, rfl⟩ := List.mem_map.mp hq
  have hzone : s.zone.isNone = true := by simpa [Qualified.active, qualify] using h
  show score s = .unrated
  rw [score, if_pos hzone]

/-- Where some suggestion scores, the best one is the best of the active ones. -/
theorem best?_active_of_rated (h : ∃ q ∈ t.toList, q.score ≠ .unrated) :
    t.active.best? = t.best? := by
  have hunrated (q : Qualified) (hq : q ∈ t.toList) := unrated_of_not_active hq
  rw [best?, toList_active, best?]
  cases hlist : t.toList with
  | nil => rfl
  | cons first rest =>
      rw [hlist] at h hunrated
      obtain ⟨hfirst, hrest⟩ := List.forall_mem_cons.mp hunrated
      cases hactive : first.active with
      | true =>
          rw [List.filter_cons_of_pos hactive]
          exact bestFrom?_filter hrest
      | false =>
          -- The suggestion that scores comes later, is active, and beats the first one.
          obtain ⟨z, hz, hrated⟩ := h
          have hscore := hfirst hactive
          have hmem : z ∈ rest := by
            refine (List.mem_cons.mp hz).resolve_left fun heq => hrated ?_
            rw [heq, hscore]
          have hzactive : z.active = true := by
            cases hz' : z.active with
            | true => rfl
            | false => exact absurd (hrest z hmem hz') hrated
          have hbeats : first.score.rank < z.score.rank := by
            rw [hscore]
            cases hzscore : z.score <;> simp_all [Score.rank]
          rw [List.filter_cons_of_neg (by simp [hactive])]
          show _ = bestFrom? (some first) rest
          rw [← bestFrom?_filter hrest]
          refine (bestFrom?_of_lt ⟨z, List.mem_filter.mpr ⟨hmem, hzactive⟩, fun x hx => ?_⟩).symm
          rwa [← Option.some.inj hx]

/-- Where none scores, it is the first one. -/
theorem best?_of_unrated (h : ∀ q ∈ t.toList, q.score = .unrated) : t.best? = t.toList.head? := by
  rw [best?]
  cases hlist : t.toList with
  | nil => rfl
  | cons first rest =>
      rw [hlist] at h
      obtain ⟨hfirst, hrest⟩ := List.forall_mem_cons.mp h
      refine bestFrom?_of_le fun z hz => ?_
      rw [hrest z hz]
      exact Nat.zero_le _

/-- On a device that has a zone, suggestions that do not score change nothing. -/
theorem destination_of_unrated (h : ∀ q ∈ t.toList, q.score = .unrated) (zone : String) :
    t.destination (some zone) = some zone := by
  rw [destination]
  cases hbest : t.best? with
  | none => rfl
  | some best =>
      have hscore : best.score = .unrated := by
        rw [best?_of_unrated h] at hbest
        exact h best (List.mem_of_mem_head? hbest)
      cases hzone : best.suggestion.zone with
      | none => simp [hzone]
      | some asked => simp [hzone, hscore, Score.rank, Score.usageThreshold]

/-- On a device that has none, the first of them decides, and it has to be active. -/
theorem destination_none_of_unrated (h : ∀ q ∈ t.toList, q.score = .unrated) :
    t.destination none = t.toList.head?.bind (·.suggestion.zone) := by
  rw [destination, best?_of_unrated h]
  cases t.toList.head? with
  | none => rfl
  | some first => cases hzone : first.suggestion.zone <;> simp [hzone]

/-- **Where withdrawn slots count.** They do on a device without a zone, if an active suggestion
that does not score is upstaged by one of them, and nowhere else. -/
theorem destination_active_iff :
    t.active.destination zone = t.destination zone ↔ ¬ (zone = none ∧ t.Upstaged) := by
  by_cases hrated : ∃ q ∈ t.toList, q.score ≠ .unrated
  · have hsame : t.active.destination zone = t.destination zone := by
      rw [destination, best?_active_of_rated hrated, destination]
    obtain ⟨q, hq, hscore⟩ := hrated
    simp only [hsame, true_iff]
    exact fun hupstaged => hscore (hupstaged.2.unrated q hq)
  · have hall (q : Qualified) (hq : q ∈ t.toList) : q.score = .unrated :=
      Classical.byContradiction fun hscore => hrated ⟨q, hq, hscore⟩
    have hactive (q : Qualified) (hq : q ∈ t.active.toList) : q.score = .unrated := by
      rw [toList_active] at hq
      exact hall q (List.mem_filter.mp hq).1
    cases zone with
    | some zone => simp [destination_of_unrated hall, destination_of_unrated hactive]
    | none =>
        rw [destination_none_of_unrated hall, destination_none_of_unrated hactive, toList_active]
        have hupstaged : t.Upstaged ↔ (∃ q, t.toList.head? = some q ∧ q.active = false) ∧
            ∃ q ∈ t.toList, q.active = true :=
          ⟨fun h => ⟨h.withdrawn, h.named⟩, fun h => ⟨h.1, h.2, hall⟩⟩
        rw [hupstaged]
        cases hlist : t.toList with
        | nil => simp
        | cons first rest =>
            cases hfirst : first.active with
            | true => simp [hfirst]
            | false =>
                have hnone : first.suggestion.zone = none := by
                  simpa [Qualified.active] using hfirst
                rw [List.filter_cons_of_neg (by simp [hfirst])]
                cases hothers : rest.filter Qualified.active with
                | nil =>
                    have hno : ∀ q ∈ rest, ¬ q.active = true := List.filter_eq_nil_iff.mp hothers
                    simpa [hnone, hfirst] using hno
                | cons other others =>
                    have hother : other ∈ rest.filter Qualified.active := by simp [hothers]
                    obtain ⟨hmem, hnamed⟩ := List.mem_filter.mp hother
                    obtain ⟨asked, hasked⟩ := Option.isSome_iff_exists.mp hnamed
                    simp only [List.head?_cons, Option.bind_some, hnone, hasked]
                    simp [hfirst]
                    exact ⟨other, hmem, hnamed⟩

theorem Upstaged.destination (h : t.Upstaged) : t.destination none = none := by
  obtain ⟨q, hhead, hwithdrawn⟩ := h.withdrawn
  rw [destination_none_of_unrated h.unrated, hhead, Option.bind_some]
  simpa [Qualified.active] using hwithdrawn

end Table

end Telephony

/-! ### Detection -/

section Detection

open Telephony (Table)

variable {α β : Type} {bound : Nat} {sc sc' : Scene} {d : Device}

/-- From every system that shows `sc`, the effect leaves the device as `d`, whether it answers or
fails. -/
def Leaves (effect : Effect World α) (sc : Scene) (d : Device) : Prop :=
  ∀ ⦃s⦄, Shows s sc → (effect.final s).host.device = d

theorem Plays.leaves {effect : Effect World α} {a : α} (h : Plays effect sc a sc') :
    Leaves effect sc sc'.device := by
  intro s hs
  obtain ⟨s', hrun, hs'⟩ := h hs
  rw [Effect.final, hrun]
  exact hs'.device

theorem Plays.bindLeaves {effect : Effect World α} {f : α → Effect World β} {a : α}
    (h : Plays effect sc a sc') (hf : Leaves (f a) sc' d) : Leaves (effect >>= f) sc d := by
  intro s hs
  obtain ⟨s', hrun, hs'⟩ := h hs
  rw [Effect.final, Effect.bind_of_ok hrun]
  exact hf hs'

/-- The clock is no part of the device. -/
theorem keeps_device_readClock (d : Device) :
    Effect.Keeps (·.host.device = d) (Effect.onHost World.readClock) := by
  intro s hs
  unfold Effect.Ends Effect.onHost
  rw [World.readClock, World.get_bind]
  cases Calendar.dateDefect? s.host.clock <;> exact hs

/-- A move has happened by the time that the clock is read. -/
theorem leaves_moveTo (zone : String) (cause : Cause) :
    Leaves ((Session.arbiter bound).moveTo zone cause) sc (sc.device.setZone (some zone)) := by
  unfold Arbiter.moveTo
  refine (plays_currentZone bound).bindLeaves ?_
  split
  · rename_i hthere
    rw [← hthere]
    exact (plays_note bound _).leaves
  · refine (plays_setZone (some zone)).bindLeaves fun s hs => ?_
    have hnote (n : Notice) : Effect.Keeps (·.host.device = sc.device.setZone (some zone))
        ((Session.arbiter bound).note n) := fun s hs => by
      obtain ⟨trace, hlog⟩ := s.host.log_eq n
      exact (congrArg World.device hlog).trans hs
    have hkeeps := (keeps_device_readClock (sc.device.setZone (some zone))).bind fun changedAt =>
      Effect.Keeps.bind (e := Effect.remember fun m =>
        { m with changes := m.changes.record ⟨zone, sc.device.zone, cause, changedAt⟩ })
        (fun _ hs => hs) fun _ => hnote (.zoneChanged sc.device.zone zone cause)
    refine hkeeps.final (hs.device.trans ?_)
    rw [Scene.onDevice_device, Scene.deviceCall_device]

/-- Detection by telephony leaves the device where the table says. -/
theorem leaves_detect {c : Configuration} (hmode : c.mode = .autoTelephony) (reason : Reason) :
    Leaves ((Session.arbiter bound).detect c reason) sc
      (sc.device.setZone (sc.memory.telephony.destination sc.device.zone)) := by
  unfold Arbiter.detect Table.destination
  rw [hmode]
  refine plays_memory.bindLeaves ?_
  cases hbest : sc.memory.telephony.best? with
  | none => exact (plays_note bound _).leaves
  | some best =>
      cases hzone : best.suggestion.zone with
      | none =>
          simp only [hzone]
          exact (plays_note bound _).leaves
      | some zone =>
          simp only [hzone]
          refine plays_zoneInitialized.bindLeaves ?_
          split
          · exact (plays_note bound _).leaves
          · exact leaves_moveTo zone _

/-- The zone that detection leaves the device in, were this the table of suggestions. -/
def Session.zoneDetected (bound : Nat) (c : Configuration) (reason : Reason) (s : System World)
    (t : Table) : Option String :=
  (((arbiter bound).detect c reason).final
    { s with memory := { s.memory with telephony := t } }).host.device.zone

open Session (zoneDetected)

variable {s : System World}

/-- Slot 0 has withdrawn what it proposed, and slot 1 is sure of Paris. -/
def Session.handedOver : Table :=
  [{ slot := 0, zone := some "Europe/Oslo", quality := some .singleZone },
    { slot := 1, zone := some "Europe/Paris", quality := some .singleZone },
    ({ slot := 0 } : TelephonySuggestion)].foldl Table.record {}

/-- Slot 0 has withdrawn what it never proposed, and slot 1 does not say how it came to Paris. -/
def Session.upstaged : Table :=
  [({ slot := 0 } : TelephonySuggestion),
    { slot := 1, zone := some "Europe/Paris", matchType := some .networkCountryOnly }].foldl
      Table.record {}

end Detection

end ZoneArbiter
