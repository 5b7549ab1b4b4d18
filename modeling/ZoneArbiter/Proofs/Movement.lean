import ZoneArbiter.Proofs.Freshness

/-!
# ZoneArbiter.Proofs.Movement

**Every move of the device is single, needed and justified** (`writes_justified`). A step
moves the device at most once, to a zone that it was not in. A user's pick does so only if
it is accepted from a user who may pick; anything else does so only on the grounds that the
mode in effect after it names (`Grounds`), so nothing moves the device while detection is
off.

Two things make this a case analysis on `Scene.Turn`: detection is the last thing that a step
does, and it is done with the record that is then in effect. A step may run the report handler
in the middle, but that cannot be a second detection, because a turn records one move only.
-/

namespace ZoneArbiter

open Session (Step World)

/-- From `sc` to `sc'` the device made one move or none, and it was told so. -/
structure Scene.Moves (sc : Scene) (move : Option String) (sc' : Scene) : Prop where
  zone : sc'.device.zone = move.or sc.device.zone
  needed : ∀ zone, move = some zone → sc.device.zone ≠ some zone
  written : sc'.written = sc.written ++ sc.noted move

/-- A move goes where it was asked to go, and only if the device is elsewhere. -/
theorem Scene.hop_eq_some_iff {sc : Scene} {asked zone : String} :
    sc.hop asked = some zone ↔ asked = zone ∧ sc.device.zone ≠ some zone := by
  unfold hop
  constructor
  · intro h
    split at h
    · simp at h
    · rename_i hout
      obtain rfl := Option.some.inj h
      exact ⟨rfl, hout⟩
  · rintro ⟨rfl, hout⟩
    rw [if_neg hout]

namespace Scene.Moves

variable {sc pre sc' : Scene} {move : Option String} {n : Nat}

theorem still (hzone : sc'.device.zone = sc.device.zone) (hwritten : sc'.written = sc.written) :
    sc.Moves none sc' where
  zone := hzone
  needed := by simp
  written := by simp [hwritten, Scene.noted]

theorem moveTo (sc : Scene) (zone : String) (cause : Cause) :
    sc.Moves (sc.hop zone) (sc.moveTo zone cause) where
  zone := by
    rw [Scene.moveTo_device, Scene.hop]
    split
    · rename_i hthere
      exact hthere.symm
    · rfl
  needed := by
    intro z hz
    exact (Scene.hop_eq_some_iff.mp hz).2
  written := (Scene.Calls.moveTo sc zone cause).written

theorem detect (sc : Scene) (c : Configuration) (reason : Reason) :
    sc.Moves (sc.detectHop c reason) (sc.detect c reason) := by
  unfold Scene.detectHop Scene.detect
  cases sc.proposal c reason with
  | none => exact still rfl rfl
  | some proposed => exact moveTo sc proposed.1 proposed.2

/-- What was done before the move left the zone alone. -/
theorem following (h : pre.Moves move sc') (hzone : pre.device.zone = sc.device.zone)
    (hquiet : sc.Calls n [] pre) : sc.Moves move sc' where
  zone := hzone ▸ h.zone
  needed := hzone ▸ h.needed
  written := by
    have hnoted : pre.noted move = sc.noted move := by
      rw [Scene.noted, Scene.noted, hquiet.recorded]
    rw [h.written, hquiet.written_eq, hnoted]

end Scene.Moves

/-- A move of the device in a step is justified: it is an accepted pick of a user who may
pick, or there are grounds for it in the mode that is in effect after the step. -/
inductive Session.Justified (bound : Nat) (s : System World) : Step → String → Prop
  | picked {user : Int} {pick : ManualSuggestion}
      (accepted : (take bound (.manual user pick) s).1.outcome = .ok (.flag true))
      (allowed : (keptRecord s user).capabilities.suggestManual = .possessed) :
      Justified bound s (.manual user pick) pick.zone
  | detected {step : Step} {zone : String} (nopick : ∀ user pick, step ≠ .manual user pick)
      (grounds : Grounds (take bound step s).2.memory s.host.device.zone zone
        (take bound step s).2.host.device.inEffect.mode) : Justified bound s step zone

section Run

open Session (after Faultless Justified written)

variable {bound : Nat} {sc : Scene} {s : System World} {step : Step}

/-- **One step.** A calm step that does not set the zone itself makes one move or none, and
the move is justified. -/
theorem Shows.moves (hs : Shows s sc) (hcoherent : Coherent sc.memory sc.device)
    (hcalm : step.Calm) (hown : ∀ zone, step ≠ .setZone zone)
    (hfault : (Session.take bound step s).1.fault? = none) :
    ∃ move, sc.Moves move (sc.after step) ∧
      ∀ zone, move = some zone → Justified bound s step zone := by
  by_cases hpick : ∃ user pick, step = .manual user pick
  · obtain ⟨user, pick, rfl⟩ := hpick
    have hload := Scene.Rests.load hcoherent user
    have hquiet := Scene.Calls.load sc user
    have houtcome : (Session.take bound (.manual user pick) s).1.outcome =
        .ok (.flag (decide ((sc.recordOf user).capabilities.suggestManual = .possessed))) := by
      rw [← Scene.manual_fst user pick]
      exact hs.outcome_take (by simp)
        ((plays_suggestManual bound user pick).bind (Plays.pure _ _).inTime) hfault
    show ∃ move, sc.Moves move (sc.manual user pick).2 ∧ _
    by_cases hallowed : (sc.recordOf user).capabilities.suggestManual = .possessed
    · rw [Scene.manual, if_pos hallowed]
      refine ⟨_, (Scene.Moves.moveTo _ _ _).following hload.zone hquiet, fun zone hzone => ?_⟩
      obtain ⟨rfl, -⟩ := Scene.hop_eq_some_iff.mp hzone
      refine .picked ?_ (hs.keptRecord user ▸ hallowed)
      rw [houtcome, hallowed]
      rfl
    · rw [Scene.manual, if_neg hallowed]
      exact ⟨none, .still hload.zone hquiet.written_eq, by simp⟩
  · have hnopick : ∀ user pick, step ≠ .manual user pick := fun user pick heq =>
      hpick ⟨user, pick, heq⟩
    have hturn := Scene.turn_after hcoherent hcalm
    have hnext := hs.take hcalm hfault
    generalize sc.after step = sc' at hturn hnext
    cases hturn with
    | rests hrests hquiet => exact ⟨none, .still hrests.zone hquiet.written_eq, by simp⟩
    | @detects _ pre c reason hpre hinEffect hzone hlocated hquiet =>
        refine ⟨_, (Scene.Moves.detect pre c reason).following hzone hquiet, fun zone hmove => ?_⟩
        obtain ⟨⟨asked, cause⟩, hproposal, hhop⟩ := Option.bind_eq_some_iff.mp hmove
        obtain ⟨rfl, -⟩ := Scene.hop_eq_some_iff.mp hhop
        refine .detected hnopick ?_
        rw [hnext.memory, hnext.device, hs.device, Scene.clear_memory, Scene.clear_device,
          Scene.detect_inEffect, ← hinEffect, ← hzone]
        exact (Scene.grounds_of_proposal hproposal).of_eq (Scene.detect_telephony c reason)
          (Scene.detect_geolocation c reason)
    | picks => exact absurd rfl (hnopick _ _)
    | sets zone => exact absurd rfl (hown zone)
    | enrols => exact ⟨none, .still rfl rfl, by simp⟩

/-- **Single, needed and justified.** In every state of a calm session, a step that does not
set the zone itself makes one move or none. The device is told so by one call of it or none, and
is in no other zone than the move says; the move goes to a zone that the device was not in, and
it is justified. -/
theorem writes_justified {setup : Session.Setup} (hsetup : setup.Calm)
    (hs : setup.system = .ok s) {steps : List Step} (hcalm : ∀ step ∈ steps, step.Calm)
    (hok : Faultless bound s steps) {step : Step} (hstep : step.Calm)
    (hown : ∀ zone, step ≠ .setZone zone)
    (hfault : (Session.take bound step (after bound s steps)).1.fault? = none) :
    ∃ move : Option String,
      ((after bound s steps).host.rig.isSome = true →
        written (Session.take bound step (after bound s steps)).1.events =
          move.toList.map some) ∧
      (Session.take bound step (after bound s steps)).2.host.device.zone =
        move.or (after bound s steps).host.device.zone ∧
      ∀ zone, move = some zone → (after bound s steps).host.device.zone ≠ some zone ∧
        Justified bound (after bound s steps) step zone := by
  obtain ⟨changes, hstart, hfresh⟩ := hsetup.begins hs
  have hafter := hstart.after hcalm hok
  have hcoherent := hfresh.run hcalm
  have hcalls : ((setup.scene changes).run steps).calls = [] := Scene.calls_run rfl steps
  generalize (setup.scene changes).run steps = sc at hafter hcoherent hcalls
  obtain ⟨move, hmoves, hjustified⟩ := hafter.moves hcoherent hstep hown hfault
  refine ⟨move, fun hrig => ?_, ?_, fun zone hzone => ⟨?_, hjustified zone hzone⟩⟩
  · have hrecorded : sc.recorded = true := by
      rw [hafter.rig] at hrig
      cases hrecorded : sc.recorded with
      | true => rfl
      | false => simp [hrecorded] at hrig
    have hquiet : sc.written = [] := by
      rw [Scene.written, hcalls]
      rfl
    rw [← Session.written_filter_isCall, hafter.calls_take hstep hfault]
    show (sc.after step).written = _
    rw [hmoves.written, hquiet, Scene.noted, if_pos hrecorded]
    rfl
  · rw [(hafter.take hstep hfault).device, hafter.device]
    exact hmoves.zone
  · rw [hafter.device]
    exact hmoves.needed zone hzone

/-- A device that was in Tokyo and whose calls are recorded. -/
def Session.Setup.watched : Session.Setup where
  device := .start ⟨1, true, true, true, false, false⟩ (some "Asia/Tokyo")
  rig := some {}

/-- The system that the session begins with. -/
def Session.watching : System World where
  memory := (Setup.opening ⟨1, true, true, true, false, false⟩ (some "Asia/Tokyo")).memory
  host := Setup.watched.world

/-- A telephony suggestion moves it to Paris by one call, on the grounds of telephony. -/
theorem writes_justified_suggested :
    let step : Step :=
      .telephony ⟨0, some "Europe/Paris", some .networkCountryOnly, some .singleZone, []⟩
    written (Session.take 0 step Session.watching).1.events = [some "Europe/Paris"] ∧
      Justified 0 Session.watching step "Europe/Paris" := by
  intro step
  have hcalm : step.Calm := trivial
  have hsystem : Session.Setup.watched.system = .ok Session.watching := rfl
  have hok : Faultless 0 Session.watching [] := Session.faultless_nil 0 _
  obtain ⟨move, hwritten, hzone, hjustified⟩ :=
    writes_justified ⟨.inr rfl, Device.filed_start _ _⟩ hsystem (by simp)
      hok hcalm (by simp [step]) (by decide)
  have hthere : (Session.take 0 step Session.watching).2.host.device.zone =
      some "Europe/Paris" := by decide
  rw [after, List.foldl_nil, hthere] at hzone
  cases move with
  | none =>
      simp [Session.watching, Session.Setup.watched, Session.Setup.world, Device.start] at hzone
  | some zone =>
      obtain rfl := Option.some.inj hzone
      exact ⟨hwritten rfl, (hjustified _ rfl).2⟩

end Run

end ZoneArbiter
