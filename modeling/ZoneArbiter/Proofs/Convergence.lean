import ZoneArbiter.Proofs.Turn

/-!
# ZoneArbiter.Proofs.Convergence

**In every state of a calm session the device is where the source in use wants it**
(`Converged`), as long as nobody else moves it: the zone is not set on the device,
and users pick zones only while they are current (`Undisturbed`).

Detection establishes this (`converged_detect`); where a step does not detect, the
zone, the suggestions and the record in effect are what they were, or nothing was
suggested yet. Moves by others are made up for by the next detection, whatever came
before (`converged_undisturbed`, second half).
-/

namespace ZoneArbiter

open Arbiter (Memory)
open Session (Step World)

/-! ### The best telephony suggestion -/

namespace Telephony

theorem mem_of_bestFrom? {q : Qualified} {candidates : List Qualified} :
    ∀ {sofar : Option Qualified}, bestFrom? sofar candidates = some q →
      sofar = some q ∨ q ∈ candidates := by
  induction candidates with
  | nil => exact .inl
  | cons candidate rest ih =>
      intro sofar h
      rcases ih h with hsofar | hmem
      · cases sofar with
        | none => exact .inr (Option.some.inj hsofar ▸ List.mem_cons_self)
        | some best =>
            rw [← Option.some.inj hsofar, Qualified.better]
            split
            · exact .inr List.mem_cons_self
            · exact .inl rfl
      · exact .inr (List.mem_cons_of_mem _ hmem)

/-- The best suggestion has the score that it earns. -/
theorem Table.score_best? {t : Table} {best : Qualified} (h : t.best? = some best) :
    best.score = score best.suggestion := by
  rcases mem_of_bestFrom? h with hnone | hmem
  · simp at hnone
  · obtain ⟨s, -, rfl⟩ := List.mem_map.mp hmem
    rfl

/-- A best suggestion that reaches the threshold has a zone. -/
theorem Table.zone_best? {t : Table} {best : Qualified} (h : t.best? = some best)
    (hscore : Score.usageThreshold.rank ≤ best.score.rank) :
    ∃ zone, best.suggestion.zone = some zone := by
  cases hzone : best.suggestion.zone with
  | some zone => exact ⟨zone, rfl⟩
  | none =>
      rw [Table.score_best? h, score, hzone] at hscore
      exact absurd hscore (by simp [Score.rank, Score.usageThreshold])

end Telephony

/-! ### Convergence -/

/-- The device is where the source named by the record in effect wants it. -/
structure Converged (m : Memory) (d : Device) : Prop where
  /-- By telephony: in the zone of the best suggestion, if that one reaches the
  threshold. -/
  telephony : d.inEffect.mode = .autoTelephony → ∀ best, m.telephony.best? = some best →
    Telephony.Score.usageThreshold.rank ≤ best.score.rank → d.zone = best.suggestion.zone
  /-- By telephony: in some zone, if the best suggestion has one. -/
  initialized : d.inEffect.mode = .autoTelephony → ∀ best, m.telephony.best? = some best →
    best.suggestion.zone.isSome = true → d.zone.isSome = true
  /-- By location: in one of the candidates of the suggestion held, if it has any. -/
  geolocation : d.inEffect.mode = .autoGeo → ∀ s candidates, m.geolocation = some s →
    s.zones = some candidates → candidates ≠ [] → ∃ zone ∈ candidates, d.zone = some zone

/-- Without any suggestion there is nowhere to be. -/
theorem Converged.of_idle {m : Memory} {d : Device} (hbest : m.telephony.best? = none)
    (hgeolocation : m.geolocation = none) : Converged m d where
  telephony := by simp [hbest]
  initialized := by simp [hbest]
  geolocation := by simp [hgeolocation]

/-- While detection is off there is nowhere to be. -/
theorem Converged.of_off {m : Memory} {d : Device} (hmode : d.inEffect.mode = .off) :
    Converged m d where
  telephony := by simp [hmode]
  initialized := by simp [hmode]
  geolocation := by simp [hmode]

/-- Convergence is a matter of zone, suggestions and record in effect alone. -/
theorem Converged.of_eq {m m' : Memory} {d d' : Device} (h : Converged m d)
    (hinEffect : d'.inEffect = d.inEffect) (hzone : d'.zone = d.zone)
    (htelephony : m'.telephony = m.telephony) (hgeolocation : m'.geolocation = m.geolocation) :
    Converged m' d' := by
  refine ⟨?_, ?_, ?_⟩ <;> rw [hinEffect, hzone]
  · rw [htelephony]
    exact h.telephony
  · rw [htelephony]
    exact h.initialized
  · rw [hgeolocation]
    exact h.geolocation

/-- **Detection converges**, wherever the device was before. -/
theorem Scene.converged_detect (pre : Scene) (reason : Reason) :
    Converged (pre.detect pre.device.inEffect reason).memory
      (pre.detect pre.device.inEffect reason).device where
  telephony := by
    simp only [detect_inEffect, detect_telephony]
    intro hmode best hbest hscore
    obtain ⟨zone, hzone⟩ := Telephony.Table.zone_best? hbest hscore
    rw [zone_detect_of_telephony hmode hbest hzone, hzone]
    exact if_neg fun hbelow => absurd hscore (Nat.not_le_of_lt hbelow.2)
  initialized := by
    simp only [detect_inEffect, detect_telephony]
    intro hmode best hbest hsome
    obtain ⟨zone, hzone⟩ := Option.isSome_iff_exists.mp hsome
    rw [zone_detect_of_telephony hmode hbest hzone]
    split
    · rename_i hstays
      exact hstays.1
    · rfl
  geolocation := by
    simp only [detect_inEffect, detect_geolocation]
    intro hmode s candidates hs hzones hne
    rw [zone_detect_of_geo hmode hs]
    cases hselect : Geolocation.selectZone s.zones pre.device.zone with
    | some zone =>
        obtain ⟨candidates', hzones', hhead, -⟩ := Geolocation.selectZone_eq_some_iff.mp hselect
        rw [Option.some.inj (hzones.symm.trans hzones')]
        exact ⟨zone, List.mem_of_mem_head? hhead, rfl⟩
    | none =>
        -- No move was warranted, so the device is in a candidate already.
        obtain ⟨first, rest, rfl⟩ := List.exists_cons_of_ne_nil hne
        simp only [hzones, Geolocation.selectZone] at hselect
        split at hselect
        · simp at hselect
        · rename_i zone hzone
          by_cases hmem : zone ∈ first :: rest
          · exact ⟨zone, hmem, hzone⟩
          · rw [if_neg hmem] at hselect
            simp at hselect

/-! ### Runs -/

/-- The step moves the device neither directly nor for a user in the background. -/
def Session.Step.LeavesZone (s : System World) : Step → Prop
  | .setZone _ => False
  | .manual user _ => user = s.host.device.currentUser
  | _ => True

/-- Nobody but the arbiter and the users who are current at the time moves the device. -/
def Session.Undisturbed (bound : Nat) : System World → List Step → Prop
  | _, [] => True
  | s, step :: rest => step.LeavesZone s ∧ Undisturbed bound (take bound step s).2 rest

section Run

variable {bound : Nat} {sc : Scene} {s : System World}

/-- **One step.** Convergence outlasts every step that leaves the zone to the arbiter. -/
theorem Converged.turn {step : Step} {sc' : Scene} (h : Converged sc.memory sc.device)
    (hcoherent : Coherent sc.memory sc.device) (hturn : sc.Turn step sc') (hs : Shows s sc)
    (hleaves : step.LeavesZone s) : Converged sc'.memory sc'.device := by
  cases hturn with
  | rests hrests =>
      rcases hrests.inEffect with hsame | ⟨hbest, hgeolocation⟩
      · exact h.of_eq hsame hrests.zone hrests.telephony hrests.geolocation
      · refine Converged.of_idle ?_ ?_
        · rw [hrests.telephony, hbest]
        · rw [hrests.geolocation, hgeolocation]
  | @detects _ pre c reason _ hinEffect =>
      rw [hinEffect]
      exact Scene.converged_detect pre reason
  | @picks user pick hallowed =>
      have huser : user = sc.device.currentUser := hs.device ▸ hleaves
      rw [huser, hcoherent.recordOf_currentUser] at hallowed
      refine Converged.of_off ?_
      rw [Scene.moveTo_device]
      show (sc.load user).device.inEffect.mode = .off
      rw [Scene.load_inEffect]
      exact (Configuration.possessed_suggestManual_iff.mp hallowed).2
  | sets => exact hleaves.elim
  | enrols => exact h.of_eq rfl rfl rfl rfl

theorem Converged.run {steps : List Step} (h : Converged sc.memory sc.device)
    (hcoherent : Coherent sc.memory sc.device) (hs : Shows s sc)
    (hcalm : ∀ step ∈ steps, step.Calm) (hok : Session.Faultless bound s steps)
    (hundisturbed : Session.Undisturbed bound s steps) :
    Converged (sc.run steps).memory (sc.run steps).device := by
  induction steps generalizing s sc with
  | nil => exact h
  | cons step rest ih =>
      obtain ⟨hleaves, hundisturbed⟩ := hundisturbed
      obtain ⟨hstep, hcalm⟩ := List.forall_mem_cons.mp hcalm
      obtain ⟨hfault, hok⟩ := Session.faultless_cons.mp hok
      have hconverged := h.turn hcoherent (Scene.turn_after hcoherent hstep) hs hleaves
      rw [Scene.run_cons]
      exact ih hconverged (hcoherent.after hstep) (hs.take hstep hfault) hcalm hok hundisturbed

/-- The step hands the arbiter a suggestion that it acts on. -/
def Session.Step.Suggests (s : System World) : Step → Prop
  | .telephony _ => True
  | .geo _ => s.host.device.inEffect.mode = .autoGeo
  | _ => False

/-- A suggestion that is acted on ends in convergence. -/
theorem Converged.of_suggests {step : Step} (hcoherent : Coherent sc.memory sc.device)
    (hs : Shows s sc) (hsuggests : step.Suggests s) :
    Converged (sc.after step).memory (sc.after step).device := by
  cases step with
  | telephony suggestion =>
      obtain ⟨pre, -, -, -, heq, -⟩ := Scene.telephony_eq_detect hcoherent suggestion
      rw [show sc.after (.telephony suggestion) = sc.telephony suggestion from rfl, heq]
      exact Scene.converged_detect _ _
  | geo suggestion =>
      have hgeo : sc.device.inEffect.geoBehavior = true :=
        (Configuration.mode_eq_autoGeo_iff _).mp (hs.device ▸ hsuggests)
      obtain ⟨pre, -, -, -, heq, -⟩ := Scene.geo_eq_detect hcoherent suggestion hgeo
      rw [show sc.after (.geo suggestion) = sc.geo suggestion from rfl, heq]
      exact Scene.converged_detect _ _
  | _ => exact hsuggests.elim

/-- **A calm session converges.** As long as nobody else moves the device, it is in
every state where the source in use wants it. Whoever moved it before, it is there
right after a suggestion that is acted on. -/
theorem converged_undisturbed {setup : Session.Setup} (hsetup : setup.Calm)
    (hs : setup.system = .ok s) {steps : List Step} (hcalm : ∀ step ∈ steps, step.Calm)
    (hok : Session.Faultless bound s steps) :
    (Session.Undisturbed bound s steps →
      Converged (Session.after bound s steps).memory
        (Session.after bound s steps).host.device) ∧
    ∀ step, step.Suggests (Session.after bound s steps) →
      (Session.take bound step (Session.after bound s steps)).1.fault? = none →
      Converged (Session.after bound s (steps ++ [step])).memory
        (Session.after bound s (steps ++ [step])).host.device := by
  obtain ⟨changes, hstart, hfresh⟩ := hsetup.begins hs
  have hafter := hstart.after hcalm hok
  refine ⟨fun hundisturbed => ?_, fun step hsuggests hfault => ?_⟩
  · rw [hafter.memory, hafter.device]
    exact (Converged.of_idle rfl rfl).run hfresh hstart hcalm hok hundisturbed
  · have hstep : step.Calm := by
      cases step <;> trivial
    have hlast := hafter.take hstep hfault
    rw [Session.after_snoc, hlast.memory, hlast.device]
    exact Converged.of_suggests (hfresh.run hcalm) hafter hsuggests

end Run

/-- A device without a zone follows the first telephony suggestion that names one. -/
theorem converged_undisturbed_first :
    let s := Session.Setup.opening ⟨1, true, true, true, false, false⟩ none
    let steps : List Step :=
      [.telephony ⟨0, some "Europe/Paris", some .networkCountryOnly, some .singleZone, []⟩]
    Converged (Session.after 0 s steps).memory (Session.after 0 s steps).host.device ∧
      (Session.after 0 s steps).host.device.zone = some "Europe/Paris" :=
  ⟨(converged_undisturbed (Session.Setup.calm_plain _ none)
      (Session.Setup.system_plain _ none) (by simp [Step.Calm]) (by decide)).1
      ⟨trivial, trivial⟩, by decide⟩

end ZoneArbiter
