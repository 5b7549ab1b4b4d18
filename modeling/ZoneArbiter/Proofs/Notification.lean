import Mathlib.Data.List.Basic
import ZoneArbiter.Proofs.Freshness

/-!
# ZoneArbiter.Proofs.Notification

**Every registered listener is called exactly once when a configuration changes, and
nobody is called otherwise** (`told_iff_heard`). A step is heard (`Session.Step.Heard`) if
it is an update that alters the record, if it changes the current user's record on the
device while the arbiter knows that record, or if it brings another user to the
foreground. The report that the device makes of the arbiter's own update is not one of
these, so it never adds a call.

How often a step calls everybody was settled with its turn (`Scene.rounds`). What is left is
to say who everybody is (`Scene.Enrols`), and to read the number off what the session shows
(`Shows.rounds`).
-/

namespace ZoneArbiter

open Session (Step World)

/-- The listener that a step registers, if it registers one. -/
def Session.Step.enrolled? : Step → Option String
  | .addListener name .. => some name
  | _ => none

/-- The listeners that steps register, in order. -/
def Session.registered (steps : List Step) : List String := steps.filterMap Step.enrolled?

/-- The step changes the record in effect, which the arbiter knows. -/
def Session.Step.AltersKnown (bound : Nat) (s : System World) (step : Step) : Prop :=
  (s.memory.records.peek s.host.device.currentUser).isSome = true ∧
    (take bound step s).2.host.device.recordOf s.host.device.currentUser ≠ s.host.device.inEffect

/-- The step makes a change that listeners are to hear of: an update that alters the record,
a change of the record in effect on the device, or a switch to another user. -/
def Session.Step.Heard (bound : Nat) (s : System World) : Step → Prop
  | .update user change =>
      (take bound (.update user change) s).1.outcome = .ok (.flag true) ∧
        (keptRecord s user).merge change ≠ keptRecord s user
  | .replace c => Step.AltersKnown bound s (.replace c)
  | .store user change => Step.AltersKnown bound s (.store user change)
  | .switch c => c.user ≠ s.host.device.currentUser
  | _ => False

section Roll

variable {sc sc' : Scene} {step : Step} {steps pre : List Step}

/-- A turn calls everybody as often as its step is worth. -/
theorem Scene.Turn.calls (h : sc.Turn step sc') (hstep : step.enrolled? = none) :
    ∃ writes, sc.Calls (sc.rounds step) writes sc' := by
  cases h with
  | rests _ calls => exact ⟨[], calls⟩
  | detects _ _ _ _ calls => exact ⟨_, calls.trans (.detect _ _ _)⟩
  | picks => exact ⟨_, (Scene.Calls.load sc _).quietly (.moveTo _ _ _)⟩
  | sets zone => exact ⟨_, .setZone sc zone⟩
  | enrols => simp [Step.enrolled?] at hstep

/-- Who is registered is who was registered by the steps so far, and every registered
number is that of a listener. -/
structure Scene.Enrols (sc : Scene) (steps : List Step) : Prop where
  roll : sc.roll = Session.registered steps
  bounded : ∀ id ∈ sc.memory.listeners, id < sc.names.length

theorem Scene.Enrols.after (h : sc.Enrols steps) (hcoherent : Coherent sc.memory sc.device)
    (hcalm : step.Calm) : (sc.after step).clear.Enrols (steps ++ [step]) := by
  cases henrolled : step.enrolled? with
  | none =>
      obtain ⟨writes, hcalls⟩ := (Scene.turn_after hcoherent hcalm).calls henrolled
      refine ⟨?_, ?_⟩
      · rw [show (sc.after step).clear.roll = sc.roll from hcalls.roll_eq, h.roll]
        simp [Session.registered, henrolled]
      · show ∀ id ∈ (sc.after step).memory.listeners, id < (sc.after step).names.length
        rw [hcalls.listeners, hcalls.names]
        exact h.bounded
  | some name =>
      cases step with
      | addListener name' nested times fault =>
          -- The numbers given out before stay good when a name is added.
          have hold : sc.memory.listeners.filterMap ((sc.names ++ [name'])[·]?) = sc.roll := by
            refine List.filterMap_congr fun id hid => ?_
            exact List.getElem?_append_left (h.bounded id hid)
          refine ⟨?_, ?_⟩
          · show (sc.memory.listeners ++ [sc.names.length]).filterMap
              ((sc.names ++ [name'])[·]?) = _
            rw [List.filterMap_append, hold, h.roll]
            simp [Session.registered, Step.enrolled?]
          · intro id hid
            show id < (sc.names ++ [name']).length
            rw [List.length_append, List.length_singleton]
            rcases List.mem_append.mp hid with hid | hid
            · exact Nat.lt_succ_of_lt (h.bounded id hid)
            · rw [List.mem_singleton.mp hid]
              exact Nat.lt_succ_self _
      | _ => simp [Step.enrolled?] at henrolled

theorem Scene.Enrols.run (h : sc.Enrols pre) (hcoherent : Coherent sc.memory sc.device)
    (hcalm : ∀ step ∈ steps, step.Calm) : (sc.run steps).Enrols (pre ++ steps) := by
  induction steps generalizing sc pre with
  | nil => simpa using h
  | cons step rest ih =>
      obtain ⟨hstep, hcalm⟩ := List.forall_mem_cons.mp hcalm
      have hrest := ih (h.after hcoherent hstep) (hcoherent.after hstep) hcalm
      rwa [List.append_assoc] at hrest

end Roll

section Rounds

open Session (after Faultless registered told)

variable {bound : Nat} {sc : Scene} {s : System World} {step : Step}

/-- Where the current user stays current, only a change of a known record is news. -/
theorem Scene.news_iff {d : Device} (hcurrent : d.currentUser = sc.device.currentUser) :
    sc.News d ↔ (sc.memory.records.peek sc.device.currentUser).isSome = true ∧
      d.recordOf sc.device.currentUser ≠ sc.device.inEffect := by
  unfold Scene.News
  rw [Device.inEffect, hcurrent]
  simp

/-- A switch is news exactly if it is one to another user. -/
theorem Scene.news_switch (hfiled : sc.device.Filed) (c : Configuration) :
    sc.News (sc.device.switch c) ↔ c.user ≠ sc.device.currentUser := by
  constructor
  · rintro (hother | ⟨-, hrecord⟩) hsame
    · exact hother hsame
    · obtain ⟨held, hheld⟩ := Option.isSome_iff_exists.mp hfiled.current
      rw [← hsame] at hheld
      refine hrecord ?_
      simp [Device.inEffect, Device.recordOf, Device.switch, hheld, ← hsame]
  · exact fun hother => .inl hother

/-- A change on the device is seen as it was made, whether or not it was reported. -/
theorem Shows.altersKnown_iff (hs : Shows s sc) (hcalm : step.Calm)
    (hfault : (Session.take bound step s).1.fault? = none) (changed : Scene) (due : Bool)
    (hfiled : changed.device.Filed)
    (hafter : sc.after step = if due then changed.report else changed) :
    step.AltersKnown bound s ↔ (sc.memory.records.peek sc.device.currentUser).isSome = true ∧
      changed.device.recordOf sc.device.currentUser ≠ sc.device.inEffect := by
  have hrecord : (sc.after step).device.recordOf sc.device.currentUser =
      changed.device.recordOf sc.device.currentUser := by
    rw [hafter]
    cases due with
    | false => rfl
    | true =>
        obtain ⟨zone, hdevice⟩ := Scene.report_device hfiled
        rw [if_pos rfl, hdevice]
        rfl
  rw [Step.AltersKnown, (hs.take hcalm hfault).device, hs.memory, hs.device, Scene.clear_device,
    hrecord]

/-- **A step is heard exactly if it is worth a round of calls**, and it is never worth
more than one. -/
theorem Shows.rounds (hs : Shows s sc) (hcoherent : Coherent sc.memory sc.device)
    (hcalm : step.Calm) (hfault : (Session.take bound step s).1.fault? = none) :
    (step.Heard bound s ∧ sc.rounds step = 1) ∨ (¬ step.Heard bound s ∧ sc.rounds step = 0) := by
  have ofNews {d : Device} (hheard : step.Heard bound s ↔ sc.News d)
      (hrounds : sc.rounds step = if sc.News d then 1 else 0) :
      (step.Heard bound s ∧ sc.rounds step = 1) ∨
        (¬ step.Heard bound s ∧ sc.rounds step = 0) := by
    rw [hrounds, hheard]
    by_cases h : sc.News d <;> simp [h]
  cases step with
  | update user change =>
      have houtcome : (Session.take bound (.update user change) s).1.outcome =
          .ok (.flag ((sc.recordOf user).grant? change).isSome) := by
        rw [← Scene.update_fst]
        exact hs.outcome_take (by simp)
          ((plays_updateConfiguration bound user change).bind (Plays.pure _ _).inTime) hfault
      rw [Step.Heard, hs.keptRecord, houtcome]
      cases hgrant : (sc.recordOf user).grant? change with
      | none => exact .inr ⟨by simp, by simp [Scene.rounds, hgrant]⟩
      | some new =>
          rw [Configuration.merge_of_grant hgrant]
          by_cases hsame : new = sc.recordOf user
          · exact .inr ⟨by simp [hsame], by simp [Scene.rounds, hgrant, hsame]⟩
          · exact .inl ⟨by simp [hsame], by simp [Scene.rounds, hgrant, hsame]⟩
  | replace c =>
      refine ofNews ?_ rfl
      rw [Scene.news_iff (Device.currentUser_replace c)]
      exact hs.altersKnown_iff hcalm hfault (sc.onDevice fun d => (d.replace c).2)
        (sc.device.replace c).1 (hcoherent.filed.replace c) rfl
  | store user change =>
      refine ofNews ?_ rfl
      rw [Scene.news_iff (Device.currentUser_store change)]
      have halters := hs.altersKnown_iff hcalm hfault
        ((sc.deviceCall (.storeCall user change)).onDevice fun d => (d.store user change).2)
        (sc.device.store user change).1 (by simpa using hcoherent.filed.store change) rfl
      simp only [Scene.onDevice_device, Scene.deviceCall_device] at halters
      exact halters
  | switch c =>
      refine ofNews ?_ rfl
      rw [Step.Heard, hs.device, Scene.news_switch hcoherent.filed]
  | _ => exact .inr ⟨id, rfl⟩

/-- **Exactly once.** In every state of a calm session, a step that is heard calls every
registered listener once, in the order of registration, and a step that is not calls
nobody. -/
theorem told_iff_heard {setup : Session.Setup} (hsetup : setup.Calm)
    (hs : setup.system = .ok s) {steps : List Step} (hcalm : ∀ step ∈ steps, step.Calm)
    (hok : Faultless bound s steps) {step : Step} (hstep : step.Calm)
    (hfault : (Session.take bound step (after bound s steps)).1.fault? = none) :
    (step.Heard bound (after bound s steps) →
      told (Session.take bound step (after bound s steps)).1.events = registered steps) ∧
    (¬ step.Heard bound (after bound s steps) →
      told (Session.take bound step (after bound s steps)).1.events = []) := by
  obtain ⟨changes, hstart, hfresh⟩ := hsetup.begins hs
  have hafter := hstart.after hcalm hok
  have hcoherent := hfresh.run hcalm
  have henrols : ((setup.scene changes).run steps).Enrols ([] ++ steps) :=
    Scene.Enrols.run ⟨rfl, by simp [Session.Setup.scene, Arbiter.Memory.fresh]⟩ hfresh hcalm
  have hcalls : ((setup.scene changes).run steps).calls = [] := Scene.calls_run rfl steps
  generalize (setup.scene changes).run steps = sc at hafter hcoherent henrols hcalls
  have hquiet : sc.told = [] := by rw [Scene.told, hcalls]; rfl
  have hevents : told (Session.take bound step (after bound s steps)).1.events =
      (List.replicate (sc.rounds step) (registered steps)).flatten := by
    rw [← Session.told_filter_isCall, hafter.calls_take hstep hfault]
    show (sc.after step).told = _
    cases henrolled : step.enrolled? with
    | none =>
        obtain ⟨writes, hturn⟩ := (Scene.turn_after hcoherent hstep).calls henrolled
        rw [hturn.told, hquiet, henrols.roll]
        rfl
    | some name =>
        cases step with
        | addListener => exact hquiet
        | _ => simp [Step.enrolled?] at henrolled
  rw [hevents]
  rcases hafter.rounds hcoherent hstep hfault with ⟨hheard, hone⟩ | ⟨hheard, hzero⟩
  · refine ⟨fun _ => ?_, fun hnot => absurd hheard hnot⟩
    rw [hone]
    simp
  · refine ⟨fun h => absurd h hheard, fun _ => ?_⟩
    rw [hzero]
    rfl

/-- Two listeners are registered. -/
def Session.audience : List Step :=
  [.addListener "first" [] 0 none, .addListener "second" [] 0 none]

/-- A user switches automatic detection on. -/
def Session.turnOn : Step := .update 1 ⟨some true, none⟩

/-- On a new device the listeners hear of an update, but not of the same update made again. -/
theorem told_of_update :
    let s := Session.Setup.opening ⟨1, true, true, false, true, false⟩ none
    told (Session.take 0 Session.turnOn (after 0 s Session.audience)).1.events =
        ["first", "second"] ∧
      told (Session.take 0 Session.turnOn
        (after 0 s (Session.audience ++ [Session.turnOn]))).1.events = [] := by
  intro s
  have hupdate : Session.turnOn.Calm := trivial
  have hcalm : ∀ step ∈ Session.audience ++ [Session.turnOn], step.Calm := by
    simp [Session.audience, Step.Calm, Session.turnOn]
  have hok : Faultless 0 s (Session.audience ++ [Session.turnOn]) := by decide +kernel
  obtain ⟨hbefore, hfault⟩ := Session.faultless_snoc.mp hok
  have hheard : Session.turnOn.Heard 0 (after 0 s Session.audience) :=
    ⟨by decide +kernel, by decide +kernel⟩
  have hagain : ¬ Session.turnOn.Heard 0 (after 0 s (Session.audience ++ [Session.turnOn])) :=
    fun hheard => hheard.2 (by decide +kernel)
  have hfault' : (Session.take 0 Session.turnOn
      (after 0 s (Session.audience ++ [Session.turnOn]))).1.fault? = none := by decide +kernel
  have hsetup := Session.Setup.calm_plain ⟨1, true, true, false, true, false⟩ none
  have hs : (Session.Setup.plain ⟨1, true, true, false, true, false⟩ none).system = .ok s :=
    Session.Setup.system_plain _ none
  have hfirst := told_iff_heard hsetup hs (fun step h => hcalm step (List.mem_append_left _ h))
    hbefore hupdate hfault
  have hsecond := told_iff_heard hsetup hs hcalm hok hupdate hfault'
  exact ⟨hfirst.1 hheard, hsecond.2 hagain⟩

end Rounds

end ZoneArbiter
