import ZoneArbiter.Proofs.Turn

/-!
# ZoneArbiter.Proofs.Isolation

**Settings of a user in the background stay with that user** (`background_isolated`). They may be
changed through the arbiter or on the device: nothing else is touched, on either side (`Spares`),
but that the arbiter may take the occasion to load the current user's record.

A change on the device is reported without saying whom it is about, and what the arbiter then looks
at is the current user. So what is proved here of a user in the background rests on the arbiter
having the current user's record right, in every state (`Coherent`): only then does it find nothing
to act on (`Spares.report`).
-/

namespace ZoneArbiter

open Arbiter (Memory)
open Session (Step World after take Faultless)

/-! ### What is left alone -/

/-- From one state of an arbiter and its device to another, nothing has changed but what is recorded
of `user`. The arbiter may have loaded the current user's record, and then has the device's. -/
structure Spares (user : Int) (m : Memory) (d : Device) (m' : Memory) (d' : Device) : Prop where
  zone : d'.zone = d.zone
  changes : m'.changes = m.changes
  telephony : m'.telephony = m.telephony
  geolocation : m'.geolocation = m.geolocation
  trackedUser : m'.trackedUser = m.trackedUser
  currentUser : d'.currentUser = d.currentUser
  seed : d'.seed = d.seed
  stored : ∀ other, other ≠ user → d'.records.get? other = d.records.get? other
  known : ∀ other, other ≠ user → m'.records.peek other = m.records.peek other ∨
    (other = d.currentUser ∧ m.records.peek other = none ∧
      ∃ c, m'.records.peek other = some c ∧ d'.records.get? other = some c)

namespace Spares

variable {user : Int} {m m' m'' : Memory} {d d' d'' : Device}

theorem refl (user : Int) (m : Memory) (d : Device) : Spares user m d m d :=
  ⟨rfl, rfl, rfl, rfl, rfl, rfl, rfl, fun _ _ => rfl, fun _ _ => .inl rfl⟩

theorem trans (h : Spares user m d m' d') (h' : Spares user m' d' m'' d'') :
    Spares user m d m'' d'' where
  zone := h'.zone.trans h.zone
  changes := h'.changes.trans h.changes
  telephony := h'.telephony.trans h.telephony
  geolocation := h'.geolocation.trans h.geolocation
  trackedUser := h'.trackedUser.trans h.trackedUser
  currentUser := h'.currentUser.trans h.currentUser
  seed := h'.seed.trans h.seed
  stored other hother := (h'.stored other hother).trans (h.stored other hother)
  known := by
    intro other hother
    rcases h.known other hother with hsame | ⟨hcurrent, hnone, c, hc, hd⟩ <;>
      rcases h'.known other hother with hsame' | ⟨hcurrent', hnone', c', hc', hd'⟩
    · exact .inl (hsame'.trans hsame)
    · rw [h.currentUser] at hcurrent'
      exact .inr ⟨hcurrent', hsame.symm.trans hnone', c', hc', hd'⟩
    · refine .inr ⟨hcurrent, hnone, c, hsame'.trans hc, ?_⟩
      rw [h'.stored other hother, hd]
    · rw [hc] at hnone'
      exact nomatch hnone'

/-- A device that differs in one user's record. -/
theorem of_device (hzone : d'.zone = d.zone) (hcurrent : d'.currentUser = d.currentUser)
    (hseed : d'.seed = d.seed)
    (hstored : ∀ other, other ≠ user → d'.records.get? other = d.records.get? other) :
    Spares user m d m d' :=
  ⟨hzone, rfl, rfl, rfl, rfl, hcurrent, hseed, hstored, fun _ _ => .inl rfl⟩

/-- Keeping a record of the user. -/
theorem keep (c : Configuration) :
    Spares user m d { m with records := m.records.keep user c } d :=
  { refl user m d with known := fun other hother => .inl (by
      show (m.records.keep user c).peek other = _
      rw [Records.peek_keep, if_neg hother]) }

theorem see (d : Device) : Spares user m d m (d.see user) := by
  refine of_device Device.zone_see Device.currentUser_see ?_ fun other hother => ?_
  · unfold Device.see
    split <;> rfl
  · rw [Device.get?_records_see, if_neg hother]

theorem store (d : Device) (change : ConfigurationChange) :
    Spares user m d m (d.store user change).2 := by
  have hsee : Spares user m d m (d.see user) := see d
  unfold Device.store
  dsimp only
  split
  · exact hsee
  · refine hsee.trans (of_device rfl rfl rfl fun other hother => ?_)
    exact Keyed.get?_insert_of_ne _ hother _

theorem replace (d : Device) (c : Configuration) :
    Spares c.user m d m (d.replace c).2 := by
  unfold Device.replace
  split
  · exact refl _ _ _
  · exact of_device rfl rfl rfl fun other hother => Keyed.get?_insert_of_ne _ hother _

end Spares

/-! ### Scenes -/

/-- The memory still fits a device that differs in the records of other users alone. -/
theorem Coherent.of_device {m : Memory} {d d' : Device} (h : Coherent m d) (hfiled : d'.Filed)
    (hcurrent : d'.currentUser = d.currentUser) (hsame : d'.inEffect = d.inEffect) :
    Coherent m d' where
  toAttuned := h.toAttuned
  filed := hfiled
  tracked := h.tracked.trans hcurrent.symm
  current := by
    intro c hc
    rw [hcurrent] at hc
    exact (h.current hc).trans hsame.symm

namespace Scene

variable {sc sc' sc'' : Scene} {user : Int}

/-- From one scene to another nothing has changed but what is recorded of `user`. -/
abbrev Spares (sc : Scene) (user : Int) (sc' : Scene) : Prop :=
  ZoneArbiter.Spares user sc.memory sc.device sc'.memory sc'.device

theorem spares_load (sc : Scene) (user : Int) : sc.Spares user (sc.load user) := by
  unfold load
  split
  · exact .refl _ _ _
  · exact (Spares.see sc.device).trans (.keep _)

/-- **Reports.** Where the memory fits the device there is nothing to act on, whoever the report is
about. -/
theorem spares_report (h : Coherent sc.memory sc.device) (user : Int) :
    sc.Spares user sc.report := by
  rcases sc.report_cases with ⟨htracked, hknown⟩ | ⟨htracked, hfirst⟩ | hnews
  · rw [report_of_known h.filed htracked hknown]
    exact .refl _ _ _
  · rw [report_of_first h.filed htracked hfirst]
    have howner : sc.device.inEffect.user = sc.device.currentUser := h.filed.user_recordOf _
    refine { ZoneArbiter.Spares.refl user sc.memory sc.device with known := fun other _ => ?_ }
    rw [adopt, remember_memory, Records.peek_replace, howner]
    split
    · rename_i hcurrent
      obtain ⟨c, hc⟩ := Option.isSome_iff_exists.mp h.filed.current
      refine .inr ⟨hcurrent, hcurrent ▸ hfirst, sc.device.inEffect, rfl, ?_⟩
      show sc.device.records.get? other = _
      rw [hcurrent, hc, Device.inEffect, Device.recordOf, hc, Option.getD_some]
    · exact .inl rfl
  · obtain ⟨known, hknown, hne⟩ := hnews h.tracked
    exact absurd (h.current hknown) hne

theorem spares_persist (h : Coherent sc.memory sc.device) (hother : user ≠ sc.device.currentUser)
    (change : ConfigurationChange) : sc.Spares user (sc.persist user change) := by
  have hstored : sc.Spares user ((sc.deviceCall (.storeCall user change)).onDevice fun d =>
      (d.store user change).2) := by
    rw [Spares, onDevice_memory, deviceCall_memory, onDevice_device, deviceCall_device]
    exact .store sc.device change
  have hrests : sc.Rests ((sc.deviceCall (.storeCall user change)).onDevice fun d =>
      (d.store user change).2) := .store h hother
  unfold persist
  dsimp only
  split
  · exact hstored.trans (spares_report hrests.coherent user)
  · exact hstored

/-- **Updates** of a user in the background. -/
theorem spares_update (h : Coherent sc.memory sc.device) (hother : user ≠ sc.device.currentUser)
    (change : ConfigurationChange) : sc.Spares user (sc.update user change).2 := by
  have hload := spares_load sc user
  unfold update
  cases hgrant : (sc.recordOf user).grant? change with
  | none => exact hload
  | some new =>
      have hnew : new.user = user := by
        rw [← Configuration.merge_of_grant hgrant, Configuration.user_merge, h.user_recordOf]
      have hadopt : sc.Spares user ((sc.load user).adopt new) := by
        refine hload.trans ?_
        rw [adopt, remember_memory, Records.replace, hnew]
        exact .keep new
      have hbackground : user ≠ (sc.load user).device.currentUser := by
        rwa [load_currentUser]
      have hcoherent : Coherent ((sc.load user).adopt new).memory
          ((sc.load user).adopt new).device := by
        refine (Rests.adopt (h.load user) fun hcurrent => ?_).coherent
        exact absurd (hnew.symm.trans hcurrent) hbackground
      have hpersist := hadopt.trans (spares_persist hcoherent hbackground change)
      dsimp only
      split
      · exact hpersist
      · -- The user is not the current one, so nothing follows but that listeners are called.
        have hforeign : new.user ≠
            (((sc.load user).adopt new).persist user change).device.currentUser := by
          rwa [hnew, hpersist.currentUser]
        rw [configurationChanged, if_neg hforeign]
        exact hpersist

end Scene

/-! ### Sessions -/

/-- The step changes the settings of a user, through the arbiter or on the device. -/
def Session.Step.Configures (user : Int) : Step → Prop
  | .update v _ | .store v _ => v = user
  | .replace c => c.user = user
  | _ => False

theorem Scene.spares_after {sc : Scene} {user : Int} (h : Coherent sc.memory sc.device)
    (hother : user ≠ sc.device.currentUser) {step : Step} (hstep : step.Configures user) :
    sc.Spares user (sc.after step) := by
  cases step with
  | update v change =>
      obtain rfl := hstep
      exact spares_update h hother change
  | store v change =>
      obtain rfl := hstep
      exact spares_persist h hother change
  | replace c =>
      obtain rfl := hstep
      have hreplaced : sc.Spares c.user (sc.onDevice fun d => (d.replace c).2) :=
        ZoneArbiter.Spares.replace sc.device c
      show sc.Spares c.user (if (sc.device.replace c).1 then
        (sc.onDevice fun d => (d.replace c).2).report else sc.onDevice fun d => (d.replace c).2)
      have hsame : (sc.device.replace c).2.inEffect = sc.device.inEffect := by
        rw [Device.inEffect, Device.currentUser_replace, Device.recordOf_replace,
          if_neg (Ne.symm hother)]
        rfl
      have hcoherent : Coherent sc.memory (sc.device.replace c).2 :=
        h.of_device (h.filed.replace c) (Device.currentUser_replace c) hsame
      split
      · exact hreplaced.trans (spares_report hcoherent c.user)
      · exact hreplaced
  | _ => exact hstep.elim

/-- **Isolation.** In every state of a calm session, changing the settings of a user who is not
current, through the arbiter or on the device, changes nothing but what is recorded of that user. -/
theorem background_isolated {setup : Session.Setup} (hsetup : setup.Calm) {s : System World}
    (hs : setup.system = .ok s) {bound : Nat} {steps : List Step}
    (hcalm : ∀ step ∈ steps, step.Calm) (hok : Faultless bound s steps) {user : Int}
    (hother : user ≠ (after bound s steps).host.device.currentUser) {step : Step}
    (hstep : step.Configures user)
    (hfault : (take bound step (after bound s steps)).1.fault? = none) :
    Spares user (after bound s steps).memory (after bound s steps).host.device
      (take bound step (after bound s steps)).2.memory
      (take bound step (after bound s steps)).2.host.device := by
  obtain ⟨changes, hstart, hfresh⟩ := hsetup.begins hs
  have hshows := hstart.after hcalm hok
  have hcoherent := hfresh.run hcalm
  have hstepCalm : step.Calm := by
    cases step <;> trivial
  have hnext := hshows.take hstepCalm hfault
  rw [hshows.memory, hnext.memory, hshows.device, hnext.device]
  rw [hshows.device] at hother
  exact Scene.spares_after hcoherent hother hstep

/-- User 1's device has come to Paris by telephony, and user 2 was looked up. -/
def Session.cameToParis : List Step :=
  [.telephony { slot := 0, zone := some "Europe/Paris", quality := some .singleZone },
    .capabilities 2]

open Session (Setup cameToParis)

/-- User 2 switches detection off in the background. The device stays in Paris, and user 1's record
is what it was. -/
theorem background_isolated_update :
    let opening := Setup.opening ⟨1, true, true, true, true, false⟩ none
    let step := Step.update 2 ⟨some false, none⟩
    (take 0 step (after 0 opening cameToParis)).2.host.device.zone = some "Europe/Paris" ∧
      (take 0 step (after 0 opening cameToParis)).2.memory.records.peek 1 =
        some ⟨1, true, true, true, true, false⟩ ∧
      (take 0 step (after 0 opening cameToParis)).2.memory.records.peek 2 =
        some ⟨2, true, true, false, true, false⟩ := by
  intro opening step
  have hs : (Setup.plain ⟨1, true, true, true, true, false⟩ none).system = .ok opening :=
    Setup.system_plain _ none
  have hcalm : ∀ step ∈ cameToParis, step.Calm := by simp [cameToParis, Step.Calm]
  have hok : Faultless 0 opening cameToParis := by decide +kernel
  have hother : 2 ≠ (after 0 opening cameToParis).host.device.currentUser := by decide +kernel
  have hstep : step.Configures 2 := rfl
  have hfault : (take 0 step (after 0 opening cameToParis)).1.fault? = none := by decide +kernel
  have hspares := background_isolated (Setup.calm_plain _ none) hs hcalm hok hother hstep hfault
  have hparis : (after 0 opening cameToParis).host.device.zone = some "Europe/Paris" := by
    decide +kernel
  have hknown : (after 0 opening cameToParis).memory.records.peek 1 =
      some ⟨1, true, true, true, true, false⟩ := by
    decide +kernel
  refine ⟨hspares.zone.trans hparis, ?_, by decide +kernel⟩
  rcases hspares.known 1 (by decide) with hsame | ⟨-, hnone, -⟩
  · exact hsame.trans hknown
  · rw [hknown] at hnone
    exact nomatch hnone

end ZoneArbiter
