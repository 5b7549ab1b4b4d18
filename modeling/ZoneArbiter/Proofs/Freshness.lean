import ZoneArbiter.Proofs.Turn

/-!
# ZoneArbiter.Proofs.Freshness

**What a user may do is decided on the record that the arbiter keeps of the user**
(`Session.keptRecord`), and that is the device's record unless the device changed it
behind the arbiter's back (`gates_on_kept_record`). A report makes the arbiter reload
the current user only. So a change on the device of a user who is loaded and in the
background is overlooked (`Session.Step.Overlooked`), until that user is current again.

`Fresh` is the invariant of one user. Every step keeps it but an overlooked change
(`Fresh.after`), and coherence brings it back in every state in which the user is
current.
-/

namespace ZoneArbiter

open Arbiter (Memory)
open Session (Step World)

/-- The record that the arbiter has of a user, if it has one, is the one that the device
holds. -/
def Fresh (user : Int) (m : Memory) (d : Device) : Prop :=
  ∀ c, m.records.peek user = some c → (d.records.get? user).isSome = true ∧ d.recordOf user = c

namespace Fresh

variable {v user : Int} {m : Memory} {d : Device} {sc : Scene}

/-- The current user's record is fresh. -/
theorem of_current (h : Coherent m d) : Fresh d.currentUser m d :=
  fun _ hc => ⟨h.filed.current, (h.current hc).symm⟩

/-- Changes of a device that hold on to the user and leave the record alone. -/
theorem on_device (h : Fresh v m d) {d' : Device}
    (hseen : (d.records.get? v).isSome = true → (d'.records.get? v).isSome = true)
    (hsame : (d.records.get? v).isSome = true → d'.recordOf v = d.recordOf v) :
    Fresh v m d' := by
  intro c hc
  obtain ⟨hheld, hrecord⟩ := h c hc
  exact ⟨hseen hheld, (hsame hheld).trans hrecord⟩

theorem see (h : Fresh v m d) (user : Int) : Fresh v m (d.see user) := by
  refine h.on_device (fun hheld => ?_) fun _ => Device.recordOf_see d user v
  rw [Device.get?_records_see]
  split <;> simp [hheld]

/-- Freshness is a matter of records alone. -/
theorem of_eq (h : Fresh v m d) {m' : Memory} (hrecords : m'.records = m.records)
    (zone : Option String) : Fresh v m' (d.setZone zone) := by
  intro c hc
  rw [hrecords] at hc
  exact h c hc

theorem load (h : Fresh v sc.memory sc.device) (user : Int) :
    Fresh v (sc.load user).memory (sc.load user).device := by
  unfold Scene.load
  split
  · exact h
  · intro c hc
    simp only [Scene.remember_memory, Scene.onDevice_memory, Records.peek_keep] at hc
    split at hc
    · rename_i heq
      rw [heq, ← Option.some.inj hc]
      refine ⟨?_, Device.recordOf_see _ _ _⟩
      simp [Device.get?_records_see]
    · exact h.see user c hc

theorem detect (h : Fresh v sc.memory sc.device) (c : Configuration) (reason : Reason) :
    Fresh v (sc.detect c reason).memory (sc.detect c reason).device := by
  obtain ⟨changes, hmemory⟩ := sc.detect_memory c reason
  obtain ⟨zone, hdevice⟩ := sc.detect_device c reason
  rw [hmemory, hdevice]
  exact h.of_eq rfl zone

theorem configurationChanged (h : Fresh v sc.memory sc.device) (c : Configuration)
    (reason : Reason) :
    Fresh v (sc.configurationChanged c reason).memory
      (sc.configurationChanged c reason).device := by
  obtain ⟨zone, hdevice⟩ := sc.configurationChanged_device c reason
  rw [hdevice]
  exact h.of_eq (sc.configurationChanged_records c reason) zone

/-- **Reports.** A report makes the current user's record fresh, and touches no other. -/
theorem report (hfiled : sc.device.Filed)
    (h : v ≠ sc.device.currentUser → Fresh v sc.memory sc.device) :
    Fresh v sc.report.memory sc.report.device := by
  have hadopt : Fresh v (sc.track.adopt sc.device.inEffect).memory
      (sc.track.adopt sc.device.inEffect).device := by
    intro c hc
    simp only [Scene.adopt, Scene.track, Scene.remember_memory, Records.peek_replace] at hc
    rw [show sc.device.inEffect.user = sc.device.currentUser from hfiled.user_recordOf _] at hc
    split at hc
    · rename_i heq
      rw [heq, ← Option.some.inj hc]
      exact ⟨hfiled.current, rfl⟩
    · rename_i hne
      exact h hne c hc
  rw [Scene.report_eq hfiled]
  split
  · split
    · exact hadopt
    · rename_i known hknown
      split
      · rename_i hsame
        intro c hc
        by_cases hv : v = sc.device.currentUser
        · rw [hv] at hc ⊢
          exact ⟨hfiled.current, hsame.symm.trans (Option.some.inj (hknown.symm.trans hc))⟩
        · exact h hv c hc
      · exact hadopt.configurationChanged _ _
  · exact hadopt.configurationChanged _ _

/-- Persisting settings, where the device and the arbiter's record have come together
before the report. -/
theorem persist (hfiled : sc.device.Filed) {change : ConfigurationChange}
    (h : ((sc.device.store user change).1 = true → v ≠ sc.device.currentUser) →
      Fresh v sc.memory (sc.device.store user change).2) :
    Fresh v (sc.persist user change).memory (sc.persist user change).device := by
  unfold Scene.persist
  dsimp only
  split
  · refine report ?_ fun hother => ?_
    · simpa using hfiled.store change
    · rw [Scene.onDevice_device, Scene.deviceCall_device, Device.currentUser_store] at hother
      simpa using h fun _ => hother
  · rename_i hdue
    simpa using h fun hdue' => absurd hdue' hdue

/-- **Updates.** An update keeps every record fresh. -/
theorem update (h : Fresh v sc.memory sc.device) (hcoherent : Coherent sc.memory sc.device)
    (user : Int) (change : ConfigurationChange) :
    Fresh v (sc.update user change).2.memory (sc.update user change).2.device := by
  have hload := h.load user
  unfold Scene.update
  cases hgrant : (sc.recordOf user).grant? change with
  | none => exact hload
  | some new =>
      have hnew := Configuration.merge_of_grant hgrant
      have howner : new.user = user := by
        rw [← hnew, Configuration.user_merge, hcoherent.user_recordOf]
      -- Device and arbiter merge the same change into the same record.
      have hstored : Fresh v ((sc.load user).adopt new).memory
          (((sc.load user).adopt new).device.store user change).2 := by
        intro c hc
        rw [Scene.adopt, Scene.remember_memory, Records.peek_replace, howner] at hc
        rw [Scene.adopt, Scene.remember_device, Device.recordOf_store]
        split at hc
        · rename_i hv
          subst hv
          obtain ⟨hheld, hrecord⟩ := hload _ (Scene.peek_load v)
          rw [if_pos rfl, hrecord, hnew]
          exact ⟨Device.isSome_store change hheld, Option.some.inj hc⟩
        · rename_i hv
          obtain ⟨hheld, hrecord⟩ := hload c hc
          rw [if_neg hv]
          exact ⟨Device.isSome_store change hheld, hrecord⟩
      have hfiled : ((sc.load user).adopt new).device.Filed := (hcoherent.load user).filed
      have hpersist := persist hfiled fun _ => hstored
      dsimp only
      split
      · exact hpersist
      · exact hpersist.configurationChanged _ _

end Fresh

/-! ### Overlooked changes -/

/-- The step changes a record on the device itself. -/
def Session.Step.ChangesRecord : Step → Prop
  | .replace _ | .store .. => True
  | _ => False

/-- The device changes the record of a user who is loaded and in the background. -/
def Session.Step.Overlooked (bound : Nat) (s : System World) (user : Int) (step : Step) : Prop :=
  step.ChangesRecord ∧ (s.memory.records.peek user).isSome = true ∧
    s.host.device.currentUser ≠ user ∧
    (take bound step s).2.host.device.recordOf user ≠ s.host.device.recordOf user

/-- After every overlooked change of the user's record, the user is current again. -/
def Session.Refreshed (bound : Nat) (s : System World) (user : Int) (steps : List Step) : Prop :=
  ∀ pre step post, steps = pre ++ step :: post →
    step.Overlooked bound (after bound s pre) user →
      ∃ mid, mid <+: post ∧
        (after bound s (pre ++ step :: mid)).host.device.currentUser = user

section Run

open Session (after take Faultless Refreshed)

variable {bound : Nat} {sc : Scene} {s : System World} {user : Int}

/-- A change on the device and its report, if one is due, keep a record fresh unless it is
changed in the background. -/
theorem Fresh.after_change (h : Fresh user sc.memory sc.device) (changed : Scene)
    (hmemory : changed.memory = sc.memory)
    (hcurrent : changed.device.currentUser = sc.device.currentUser)
    (hfiled : changed.device.Filed)
    (hseen : (sc.device.records.get? user).isSome = true →
      (changed.device.records.get? user).isSome = true)
    (due : Bool)
    (hdue : due = false → changed.device.recordOf user = sc.device.recordOf user) :
    Fresh user (if due then changed.report else changed).memory
        (if due then changed.report else changed).device ∨
      (sc.memory.records.peek user).isSome = true ∧ sc.device.currentUser ≠ user ∧
        (if due then changed.report else changed).device.recordOf user ≠
          sc.device.recordOf user := by
  have hkept (hsame : changed.device.recordOf user = sc.device.recordOf user) :
      Fresh user changed.memory changed.device := by
    rw [hmemory]
    exact h.on_device hseen fun _ => hsame
  cases due with
  | false => exact .inl (hkept (hdue rfl))
  | true =>
      obtain ⟨zone, hdevice⟩ := Scene.report_device hfiled
      by_cases hsame : changed.device.recordOf user = sc.device.recordOf user
      · exact .inl (.report hfiled fun _ => hkept hsame)
      · -- The record was changed: the report reloads it if its user is current.
        by_cases hbackground : sc.device.currentUser = user
        · refine .inl (.report hfiled fun hother => ?_)
          rw [hcurrent] at hother
          exact absurd hbackground.symm hother
        · cases hpeek : sc.memory.records.peek user with
          | none =>
              refine .inl (.report hfiled fun _ c hc => ?_)
              rw [hmemory, hpeek] at hc
              simp at hc
          | some c =>
              refine .inr ⟨rfl, hbackground, ?_⟩
              rw [if_pos rfl, hdevice]
              exact hsame

/-- **One step.** A calm step keeps a record fresh, or it is a change of that record that
is overlooked. -/
theorem Fresh.after (h : Fresh user sc.memory sc.device)
    (hcoherent : Coherent sc.memory sc.device) {step : Step} (hcalm : step.Calm) :
    Fresh user (sc.after step).memory (sc.after step).device ∨
      step.ChangesRecord ∧ (sc.memory.records.peek user).isSome = true ∧
        sc.device.currentUser ≠ user ∧
        (sc.after step).device.recordOf user ≠ sc.device.recordOf user := by
  cases step with
  | current | status => exact .inl (h.load _)
  | capabilities other => exact .inl (h.load other)
  | update other change => exact .inl (h.update hcoherent other change)
  | manual other s =>
      refine .inl ?_
      show Fresh user (sc.manual other s).2.memory (sc.manual other s).2.device
      unfold Scene.manual
      split
      · obtain ⟨changes, hmemory⟩ := (sc.load other).moveTo_memory s.zone (.manual other)
        rw [hmemory, Scene.moveTo_device]
        exact (h.load other).of_eq rfl _
      · exact h.load other
  | telephony s =>
      refine .inl (Fresh.detect ?_ _ _)
      rw [Scene.load_record]
      exact h.load _
  | geo s =>
      refine .inl ?_
      show Fresh user (sc.geo s).memory (sc.geo s).device
      unfold Scene.geo
      dsimp only
      split
      · refine Fresh.detect ?_ _ _
        exact h.load _
      · exact h.load _
  | replace c =>
      have hchange := h.after_change (sc.onDevice fun d => (d.replace c).2) rfl
        (Device.currentUser_replace c) (hcoherent.filed.replace c) (Device.isSome_replace c)
        (sc.device.replace c).1 fun hdue => by
          rw [Scene.onDevice_device, Device.replace_of_not_due hdue]
      exact hchange.imp_right fun hoverlooked => ⟨trivial, hoverlooked⟩
  | switch c =>
      refine .inl (.report (hcoherent.filed.switch c) fun hother => ?_)
      refine h.on_device (Device.isSome_switch c) fun _ => ?_
      exact Device.recordOf_switch_of_ne hother
  | store other change =>
      have hchange := h.after_change ((sc.deviceCall (.storeCall other change)).onDevice fun d =>
        (d.store other change).2) (by simp) (by simp)
        (by simpa using hcoherent.filed.store change)
        (fun hheld => by simpa using Device.isSome_store change hheld)
        (sc.device.store other change).1 fun hdue => by
          rw [Scene.onDevice_device, Scene.deviceCall_device, Device.store_of_not_due hdue,
            Device.recordOf_see]
      exact hchange.imp_right fun hoverlooked => ⟨trivial, hoverlooked⟩
  | recordOf other => exact .inl (h.see other)
  | setZone zone => exact .inl (by simpa [Scene.after] using h.of_eq rfl zone)
  | report => exact .inl (.report hcoherent.filed fun _ => h)
  | addListener | addAppendix | invalid | latestTelephony | latestGeo | best | changeLog | zone
  | clock => exact .inl h
  | fault | echo | initialized => exact hcalm.elim

/-- A user who is current somewhere on the way, or whose record is fresh at the start, has a
fresh record at the end, unless a change is overlooked for good. -/
theorem Fresh.run {steps : List Step} (hs : Shows s sc)
    (hcoherent : Coherent sc.memory sc.device) (hcalm : ∀ step ∈ steps, step.Calm)
    (hok : Faultless bound s steps) (hrefreshed : Refreshed bound s user steps)
    (h : Fresh user sc.memory sc.device ∨
      ∃ mid, mid <+: steps ∧ (Session.after bound s mid).host.device.currentUser = user) :
    Fresh user (sc.run steps).memory (sc.run steps).device := by
  have hcurrent {sc : Scene} {s : System World} (hs : Shows s sc)
      (hcoherent : Coherent sc.memory sc.device) (huser : s.host.device.currentUser = user) :
      Fresh user sc.memory sc.device := by
    rw [hs.device] at huser
    exact huser ▸ Fresh.of_current hcoherent
  induction steps generalizing s sc with
  | nil =>
      rcases h with hfresh | ⟨mid, hmid, huser⟩
      · exact hfresh
      · rw [List.prefix_nil.mp hmid] at huser
        exact hcurrent hs hcoherent huser
  | cons step rest ih =>
      obtain ⟨hstep, hcalm⟩ := List.forall_mem_cons.mp hcalm
      obtain ⟨hfault, hok⟩ := Session.faultless_cons.mp hok
      have hnext := hs.take hstep hfault
      have hlater : Refreshed bound (take bound step s).2 user rest := by
        rintro pre later post rfl hoverlooked
        exact hrefreshed (step :: pre) later post rfl hoverlooked
      refine ih hnext (hcoherent.after hstep) hcalm hok hlater ?_
      have hfresh : Fresh user sc.memory sc.device ∨
          ∃ mid, mid <+: rest ∧
            (Session.after bound (take bound step s).2 mid).host.device.currentUser = user := by
        rcases h with hfresh | ⟨mid, hmid, huser⟩
        · exact .inl hfresh
        · cases mid with
          | nil => exact .inl (hcurrent hs hcoherent huser)
          | cons first mid =>
              obtain ⟨rfl, hrest⟩ := List.cons_prefix_cons.mp hmid
              exact .inr ⟨mid, hrest, huser⟩
      rcases hfresh with hfresh | hsoon
      · rcases hfresh.after hcoherent hstep with hkept | ⟨hchanges, hknown, hother, hrecord⟩
        · exact .inl hkept
        · -- The change is overlooked, but then the user is current before the end.
          refine .inr (hrefreshed [] step rest rfl ⟨hchanges, ?_, ?_, ?_⟩)
          · rwa [Session.after_nil, hs.memory]
          · rwa [Session.after_nil, hs.device]
          · rwa [Session.after_nil, hnext.device, hs.device]
      · exact .inr hsoon

end Run

/-! ### Gates -/

/-- The record that decides what a user may do: the arbiter's own, or else the one that the
device answers with. -/
def Session.keptRecord (s : System World) (user : Int) : Configuration :=
  (s.memory.records.peek user).getD (s.host.device.recordOf user)

section Gates

open Session (after take Faultless Refreshed keptRecord)

variable {bound : Nat} {sc : Scene} {s : System World} {user : Int}

theorem Shows.keptRecord (hs : Shows s sc) (user : Int) : keptRecord s user = sc.recordOf user := by
  rw [Session.keptRecord, hs.memory, hs.device]
  rfl

theorem Scene.update_fst (user : Int) (change : ConfigurationChange) :
    (sc.update user change).1 = ((sc.recordOf user).grant? change).isSome := by
  unfold update
  cases (sc.recordOf user).grant? change <;> rfl

theorem Scene.manual_fst (user : Int) (pick : ManualSuggestion) :
    (sc.manual user pick).1 =
      decide ((sc.recordOf user).capabilities.suggestManual = .possessed) := by
  unfold manual
  split <;> simp_all

/-- A report forgets no user. -/
theorem Scene.known_report (hfiled : sc.device.Filed)
    (h : (sc.memory.records.peek user).isSome = true) :
    (sc.report.memory.records.peek user).isSome = true := by
  have hadopt : ((sc.track.adopt sc.device.inEffect).memory.records.peek user).isSome = true := by
    rw [adopt, remember_memory, Records.peek_replace]
    split
    · rfl
    · exact h
  rw [report_eq hfiled]
  split
  · split
    · exact hadopt
    · split
      · exact h
      · rwa [configurationChanged_records]
  · rwa [configurationChanged_records]

/-- A user who was asked about in an update is known from then on. -/
theorem Scene.known_update (h : Coherent sc.memory sc.device) (user : Int)
    (change : ConfigurationChange) :
    ((sc.update user change).2.memory.records.peek user).isSome = true := by
  unfold update
  cases hgrant : (sc.recordOf user).grant? change with
  | none => simp [peek_load]
  | some new =>
      have howner : new.user = user := by
        rw [← Configuration.merge_of_grant hgrant, Configuration.user_merge, h.user_recordOf]
      have hadopt : (((sc.load user).adopt new).memory.records.peek user).isSome = true := by
        rw [adopt, remember_memory, Records.peek_replace, if_pos howner.symm]
        rfl
      have hpersist : ((((sc.load user).adopt new).persist user change).memory.records.peek
          user).isSome = true := by
        unfold persist
        dsimp only
        split
        · refine known_report ?_ (by simpa using hadopt)
          simpa [adopt] using (h.load user).filed.store change
        · simpa using hadopt
      dsimp only
      split
      · exact hpersist
      · rwa [configurationChanged_records]

/-- **Gates.** In every state of a calm session, what a user may do is decided on the record
that the arbiter keeps of the user. That is the device's record, and after an accepted
update both are the same again, if the user has been current after every change of the
record that was overlooked. -/
theorem gates_on_kept_record {setup : Session.Setup} (hsetup : setup.Calm)
    (hs : setup.system = .ok s) {steps : List Step} (hcalm : ∀ step ∈ steps, step.Calm)
    (hok : Faultless bound s steps) (user : Int) :
    (∀ change, (take bound (.update user change) (after bound s steps)).1.fault? = none →
      (take bound (.update user change) (after bound s steps)).1.outcome =
        .ok (.flag ((keptRecord (after bound s steps) user).grant? change).isSome)) ∧
    (∀ pick, (take bound (.manual user pick) (after bound s steps)).1.fault? = none →
      (take bound (.manual user pick) (after bound s steps)).1.outcome =
        .ok (.flag (decide
          ((keptRecord (after bound s steps) user).capabilities.suggestManual = .possessed)))) ∧
    (Refreshed bound s user steps →
      keptRecord (after bound s steps) user = (after bound s steps).host.device.recordOf user ∧
      ∀ change,
        (take bound (.update user change) (after bound s steps)).1.outcome = .ok (.flag true) →
        (take bound (.update user change) (after bound s steps)).2.memory.records.peek user =
          some ((take bound (.update user change) (after bound s steps)).2.host.device.recordOf
            user)) := by
  obtain ⟨changes, hstart, hfresh⟩ := hsetup.begins hs
  have hafter := hstart.after hcalm hok
  have hcoherent := hfresh.run hcalm
  refine ⟨fun change hfault => ?_, fun pick hfault => ?_, fun hrefreshed => ?_⟩
  · rw [hafter.keptRecord, ← Scene.update_fst]
    exact hafter.outcome_take (by simp)
      ((plays_updateConfiguration bound user change).bind (Plays.pure _ _).inTime) hfault
  · rw [hafter.keptRecord, ← Scene.manual_fst user pick]
    exact hafter.outcome_take (by simp)
      ((plays_suggestManual bound user pick).bind (Plays.pure _ _).inTime) hfault
  · have hbegin : Fresh user (setup.scene changes).memory (setup.scene changes).device := by
      intro c hc
      simp [Session.Setup.scene, Memory.fresh, Records.peek] at hc
    have hend := Fresh.run hstart hfresh hcalm hok hrefreshed (.inl hbegin)
    refine ⟨?_, fun change haccepted => ?_⟩
    · rw [hafter.keptRecord, hafter.device, Scene.recordOf]
      cases hpeek : ((setup.scene changes).run steps).memory.records.peek user with
      | none => rfl
      | some c => exact (hend c hpeek).2.symm
    · have hnext : Shows (take bound (.update user change) (after bound s steps)).2 _ :=
        hafter.take trivial (by simp [Session.StepReport.fault?, haccepted])
      rw [hnext.memory, hnext.device]
      obtain ⟨c, hc⟩ := Option.isSome_iff_exists.mp (Scene.known_update hcoherent user change)
      rw [Scene.clear_memory, Scene.clear_device]
      rw [show ((setup.scene changes).run steps).after (.update user change) =
        (((setup.scene changes).run steps).update user change).2 from rfl, hc,
        ((hend.update hcoherent user change) c hc).2]

/-- User 2 is looked up, and then denied every change on the device. -/
def Session.restriction : List Step :=
  [.capabilities 2, .replace ⟨2, false, true, false, true, false⟩]

/-- The same on a new device of user 1. -/
def Session.restricted : System World :=
  after 0 (Setup.opening ⟨1, true, true, false, true, false⟩ none) restriction

/-- The restriction is overlooked: in the background the user changes a setting and picks a
zone all the same, which the device's record does not permit. -/
theorem gates_on_device_record_fails :
    (Session.restricted.host.device.recordOf 2).grant? ⟨some true, none⟩ = none ∧
      (take 0 (.update 2 ⟨some true, none⟩) Session.restricted).1.outcome = .ok (.flag true) ∧
      (Session.restricted.host.device.recordOf 2).capabilities.suggestManual = .notAllowed ∧
      (take 0 (.manual 2 ⟨"Europe/Oslo"⟩) Session.restricted).1.outcome = .ok (.flag true) ∧
      (take 0 (.update 2 ⟨some true, none⟩) Session.restricted).2.memory.records.peek 2 ≠
        some ((take 0 (.update 2 ⟨some true, none⟩) Session.restricted).2.host.device.recordOf 2) :=
  ⟨by decide, rfl, by decide, rfl, by decide⟩

/-- Once user 2 was brought to the foreground, the restriction is in force. -/
theorem gates_on_kept_record_switched :
    (take 0 (.update 2 ⟨some true, none⟩)
      (after 0 (Session.Setup.opening ⟨1, true, true, false, true, false⟩ none)
        (Session.restriction ++ [.switch ⟨2, true, true, false, true, false⟩]))).1.outcome =
          .ok (.flag false) := by
  have hrefreshed : Refreshed 0 (Session.Setup.opening ⟨1, true, true, false, true, false⟩ none) 2
      (Session.restriction ++ [.switch ⟨2, true, true, false, true, false⟩]) := by
    -- The restriction is the only change, and the switch follows it.
    rintro pre step post hsplit ⟨hchanges, -⟩
    obtain _ | ⟨first, _ | ⟨second, _ | ⟨third, pre⟩⟩⟩ := pre <;>
      simp [Session.restriction] at hsplit
    · obtain ⟨rfl, -⟩ := hsplit
      exact hchanges.elim
    · obtain ⟨rfl, rfl, rfl⟩ := hsplit
      exact ⟨_, List.prefix_refl _, by decide⟩
    · obtain ⟨-, -, rfl, -⟩ := hsplit
      exact hchanges.elim
  have hcalm : ∀ step ∈ Session.restriction ++ [.switch ⟨2, true, true, false, true, false⟩],
      step.Calm := by
    simp [Session.restriction, Step.Calm]
  have hok : Faultless 0 (Session.Setup.opening ⟨1, true, true, false, true, false⟩ none)
      (Session.restriction ++ [.switch ⟨2, true, true, false, true, false⟩]) := by
    simp only [Session.restriction, List.cons_append, List.nil_append, Session.faultless_cons]
    exact ⟨rfl, rfl, rfl, Session.faultless_nil _ _⟩
  obtain ⟨hupdate, -, hkept⟩ := gates_on_kept_record (Session.Setup.calm_plain _ none)
    (Session.Setup.system_plain _ none) hcalm hok 2
  have hdevice := (hkept hrefreshed).1
  rw [hupdate ⟨some true, none⟩ rfl, hdevice]
  rfl

end Gates

end ZoneArbiter
