import ZoneArbiter.Proofs.Scene.Calls

/-!
# ZoneArbiter.Proofs.Turn

**What a calm step can do to the zone and to the suggestions** (`Scene.Turn`): leave
them at rest, end in detection on the record in effect, take a user's pick, or set
the zone of the device. `Scene.turn_after` finds the turn of every step, and
`Coherent.run` carries coherence through every run.

Which steps detect the zone anew, on which record, and how often they call the
listeners (`Scene.rounds`) is settled here once; what is proved of the zone, of the
suggestions and of the calls goes by the cases of `Turn` and looks into no step again.
-/

namespace ZoneArbiter

open Session (Step)

/-! ### What a step can do -/

/-- From one scene to another with the zone and the suggestions at rest. The record
in effect may only change as long as nothing was suggested. -/
structure Scene.Rests (sc sc' : Scene) : Prop where
  coherent : Coherent sc'.memory sc'.device
  currentUser : sc'.device.currentUser = sc.device.currentUser
  zone : sc'.device.zone = sc.device.zone
  telephony : sc'.memory.telephony = sc.memory.telephony
  geolocation : sc'.memory.geolocation = sc.memory.geolocation
  inEffect : sc'.device.inEffect = sc.device.inEffect ∨
    (sc.memory.telephony.best? = none ∧ sc.memory.geolocation = none)

/-- The arbiter has to act on what the device has come to: another user is current, or
the record in effect is another one and the old one is known. -/
def Scene.News (sc : Scene) (d : Device) : Prop :=
  d.currentUser ≠ sc.device.currentUser ∨
    ((sc.memory.records.peek sc.device.currentUser).isSome = true ∧
      d.inEffect ≠ sc.device.inEffect)

instance (sc : Scene) (d : Device) : Decidable (sc.News d) := inferInstanceAs (Decidable (_ ∨ _))

/-- How often a calm step calls every listener: once for an update that alters the record
it is granted on, and once for news of the device. -/
def Scene.rounds (sc : Scene) : Step → Nat
  | .update user change =>
      match (sc.recordOf user).grant? change with
      | some new => if new = sc.recordOf user then 0 else 1
      | none => 0
  | .replace c => if sc.News (sc.device.replace c).2 then 1 else 0
  | .store user change => if sc.News (sc.device.store user change).2 then 1 else 0
  | .switch c => if sc.News (sc.device.switch c) then 1 else 0
  | _ => 0

/-- What a calm step does to the zone and to the suggestions: it leaves them alone,
it ends in detection on the record in effect, it takes a user's pick, or it sets the
zone of the device. -/
inductive Scene.Turn (sc : Scene) : Step → Scene → Prop
  /-- Nothing moves. -/
  | rests {step : Step} {sc' : Scene} (h : sc.Rests sc')
      (calls : sc.Calls (sc.rounds step) [] sc') : sc.Turn step sc'
  /-- The step ends in detection, from where the device was before; what geolocation
  suggests by then is the step's own suggestion or was held before. The listeners are
  called before, and the zone is not written before. -/
  | detects {step : Step} {pre : Scene} {c : Configuration} {reason : Reason}
      (coherent : Coherent pre.memory pre.device) (inEffect : c = pre.device.inEffect)
      (zone : pre.device.zone = sc.device.zone)
      (located : ∀ g, pre.memory.geolocation = some g →
        (step = .geo g ∧ sc.device.inEffect.geoBehavior = true) ∨
          sc.memory.geolocation = some g)
      (calls : sc.Calls (sc.rounds step) [] pre) :
      sc.Turn step (pre.detect c reason)
  /-- A user's pick is taken. -/
  | picks {user : Int} {s : ManualSuggestion}
      (allowed : (sc.recordOf user).capabilities.suggestManual = .possessed) :
      sc.Turn (.manual user s) ((sc.load user).moveTo s.zone (.manual user))
  /-- The zone of the device is set. -/
  | sets (zone : Option String) :
      sc.Turn (.setZone zone) ((sc.deviceCall (.zoneWrite zone)).onDevice (·.setZone zone))
  /-- A listener is registered. -/
  | enrols {name : String} {steps : List Step} {times : Nat} {fault : Option Fault} :
      sc.Turn (.addListener name steps times fault)
        (sc.after (.addListener name steps times fault))

/-- Every turn ends in coherence. -/
theorem Scene.Turn.coherent {sc sc' : Scene} {step : Step} (h : sc.Turn step sc')
    (hcoherent : Coherent sc.memory sc.device) : Coherent sc'.memory sc'.device := by
  cases h with
  | rests h => exact h.coherent
  | detects hpre => exact hpre.detect _ _
  | picks => exact (hcoherent.load _).moveTo _ _
  | sets zone => simpa using hcoherent.setZone zone
  | enrols => exact hcoherent.bookkeeping _ _ _

namespace Scene.Rests

variable {sc sc' sc'' : Scene}

theorem refl (h : Coherent sc.memory sc.device) : sc.Rests sc :=
  ⟨h, rfl, rfl, rfl, rfl, .inl rfl⟩

theorem trans (h : sc.Rests sc') (h' : sc'.Rests sc'') : sc.Rests sc'' where
  coherent := h'.coherent
  currentUser := h'.currentUser.trans h.currentUser
  zone := h'.zone.trans h.zone
  telephony := h'.telephony.trans h.telephony
  geolocation := h'.geolocation.trans h.geolocation
  inEffect := by
    rcases h'.inEffect with hsame | hidle
    · rw [hsame]
      exact h.inEffect
    · rw [← h.telephony, ← h.geolocation]
      exact .inr hidle

/-- A step that neither loads nor changes a record is at rest. -/
theorem of_eq (h : Coherent sc.memory sc.device) (hdevice : sc'.device = sc.device)
    (hmemory : ∃ changes listeners appendices,
      sc'.memory = { sc.memory with changes, listeners, appendices }) : sc.Rests sc' := by
  obtain ⟨changes, listeners, appendices, hmemory⟩ := hmemory
  refine ⟨?_, ?_, ?_, ?_, ?_, .inl ?_⟩
  · rw [hmemory, hdevice]
    exact h.bookkeeping changes listeners appendices
  all_goals first | rw [hdevice] | rw [hmemory]

theorem load (h : Coherent sc.memory sc.device) (user : Int) : sc.Rests (sc.load user) := by
  refine ⟨h.load user, ?_, ?_, ?_, ?_, .inl ?_⟩ <;> unfold Scene.load <;> split
  all_goals first
    | rfl
    | simp [Device.inEffect, Device.recordOf_see]

theorem see (h : Coherent sc.memory sc.device) (user : Int) :
    sc.Rests (sc.onDevice (·.see user)) := by
  refine ⟨h.see user, ?_, ?_, rfl, rfl, .inl ?_⟩
  · simp
  · simp
  · simp [Device.inEffect, Device.recordOf_see]

/-- Keeping a record of another user, or the one in effect. -/
theorem adopt (h : Coherent sc.memory sc.device) {c : Configuration}
    (hc : c.user = sc.device.currentUser → c = sc.device.inEffect) : sc.Rests (sc.adopt c) :=
  ⟨h.keep hc, rfl, rfl, rfl, rfl, .inl rfl⟩

/-- A report of a device that the memory fits: there is nothing to act on. -/
theorem report (h : Coherent sc.memory sc.device) : sc.Rests sc.report := by
  rcases sc.report_cases with ⟨htracked, hknown⟩ | ⟨htracked, hfirst⟩ | hnews
  · rw [Scene.report_of_known h.filed htracked hknown]
    exact refl h
  · rw [Scene.report_of_first h.filed htracked hfirst]
    exact adopt h fun _ => rfl
  · obtain ⟨known, hknown, hne⟩ := hnews h.tracked
    exact absurd (h.current hknown) hne

end Scene.Rests

namespace Scene.Turn

variable {sc sc0 : Scene} {step : Step}

/-- **Reports.** Whatever was changed on the device, its report leaves the zone and
the suggestions at rest or ends in detection. -/
theorem report (h : Coherent sc0.memory sc0.device) (hmemory : sc.memory = sc0.memory)
    (hfiled : sc.device.Filed) (hzone : sc.device.zone = sc0.device.zone)
    (hquiet : sc0.Calls 0 [] sc)
    (hrounds : sc0.rounds step = if sc0.News sc.device then 1 else 0) :
    sc0.Turn step sc.report := by
  -- What is known of the current user is what it was before the device changed.
  have hkept (htracked : sc.memory.trackedUser = sc.device.currentUser) :
      sc.memory.records.peek sc.device.currentUser =
        sc0.memory.records.peek sc0.device.currentUser := by
    rw [← htracked, hmemory, h.tracked]
  rcases sc.report_cases with ⟨htracked, hknown⟩ | ⟨htracked, hfirst⟩ | hnews
  · rw [Scene.report_of_known hfiled htracked hknown]
    have hcurrent := htracked.symm.trans (hmemory ▸ h.tracked)
    have hsame := h.current ((hkept htracked).symm.trans hknown)
    have hold : ¬ sc0.News sc.device := fun hnews => hnews.elim (· hcurrent) (·.2 hsame)
    rw [if_neg hold] at hrounds
    refine .rests ⟨?_, hcurrent, hzone, by rw [hmemory], by rw [hmemory], .inl hsame⟩
      (hrounds ▸ hquiet)
    refine ⟨hmemory ▸ h.toAttuned, hfiled, htracked, fun hc => ?_⟩
    rw [hknown] at hc
    exact (Option.some.inj hc).symm
  · -- The first record is not acted on, but nothing was suggested so far.
    rw [Scene.report_of_first hfiled htracked hfirst]
    have hcurrent := htracked.symm.trans (hmemory ▸ h.tracked)
    have hunknown := (hkept htracked).symm.trans hfirst
    have hold : ¬ sc0.News sc.device := by
      rintro (hother | ⟨hknown, -⟩)
      · exact hother hcurrent
      · simp [hunknown] at hknown
    rw [if_neg hold] at hrounds
    have hcoherent : Coherent sc.memory sc.device :=
      ⟨hmemory ▸ h.toAttuned, hfiled, htracked, by simp [hfirst]⟩
    refine .rests ⟨hcoherent.keep fun _ => rfl, hcurrent, hzone, ?_, ?_, .inr ?_⟩
      (hrounds ▸ hquiet.thenQuiet (.adopt sc _))
    · rw [← hmemory]
      rfl
    · rw [← hmemory]
      rfl
    · exact h.idle_of_peek hunknown
  · rw [Scene.report_of_news hfiled hnews]
    have htaken : (sc.track.adopt sc.device.inEffect).UpToDate :=
      .adopt hfiled fun hc => h.own (hmemory ▸ hc)
    have hheard : sc0.News sc.device := by
      by_cases hcurrent : sc.device.currentUser = sc0.device.currentUser
      · have htracked : sc.memory.trackedUser = sc.device.currentUser := by
          rw [hmemory, h.tracked, hcurrent]
        obtain ⟨known, hknown, hne⟩ := hnews htracked
        rw [hkept htracked] at hknown
        refine .inr ⟨by rw [hknown]; rfl, fun hsame => hne ?_⟩
        exact (h.current hknown).trans hsame.symm
      · exact .inl hcurrent
    rw [if_pos hheard] at hrounds
    refine .detects htaken.changed ?_ ?_ ?_ (hrounds ▸ hquiet.quietly (.report_of_news sc))
    · rw [Scene.changed_device]
      rfl
    · rw [Scene.changed_device]
      exact hzone
    · intro g hg
      rw [← hmemory]
      exact .inr (Scene.geolocation_changed hg).1

end Scene.Turn

/-! ### Updates -/

section Update

variable {sc : Scene} {user : Int} {change : ConfigurationChange}

/-- The record that the arbiter goes by names its user. -/
theorem Coherent.user_recordOf (h : Coherent sc.memory sc.device) (user : Int) :
    (sc.recordOf user).user = user := by
  unfold Scene.recordOf
  cases hpeek : sc.memory.records.peek user with
  | none => exact h.filed.user_recordOf user
  | some c => exact h.own hpeek

/-- Settings of a user in the background are stored on the device. -/
theorem Scene.Rests.store (h : Coherent sc.memory sc.device)
    (hother : user ≠ sc.device.currentUser) :
    sc.Rests ((sc.deviceCall (.storeCall user change)).onDevice fun d =>
      (d.store user change).2) := by
  have hsame : (sc.device.store user change).2.inEffect = sc.device.inEffect := by
    rw [Device.inEffect, Device.currentUser_store, Device.recordOf_store, if_neg (Ne.symm hother)]
    rfl
  refine ⟨?_, ?_, ?_, ?_, ?_, .inl ?_⟩
  · simp only [Scene.onDevice_memory, Scene.deviceCall_memory, Scene.onDevice_device,
      Scene.deviceCall_device]
    refine ⟨h.toAttuned, h.filed.store change, ?_, ?_⟩
    · rw [Device.currentUser_store, h.tracked]
    · intro c hc
      rw [Device.currentUser_store] at hc
      exact (h.current hc).trans hsame.symm
  all_goals simp [hsame]

/-- Persisting settings of a user in the background. -/
theorem Scene.Rests.persist (h : Coherent sc.memory sc.device)
    (hother : user ≠ sc.device.currentUser) : sc.Rests (sc.persist user change) := by
  have hstored : sc.Rests ((sc.deviceCall (.storeCall user change)).onDevice fun d =>
      (d.store user change).2) := .store h hother
  -- Even a report finds nothing new: it is about the current user, who was not touched.
  unfold Scene.persist
  dsimp only
  split
  · exact hstored.trans (.report hstored.coherent)
  · exact hstored

/-- Nor is anybody called. -/
theorem Scene.Calls.persist (h : Coherent sc.memory sc.device)
    (hother : user ≠ sc.device.currentUser) : sc.Calls 0 [] (sc.persist user change) := by
  have hstored : sc.Rests ((sc.deviceCall (.storeCall user change)).onDevice fun d =>
      (d.store user change).2) := .store h hother
  have hcoherent := hstored.coherent
  unfold Scene.persist
  dsimp only
  split
  · exact (Scene.Calls.store sc user change).quietly
      (.report_of_none hcoherent.filed hcoherent.tracked fun _ => hcoherent.current)
  · exact .store sc user change

/-- An update of a user in the background leaves the zone and the suggestions at
rest, and calls the listeners if it alters the record. -/
theorem Scene.Turn.update_background (h : Coherent sc.memory sc.device)
    (hother : user ≠ sc.device.currentUser) :
    sc.Turn (.update user change) (sc.update user change).2 := by
  have hload := Scene.Rests.load h user
  have hrounds : sc.rounds (.update user change) =
      match (sc.recordOf user).grant? change with
      | some new => if new = sc.recordOf user then 0 else 1
      | none => 0 := rfl
  unfold Scene.update
  cases hgrant : (sc.recordOf user).grant? change with
  | none =>
      rw [hgrant] at hrounds
      exact .rests hload (hrounds ▸ .load sc user)
  | some new =>
      rw [hgrant] at hrounds
      have hnew : new.user = user := by
        rw [← Configuration.merge_of_grant hgrant, Configuration.user_merge, h.user_recordOf]
      have hadopt : sc.Rests ((sc.load user).adopt new) := by
        refine hload.trans (.adopt hload.coherent fun hcurrent => ?_)
        rw [hnew, hload.currentUser] at hcurrent
        exact absurd hcurrent hother
      have hbackground : user ≠ ((sc.load user).adopt new).device.currentUser :=
        hadopt.currentUser ▸ hother
      have hpersist : sc.Rests (((sc.load user).adopt new).persist user change) :=
        hadopt.trans (.persist hadopt.coherent hbackground)
      have hquiet : sc.Calls 0 [] (((sc.load user).adopt new).persist user change) :=
        ((Scene.Calls.load sc user).quietly (.adopt _ new)).quietly
          (.persist hadopt.coherent hbackground)
      dsimp only at hrounds ⊢
      split at hrounds
      · rename_i hsame
        rw [if_pos hsame]
        exact .rests hpersist (hrounds ▸ hquiet)
      · rename_i hchanged
        rw [if_neg hchanged, Scene.configurationChanged,
          if_neg (by rwa [hnew, hpersist.currentUser])]
        exact .rests (hpersist.trans (.of_eq hpersist.coherent rfl ⟨_, _, _, rfl⟩))
          (hrounds ▸ hquiet.quietly (.tell _))

/-- The scene once the arbiter and the device both have the record that a change of
the current user's settings leads to. -/
def Scene.stored (sc : Scene) (change : ConfigurationChange) (new : Configuration) : Scene :=
  (((sc.load sc.device.currentUser).adopt new).deviceCall
    (.storeCall sc.device.currentUser change)).onDevice fun d =>
      (d.store sc.device.currentUser change).2

/-- It is the same record on both sides, so the arbiter is up to date. -/
theorem Scene.upToDate_stored (h : Coherent sc.memory sc.device) {new : Configuration}
    (hnew : sc.device.inEffect.merge change = new) :
    (sc.stored change new).UpToDate ∧ (sc.stored change new).device.inEffect = new := by
  have hload := Scene.Rests.load h sc.device.currentUser
  have huser : new.user = sc.device.currentUser := by
    rw [← hnew, Configuration.user_merge]
    exact h.filed.user_recordOf _
  have hcurrent : (sc.stored change new).device.currentUser = sc.device.currentUser := by
    simp [Scene.stored, Scene.adopt]
  have hrecord : (sc.stored change new).device.inEffect = new := by
    rw [Device.inEffect, hcurrent]
    simp only [Scene.stored, Scene.onDevice_device, Scene.deviceCall_device, Scene.adopt,
      Scene.remember_device, Device.recordOf_store, if_true, Scene.load_recordOf]
    exact hnew
  have hrecords : (sc.stored change new).memory.records =
      (sc.load sc.device.currentUser).memory.records.replace new := by
    simp [Scene.stored, Scene.adopt]
  refine ⟨⟨fun hc => ?_, ?_, ?_, ?_⟩, hrecord⟩
  · rw [hrecords] at hc
    exact Records.own_replace hload.coherent.own new hc
  · simpa [Scene.stored, Scene.adopt] using hload.coherent.filed.store change
  · rw [hcurrent, ← hload.currentUser, ← hload.coherent.tracked]
    simp [Scene.stored, Scene.adopt]
  · rw [hrecord, hcurrent, hrecords, Records.peek_replace, if_pos huser.symm]

/-- Nobody is called on the way there. -/
theorem Scene.Calls.stored (sc : Scene) (change : ConfigurationChange) (new : Configuration) :
    sc.Calls 0 [] (sc.stored change new) :=
  ((load sc _).quietly (adopt _ new)).quietly (store _ _ _)

/-- An update of the current user leaves the zone and the suggestions at rest, or ends
in detection on the new record. -/
theorem Scene.Turn.update (h : Coherent sc.memory sc.device) :
    sc.Turn (.update sc.device.currentUser change)
      (sc.update sc.device.currentUser change).2 := by
  have hload := Scene.Rests.load h sc.device.currentUser
  have hrounds : sc.rounds (.update sc.device.currentUser change) =
      match sc.device.inEffect.grant? change with
      | some new => if new = sc.device.inEffect then 0 else 1
      | none => 0 := by
    rw [← h.recordOf_currentUser]
    rfl
  unfold Scene.update
  rw [h.recordOf_currentUser]
  cases hgrant : sc.device.inEffect.grant? change with
  | none =>
      rw [hgrant] at hrounds
      exact .rests hload (hrounds ▸ .load sc _)
  | some new =>
      rw [hgrant] at hrounds
      obtain ⟨hupToDate, hrecord⟩ :=
        Scene.upToDate_stored h (Configuration.merge_of_grant hgrant)
      -- The report of the change finds the record that the arbiter has already.
      have hpersist : ((sc.load sc.device.currentUser).adopt new).persist sc.device.currentUser
          change = sc.stored change new := by
        unfold Scene.persist
        dsimp only
        split
        · exact hupToDate.report
        · rfl
      have hcurrent : (sc.stored change new).device.currentUser = sc.device.currentUser := by
        simp [Scene.stored, Scene.adopt]
      have hzone : (sc.stored change new).device.zone = sc.device.zone := by
        simp [Scene.stored, Scene.adopt, hload.zone]
      have hgeolocation :
          (sc.stored change new).memory.geolocation = sc.memory.geolocation := by
        simp [Scene.stored, Scene.adopt, hload.geolocation]
      have hquiet := Scene.Calls.stored sc change new
      dsimp only at hrounds ⊢
      rw [hpersist]
      split at hrounds
      · rename_i hsame
        rw [if_pos hsame]
        refine .rests ⟨hupToDate.coherent fun g hg => ?_, hcurrent, hzone, ?_, hgeolocation, ?_⟩
          (hrounds ▸ hquiet)
        · rw [hrecord, hsame]
          exact h.inEffect_of_located (hgeolocation ▸ hg)
        · simp [Scene.stored, Scene.adopt, hload.telephony]
        · rw [hrecord]
          exact .inl hsame
      · rename_i hchanged
        rw [if_neg hchanged]
        have howner : new.user = (sc.stored change new).device.currentUser :=
          (congrArg Configuration.user hrecord).symm.trans (hupToDate.filed.user_recordOf _)
        have hpre := hupToDate.changed
        rw [hrecord] at hpre
        rw [Scene.configurationChanged_of_current howner]
        refine .detects hpre ?_ ?_ (fun g hg => .inr ?_) (hrounds ▸ hquiet.quietly (.changed _ _))
        · rw [Scene.changed_device, hrecord]
        · rw [Scene.changed_device, hzone]
        · rw [← hgeolocation]
          exact (Scene.geolocation_changed hg).1

end Update

/-! ### Steps and runs -/

section Run

variable {sc : Scene}

/-- Once the record in effect is loaded, it is known. -/
theorem Coherent.known_load (h : Coherent sc.memory sc.device) :
    (sc.load sc.device.currentUser).memory.records.peek
      (sc.load sc.device.currentUser).device.currentUser =
        some (sc.load sc.device.currentUser).device.inEffect := by
  rw [Device.inEffect, Scene.load_currentUser, Scene.load_recordOf, Scene.peek_load,
    h.recordOf_currentUser]
  rfl

/-- Recording a telephony suggestion and loading the record in effect end alike in
either order. -/
theorem Scene.load_record (s : TelephonySuggestion) (user : Int) :
    (sc.remember fun m => { m with telephony := m.telephony.record s }).load user =
      (sc.load user).remember fun m => { m with telephony := m.telephony.record s } := by
  unfold Scene.load
  simp only [remember_memory]
  cases sc.memory.records.peek user <;> rfl

/-- A telephony suggestion ends in detection, and calls nobody before. -/
theorem Scene.telephony_eq_detect (h : Coherent sc.memory sc.device) (s : TelephonySuggestion) :
    ∃ pre : Scene, Coherent pre.memory pre.device ∧ pre.device.zone = sc.device.zone ∧
      pre.memory.geolocation = sc.memory.geolocation ∧
      sc.telephony s = pre.detect pre.device.inEffect (.telephonySuggestion s.slot) ∧
      sc.Calls 0 [] pre := by
  have hload := Scene.Rests.load h sc.device.currentUser
  refine ⟨(sc.load sc.device.currentUser).remember fun m =>
    { m with telephony := m.telephony.record s }, ?_, hload.zone, hload.geolocation, ?_,
    (Scene.Calls.load sc _).quietly (.of_calls rfl rfl rfl rfl)⟩
  · exact hload.coherent.suggested h.known_load _ fun g => hload.coherent.inEffect_of_located
  · rw [Scene.telephony, Scene.load_record, h.recordOf_currentUser, Scene.remember_device,
      Scene.load_inEffect]

/-- A suggestion of geolocation that is asked for is held, and ends in detection; nobody
is called before. -/
theorem Scene.geo_eq_detect (h : Coherent sc.memory sc.device) (s : GeoSuggestion)
    (hgeo : sc.device.inEffect.geoBehavior = true) :
    ∃ pre : Scene, Coherent pre.memory pre.device ∧ pre.device.zone = sc.device.zone ∧
      pre.memory.geolocation = some s ∧
      sc.geo s = pre.detect pre.device.inEffect .geolocationSuggestion ∧
      sc.Calls 0 [] pre := by
  have hload := Scene.Rests.load h sc.device.currentUser
  refine ⟨(sc.load sc.device.currentUser).remember fun m =>
    { m with geolocation := some s }, ?_, hload.zone, rfl, ?_,
    (Scene.Calls.load sc _).quietly (.of_calls rfl rfl rfl rfl)⟩
  · refine hload.coherent.suggested h.known_load _ fun g hg => ?_
    rwa [Scene.load_inEffect]
  · unfold Scene.geo
    dsimp only
    rw [h.recordOf_currentUser, if_pos hgeo, Scene.remember_device, Scene.load_inEffect]

/-- What changes nothing is no news. -/
theorem Scene.not_news {d : Device} (hcurrent : d.currentUser = sc.device.currentUser)
    (hsame : d.inEffect = sc.device.inEffect) : ¬ sc.News d :=
  fun hnews => hnews.elim (· hcurrent) (·.2 hsame)

/-- **What a calm step can do**, all steps taken together. -/
theorem Scene.turn_after (h : Coherent sc.memory sc.device) {step : Step} (hcalm : step.Calm) :
    sc.Turn step (sc.after step) := by
  cases step with
  | current | status => exact .rests (.load h _) (.load sc _)
  | capabilities user => exact .rests (.load h user) (.load sc user)
  | update user change =>
      by_cases hcurrent : user = sc.device.currentUser
      · rw [hcurrent]
        exact .update h
      · exact .update_background h hcurrent
  | manual user s =>
      show sc.Turn _ (sc.manual user s).2
      unfold Scene.manual
      split
      · rename_i hallowed
        exact .picks hallowed
      · exact .rests (.load h user) (.load sc user)
  | telephony s =>
      show sc.Turn _ (sc.telephony s)
      obtain ⟨pre, hpre, hzone, hgeolocation, heq, hquiet⟩ := Scene.telephony_eq_detect h s
      rw [heq]
      exact .detects hpre rfl hzone (fun g hg => .inr (hgeolocation ▸ hg)) hquiet
  | geo s =>
      show sc.Turn _ (sc.geo s)
      by_cases hgeo : sc.device.inEffect.geoBehavior = true
      · obtain ⟨pre, hpre, hzone, hgeolocation, heq, hquiet⟩ := Scene.geo_eq_detect h s hgeo
        rw [heq]
        refine .detects hpre rfl hzone (fun g hg => .inl ⟨?_, hgeo⟩) hquiet
        rw [Option.some.inj (hgeolocation.symm.trans hg)]
      · unfold Scene.geo
        dsimp only
        rw [h.recordOf_currentUser, if_neg hgeo]
        exact .rests (.load h _) (.load sc _)
  | addListener => exact .enrols
  | addAppendix =>
      exact .rests (.of_eq h rfl ⟨_, _, _, rfl⟩) (.of_calls rfl rfl rfl rfl)
  | replace c =>
      show sc.Turn _ (if (sc.device.replace c).1 then (sc.onDevice fun d => (d.replace c).2).report
        else sc.onDevice fun d => (d.replace c).2)
      have hquiet := Scene.Calls.onDevice sc fun d => (d.replace c).2
      split
      · exact .report h rfl (h.filed.replace c) (Device.zone_replace c) hquiet rfl
      · rename_i hdue
        have hsame := Device.replace_of_not_due (Bool.eq_false_iff.mpr hdue)
        have hrounds : sc.rounds (.replace c) = 0 := by
          refine if_neg ?_
          rw [hsame]
          exact Scene.not_news rfl rfl
        exact .rests (.of_eq h hsame ⟨_, _, _, rfl⟩) (hrounds ▸ hquiet)
  | switch c => exact .report h rfl (h.filed.switch c) rfl (.onDevice sc (·.switch c)) rfl
  | store user change =>
      show sc.Turn _ (sc.persist user change)
      have hquiet := Scene.Calls.store sc user change
      unfold Scene.persist
      dsimp only
      split
      · refine .report h ?_ ?_ ?_ hquiet ?_
        · simp
        · simpa using h.filed.store change
        · simp
        · simp only [Scene.onDevice_device, Scene.deviceCall_device]
          rfl
      · rename_i hdue
        have hsame := Device.store_of_not_due (Bool.eq_false_iff.mpr hdue)
        have hsee := Scene.Rests.see h user
        have hrounds : sc.rounds (.store user change) = 0 := by
          refine if_neg ?_
          rw [hsame]
          refine Scene.not_news ?_ ?_
          · simp
          · simp [Device.inEffect, Device.recordOf_see]
        have hmemory : ((sc.deviceCall (.storeCall user change)).onDevice fun d =>
            (d.store user change).2).memory = sc.memory := by simp
        refine .rests (hsee.trans (.of_eq hsee.coherent ?_ ⟨_, _, _, hmemory⟩)) (hrounds ▸ hquiet)
        simp [hsame]
  | recordOf user => exact .rests (.see h user) (.onDevice sc (·.see user))
  | setZone zone => exact .sets zone
  | report =>
      exact .report h rfl h.filed rfl (.refl sc) (if_neg (Scene.not_news rfl rfl)).symm
  | invalid | latestTelephony | latestGeo | best | changeLog | zone | clock =>
      exact .rests (.of_eq h rfl ⟨_, _, _, rfl⟩) (.of_calls rfl rfl rfl rfl)
  | fault | echo | initialized => exact hcalm.elim

theorem Coherent.after (h : Coherent sc.memory sc.device) {step : Step} (hcalm : step.Calm) :
    Coherent (sc.after step).memory (sc.after step).device :=
  (Scene.turn_after h hcalm).coherent h

theorem Coherent.run (h : Coherent sc.memory sc.device) {steps : List Step}
    (hcalm : ∀ step ∈ steps, step.Calm) :
    Coherent (sc.run steps).memory (sc.run steps).device := by
  induction steps generalizing sc with
  | nil => exact h
  | cons step rest ih =>
      obtain ⟨hstep, hcalm⟩ := List.forall_mem_cons.mp hcalm
      rw [Scene.run_cons]
      exact ih (h.after hstep) hcalm

/-- A calm session begins with a scene in which the memory fits the device. -/
theorem Session.Setup.Calm.begins {setup : Session.Setup} (h : setup.Calm)
    {s : System Session.World} (hs : setup.system = .ok s) :
    ∃ changes, Shows s (setup.scene changes) ∧
      Coherent (setup.scene changes).memory (setup.scene changes).device := by
  obtain ⟨changes, hshows⟩ := h.shows hs
  exact ⟨changes, hshows, .fresh changes h.filed⟩

end Run

end ZoneArbiter
