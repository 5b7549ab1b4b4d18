import ZoneArbiter.Proofs.Turn

/-!
# ZoneArbiter.Proofs.Scene.Likeness

**Two scenes are alike if no answer tells them apart** (`Scene.Alike`): they are the same
but for which records are held, and every record comes out the same, whether it is held or
would be made up or loaded when it is asked for.

Three things keep scenes alike.

* What looks at no record and changes none (`Scene.Oblivious`) does the same in both.
* Loading, seeing and reporting what was answered before is not noticed even on one side
  alone (`alike_load`, `alike_see`, `alike_report`).
* A change of a record on the device comes to the same in both, *unless* the arbiter had
  loaded that record in one of them only: then it keeps the old record there and loads the
  new one in the other. Likewise a record that comes with a switch is taken only by a device
  that holds none.
-/

namespace ZoneArbiter

open Session (Answer Event Step)

/-! ### What the device keeps of its records -/

namespace Device

variable {d : Device} {user : Int} {c : Configuration} {change : ConfigurationChange}

/-- Of the device, seeing a user touches the records alone. -/
theorem see_eq : d.see user = { d with records := (d.see user).records } := by
  unfold see
  split <;> rfl

/-- To store settings is a change of records alone. -/
theorem store_eq :
    (d.store user change).2 = { d with records := (d.store user change).2.records } := by
  unfold store
  dsimp only
  split
  · exact see_eq
  · rw [see_eq]

theorem replace_eq : (d.replace c).2 = { d with records := (d.replace c).2.records } := by
  unfold replace
  split <;> rfl

/-- A record that differs from the one answered with is never held already. -/
theorem replace_due_of_ne (h : d.recordOf c.user ≠ c) : (d.replace c).1 = true := by
  rw [replace_due_iff]
  intro hget
  rw [recordOf, hget] at h
  exact h rfl

end Device

namespace Scene

/-- The scene with other records held, by the arbiter and by the device. -/
def withRecords (sc : Scene) (known : Records) (held : Keyed Configuration) : Scene :=
  { sc with
    memory := { sc.memory with records := known }
    device := { sc.device with records := held } }

/-- The scenes are the same but for the records held. -/
def Same (sc sc' : Scene) : Prop := ∃ known held, sc' = sc.withRecords known held

/-- The scenes are the same but for which of the records are held. -/
structure Alike (sc sc' : Scene) : Prop where
  same : sc.Same sc'
  known : ∀ user, sc'.recordOf user = sc.recordOf user
  held : ∀ user, sc'.device.recordOf user = sc.device.recordOf user

variable {sc sc' sc'' : Scene} {user : Int}

namespace Same

theorem refl (sc : Scene) : sc.Same sc := ⟨sc.memory.records, sc.device.records, rfl⟩

theorem symm (h : sc.Same sc') : sc'.Same sc := by
  obtain ⟨known, held, rfl⟩ := h
  exact ⟨sc.memory.records, sc.device.records, rfl⟩

theorem trans (h : sc.Same sc') (h' : sc'.Same sc'') : sc.Same sc'' := by
  obtain ⟨known, held, rfl⟩ := h
  obtain ⟨known', held', rfl⟩ := h'
  exact ⟨known', held', rfl⟩

/-- The arbiter may do with its records what it likes. -/
theorem remember (sc : Scene) (f : Records → Records) :
    sc.Same (sc.remember fun m => { m with records := f m.records }) :=
  ⟨f sc.memory.records, sc.device.records, rfl⟩

/-- So may the device. -/
theorem onDevice (sc : Scene) {f : Device → Device}
    (hf : f sc.device = { sc.device with records := (f sc.device).records }) :
    sc.Same (sc.onDevice f) := by
  refine ⟨sc.memory.records, (f sc.device).records, ?_⟩
  rw [Scene.onDevice, hf]
  rfl

theorem adopt (sc : Scene) (c : Configuration) : sc.Same (sc.adopt c) :=
  .remember sc (·.replace c)

theorem load (sc : Scene) (user : Int) : sc.Same (sc.load user) := by
  unfold Scene.load
  split
  · exact .refl sc
  · have hseen : sc.Same (sc.onDevice (·.see user)) := .onDevice sc Device.see_eq
    exact hseen.trans (.remember _ (·.keep user (sc.device.recordOf user)))

end Same

/-! ### What looks at no record -/

/-- The operation looks at no record and changes none. -/
structure Oblivious (f : Scene → Scene) : Prop where
  commutes : ∀ sc known held, f (sc.withRecords known held) = (f sc).withRecords known held
  seed : ∀ sc, (f sc).device.seed = sc.device.seed

namespace Oblivious

variable {f g : Scene → Scene}

/-- One operation after another looks at no record if neither does. -/
theorem comp (hg : Oblivious g) (hf : Oblivious f) : Oblivious fun sc => g (f sc) where
  commutes sc known held := by rw [hf.commutes, hg.commutes]
  seed sc := (hg.seed _).trans (hf.seed sc)

theorem deviceCall (e : Event) : Oblivious (·.deviceCall e) where
  commutes sc known held := by
    unfold Scene.deviceCall
    show (if sc.recorded then _ else _) = _
    split <;> rfl
  seed sc := by rw [deviceCall_device]

theorem tell : Oblivious Scene.tell := ⟨fun _ _ _ => rfl, fun _ => rfl⟩

theorem forget : Oblivious Scene.forget := ⟨fun _ _ _ => rfl, fun _ => rfl⟩

theorem clear : Oblivious Scene.clear := ⟨fun _ _ _ => rfl, fun _ => rfl⟩

theorem changed (c : Configuration) : Oblivious (·.changed c) := by
  unfold Scene.changed
  cases c.geoBehavior
  · exact tell.comp forget
  · exact tell

theorem moveTo (zone : String) (cause : Cause) : Oblivious (·.moveTo zone cause) where
  commutes sc known held := by
    unfold Scene.moveTo
    show (if sc.device.zone = some zone then _ else _) = _
    split
    · rfl
    · dsimp only
      rw [(deviceCall _).commutes]
      rfl
  seed sc := by rw [moveTo_device]; rfl

theorem detect (c : Configuration) (reason : Reason) : Oblivious (·.detect c reason) where
  commutes sc known held := by
    unfold Scene.detect
    rw [show (sc.withRecords known held).proposal c reason = sc.proposal c reason from rfl]
    split
    · rfl
    · exact (moveTo _ _).commutes sc known held
  seed sc := by
    obtain ⟨zone, hdevice⟩ := sc.detect_device c reason
    rw [hdevice]
    rfl

/-- What follows on a change is handed the record, and looks up none. -/
theorem configurationChanged (c : Configuration) (reason : Reason) :
    Oblivious (·.configurationChanged c reason) where
  commutes sc known held := by
    unfold Scene.configurationChanged
    show (if c.user = sc.device.currentUser then _ else _) = _
    split
    · exact ((detect c reason).comp (changed c)).commutes sc known held
    · rfl
  seed sc := by
    obtain ⟨zone, hdevice⟩ := sc.configurationChanged_device c reason
    rw [hdevice]
    rfl

end Oblivious

/-! ### Alike on the whole -/

namespace Alike

theorem refl (sc : Scene) : sc.Alike sc := ⟨.refl sc, fun _ => rfl, fun _ => rfl⟩

theorem symm (h : sc.Alike sc') : sc'.Alike sc :=
  ⟨h.same.symm, fun user => (h.known user).symm, fun user => (h.held user).symm⟩

theorem trans (h : sc.Alike sc') (h' : sc'.Alike sc'') : sc.Alike sc'' :=
  ⟨h.same.trans h'.same, fun user => (h'.known user).trans (h.known user),
    fun user => (h'.held user).trans (h.held user)⟩

theorem currentUser (h : sc.Alike sc') : sc'.device.currentUser = sc.device.currentUser := by
  obtain ⟨⟨known, held, rfl⟩, -, -⟩ := h
  rfl

theorem trackedUser (h : sc.Alike sc') : sc'.memory.trackedUser = sc.memory.trackedUser := by
  obtain ⟨⟨known, held, rfl⟩, -, -⟩ := h
  rfl

theorem inEffect (h : sc.Alike sc') : sc'.device.inEffect = sc.device.inEffect := by
  rw [Device.inEffect, h.currentUser]
  exact h.held _

/-- What looks at no record does the same in both. -/
theorem oblivious {f : Scene → Scene} (hf : Oblivious f) (h : sc.Alike sc') :
    (f sc).Alike (f sc') := by
  obtain ⟨⟨known, held, rfl⟩, hknown, hheld⟩ := h
  have hrecords : f sc = (f sc).withRecords sc.memory.records sc.device.records :=
    hf.commutes sc sc.memory.records sc.device.records
  have hfresh (user : Int) : (f sc).device.fresh user = sc.device.fresh user := by
    rw [Device.fresh, hf.seed]
    rfl
  have hdevice (user : Int) : (f sc).device.recordOf user = sc.device.recordOf user := by
    rw [Device.recordOf, hfresh, hrecords]
    rfl
  have hdevice' (user : Int) : ((f sc).withRecords known held).device.recordOf user =
      (sc.withRecords known held).device.recordOf user := by
    show (held.get? user).getD ((f sc).device.fresh user) = _
    rw [hfresh]
    rfl
  refine ⟨⟨known, held, hf.commutes sc known held⟩, fun user => ?_, fun user => ?_⟩
  · rw [hf.commutes, Scene.recordOf, hdevice', Scene.recordOf, hdevice, hrecords]
    exact hknown user
  · rw [hf.commutes, hdevice', hdevice]
    exact hheld user

/-- Both arbiters take up the same record. -/
theorem adopt (h : sc.Alike sc') (c : Configuration) : (sc.adopt c).Alike (sc'.adopt c) := by
  refine ⟨((Same.adopt sc c).symm.trans h.same).trans (.adopt sc' c), fun user => ?_, h.held⟩
  simp only [Scene.recordOf, Scene.adopt, remember_memory, remember_device, Records.peek_replace]
  split
  · rfl
  · exact h.known user

end Alike

/-! ### What is not noticed even on one side -/

/-- The device keeps its records another way. -/
theorem alike_onDevice {f : Device → Device}
    (hf : f sc.device = { sc.device with records := (f sc.device).records })
    (hrecord : ∀ other, (f sc.device).recordOf other = sc.device.recordOf other) :
    sc.Alike (sc.onDevice f) := by
  refine ⟨.onDevice sc hf, fun other => ?_, hrecord⟩
  simp only [recordOf, onDevice_memory, onDevice_device, hrecord]

theorem alike_see (sc : Scene) (user : Int) : sc.Alike (sc.onDevice (·.see user)) :=
  alike_onDevice Device.see_eq fun _ => Device.recordOf_see _ _ _

/-- The arbiter writes down what it would load. -/
theorem alike_load (sc : Scene) (user : Int) : sc.Alike (sc.load user) := by
  refine ⟨.load sc user, fun other => ?_, load_recordOf user⟩
  rw [recordOf, load_recordOf]
  unfold load
  split
  · rfl
  · rename_i hpeek
    simp only [recordOf, remember_memory, onDevice_memory, Records.peek_keep]
    split
    · rename_i heq
      rw [heq, hpeek]
      rfl
    · rfl

/-- Taking up the record that the arbiter goes by. -/
theorem alike_adopt {c : Configuration} (hc : sc.recordOf c.user = c) :
    sc.Alike (sc.adopt c) := by
  refine ⟨.adopt sc c, fun user => ?_, fun _ => rfl⟩
  simp only [recordOf, adopt, remember_memory, remember_device, Records.peek_replace]
  split
  · rename_i heq
    rw [heq]
    exact hc.symm
  · rfl

/-- A report of the record that the arbiter goes by. -/
theorem alike_report (hfiled : sc.device.Filed)
    (htracked : sc.memory.trackedUser = sc.device.currentUser)
    (hrecord : sc.recordOf sc.device.currentUser = sc.device.inEffect) : sc.Alike sc.report := by
  rcases sc.report_cases with ⟨-, hknown⟩ | ⟨-, hfirst⟩ | hnews
  · rw [report_of_known hfiled htracked hknown]
    exact .refl sc
  · rw [report_of_first hfiled htracked hfirst]
    exact alike_adopt (by rwa [Device.inEffect, hfiled.user_recordOf])
  · obtain ⟨known, hknown, hne⟩ := hnews htracked
    rw [recordOf, hknown] at hrecord
    exact absurd hrecord hne

namespace Alike

theorem load (h : sc.Alike sc') (user : Int) : (sc.load user).Alike (sc'.load user) :=
  ((alike_load sc user).symm.trans h).trans (alike_load sc' user)

theorem see (h : sc.Alike sc') (user : Int) :
    (sc.onDevice (·.see user)).Alike (sc'.onDevice (·.see user)) :=
  ((alike_see sc user).symm.trans h).trans (alike_see sc' user)

/-! ### Reports -/

/-- News reach both arbiters alike, whatever they knew of the user in the foreground. -/
theorem report_of_news (hsame : sc.Same sc')
    (hknown : ∀ user, user ≠ sc.device.currentUser → sc'.recordOf user = sc.recordOf user)
    (hheld : ∀ user, sc'.device.recordOf user = sc.device.recordOf user)
    (hfiled : sc.device.Filed) (hfiled' : sc'.device.Filed)
    (hnews : sc.memory.trackedUser = sc.device.currentUser →
      sc.recordOf sc.device.currentUser ≠ sc.device.inEffect)
    (hnews' : sc'.memory.trackedUser = sc'.device.currentUser →
      sc'.recordOf sc'.device.currentUser ≠ sc'.device.inEffect) : sc.report.Alike sc'.report := by
  -- A record that differs from the device's is one that the arbiter knows.
  have hheard {sc : Scene} (hnews : sc.memory.trackedUser = sc.device.currentUser →
      sc.recordOf sc.device.currentUser ≠ sc.device.inEffect)
      (htracked : sc.memory.trackedUser = sc.device.currentUser) :
      ∃ known, sc.memory.records.peek sc.device.currentUser = some known ∧
        known ≠ sc.device.inEffect := by
    have hne := hnews htracked
    unfold Scene.recordOf at hne
    cases hpeek : sc.memory.records.peek sc.device.currentUser with
    | none =>
        rw [hpeek] at hne
        exact absurd rfl hne
    | some known =>
        rw [hpeek] at hne
        exact ⟨known, rfl, hne⟩
  have hcurrent : sc'.device.currentUser = sc.device.currentUser := by
    obtain ⟨known, held, rfl⟩ := hsame
    rfl
  have heffect : sc'.device.inEffect = sc.device.inEffect := by
    rw [Device.inEffect, hcurrent]
    exact hheld _
  have htaken : (sc.track.adopt sc.device.inEffect).Alike (sc'.track.adopt sc.device.inEffect) := by
    refine ⟨?_, fun user => ?_, hheld⟩
    · obtain ⟨known, held, rfl⟩ := hsame
      exact ⟨_, _, rfl⟩
    · simp only [Scene.recordOf, Scene.adopt, Scene.track, remember_memory, remember_device,
        Records.peek_replace]
      split
      · rfl
      · rename_i hother
        exact hknown user (by rwa [Device.inEffect, hfiled.user_recordOf] at hother)
  rw [Scene.report_of_news hfiled (hheard hnews), Scene.report_of_news hfiled' (hheard hnews'),
    heffect]
  exact htaken.oblivious ((Oblivious.detect _ _).comp (.changed _))

/-- A report comes to the same in both. -/
theorem report (h : sc.Alike sc') (hfiled : sc.device.Filed) (hfiled' : sc'.device.Filed) :
    sc.report.Alike sc'.report := by
  by_cases hnoted : sc.memory.trackedUser = sc.device.currentUser ∧
      sc.recordOf sc.device.currentUser = sc.device.inEffect
  · obtain ⟨htracked, hrecord⟩ := hnoted
    have hreport' : sc'.Alike sc'.report := by
      refine alike_report hfiled' ?_ ?_
      · rw [h.trackedUser, h.currentUser, htracked]
      · rw [h.currentUser, h.known, h.inEffect, hrecord]
    exact ((alike_report hfiled htracked hrecord).symm.trans h).trans hreport'
  · have hnews (htracked : sc.memory.trackedUser = sc.device.currentUser) :
        sc.recordOf sc.device.currentUser ≠ sc.device.inEffect :=
      fun hrecord => hnoted ⟨htracked, hrecord⟩
    refine report_of_news h.same (fun user _ => h.known user) h.held hfiled hfiled' hnews ?_
    rw [h.trackedUser, h.currentUser, h.known, h.inEffect]
    exact hnews

/-! ### Changes on the device -/

/-- Where both arbiters know the record of a user, or neither does, a change of that record on
the device makes the same of both. -/
theorem onDevice (h : sc.Alike sc') {f : Device → Device} {c : Configuration}
    (hf : ∀ d, f d = { d with records := (f d).records })
    (hrecord : ∀ other, (f sc.device).recordOf other =
      if other = user then c else sc.device.recordOf other)
    (hrecord' : ∀ other, (f sc'.device).recordOf other =
      if other = user then c else sc'.device.recordOf other)
    (heven : (sc'.memory.records.peek user).isSome = (sc.memory.records.peek user).isSome) :
    (sc.onDevice f).Alike (sc'.onDevice f) := by
  refine ⟨((Same.onDevice sc (hf _)).symm.trans h.same).trans (.onDevice sc' (hf _)),
    fun other => ?_, fun other => ?_⟩
  · have hknown := h.known other
    simp only [Scene.recordOf, onDevice_memory, onDevice_device, hrecord, hrecord', h.held]
      at hknown ⊢
    split
    · rename_i heq
      rw [heq] at hknown ⊢
      cases hpeek : sc.memory.records.peek user with
      | none =>
          rw [hpeek] at heven
          have hpeek' : sc'.memory.records.peek user = none := by simpa using heven
          rw [hpeek']
      | some known =>
          rw [hpeek] at heven hknown
          obtain ⟨known', hpeek'⟩ := Option.isSome_iff_exists.mp heven
          rw [hpeek'] at hknown ⊢
          exact hknown
    · exact hknown
  · rw [onDevice_device, onDevice_device, hrecord, hrecord', h.held]

end Alike

/-- A report to an arbiter whose memory was coherent before the device put its records another
way. -/
theorem Alike.report_of_coherent (h : sc.Alike sc') (hcoherent : Coherent sc.memory sc.device)
    (hfiled' : sc'.device.Filed) : sc'.Alike sc'.report := by
  refine alike_report hfiled' ?_ ?_
  · rw [h.trackedUser, h.currentUser, hcoherent.tracked]
  · rw [h.currentUser, h.known, h.inEffect, hcoherent.recordOf_currentUser]

/-- Replacing a record by itself. -/
theorem alike_replace {c : Configuration} (hcoherent : Coherent sc.memory sc.device)
    (hsame : sc.device.recordOf c.user = c) : sc.Alike (sc.after (.replace c)) := by
  have hreplaced : sc.Alike (sc.onDevice fun d => (d.replace c).2) := by
    refine alike_onDevice Device.replace_eq fun other => ?_
    rw [Device.recordOf_replace]
    split
    · rename_i heq
      rw [heq, hsame]
    · rfl
  simp only [after]
  split
  · exact hreplaced.trans (hreplaced.report_of_coherent hcoherent (hcoherent.filed.replace c))
  · exact hreplaced

/-- Both devices bring a user to the foreground, and both arbiters hear of it. -/
theorem Alike.switch {c : Configuration} (h : sc.Alike sc') (hfiled : sc.device.Filed)
    (hfiled' : sc'.device.Filed) (htracked : sc.memory.trackedUser = sc.device.currentUser)
    (heven : sc.device.recordOf c.user ≠ c →
      (sc'.device.records.get? c.user).isSome = (sc.device.records.get? c.user).isSome) :
    (sc.onDevice (·.switch c)).report.Alike (sc'.onDevice (·.switch c)).report := by
  by_cases hcurrent : c.user = sc.device.currentUser
  · -- The user is in the foreground already, and has a record in both.
    have hstays {d : Device} (hfiled : d.Filed) (hcurrent : c.user = d.currentUser) :
        d.switch c = d := by
      obtain ⟨held, hheld⟩ := Option.isSome_iff_exists.mp hfiled.current
      rw [Device.switch, hcurrent, hheld]
    rw [Scene.onDevice, Scene.onDevice, hstays hfiled hcurrent,
      hstays hfiled' (hcurrent.trans h.currentUser.symm)]
    exact h.report hfiled hfiled'
  · have hother (user : Int) (hne : user ≠ c.user) :
        (sc'.onDevice (·.switch c)).device.recordOf user =
          (sc.onDevice (·.switch c)).device.recordOf user := by
      rw [onDevice_device, onDevice_device, Device.recordOf_switch_of_ne hne,
        Device.recordOf_switch_of_ne hne, h.held]
    have hswitched (d : Device) : (d.switch c).recordOf c.user =
        if (d.records.get? c.user).isSome then d.recordOf c.user else c := by
      unfold Device.switch Device.recordOf
      cases hget : d.records.get? c.user <;> simp [hget, Device.fresh]
    refine report_of_news ?_ (fun user hne => ?_) (fun user => ?_) (hfiled.switch c)
      (hfiled'.switch c) (fun hnow => ?_) (fun hnow => ?_)
    · obtain ⟨⟨known, held, rfl⟩, -, -⟩ := h
      exact ⟨_, _, rfl⟩
    · have hknown := h.known user
      simp only [recordOf, onDevice_memory, onDevice_device, Device.recordOf_switch_of_ne hne]
        at hknown ⊢
      exact hknown
    · by_cases huser : user = c.user
      · rw [huser, onDevice_device, onDevice_device, hswitched, hswitched, h.held]
        by_cases hsame : sc.device.recordOf c.user = c
        · rw [hsame, ite_self, ite_self]
        · rw [heven hsame]
      · exact hother user huser
    · exact absurd (hnow.symm.trans htracked) hcurrent
    · refine absurd (hnow.symm.trans ?_) hcurrent
      rw [onDevice_memory, h.trackedUser, htracked]

/-- Both devices persist the settings of a user. -/
theorem Alike.persist {change : ConfigurationChange} (h : sc.Alike sc')
    (hfiled : sc.device.Filed) (hfiled' : sc'.device.Filed)
    (heven : (sc.device.recordOf user).merge change ≠ sc.device.recordOf user →
      (sc'.memory.records.peek user).isSome = (sc.memory.records.peek user).isSome) :
    (sc.persist user change).Alike (sc'.persist user change) := by
  have hcall := h.oblivious (.deviceCall (.storeCall user change))
  by_cases halters : (sc.device.recordOf user).merge change = sc.device.recordOf user
  · have hidle {sc' : Scene} (hrecord : sc'.device.recordOf user = sc.device.recordOf user) :
        sc'.persist user change =
          (sc'.deviceCall (.storeCall user change)).onDevice (·.see user) := by
      have hstore : sc'.device.store user change = (false, sc'.device.see user) := by
        rw [Device.store, hrecord, if_pos halters]
      simp [Scene.persist, Scene.onDevice, hstore]
    rw [hidle rfl, hidle (h.held user)]
    exact hcall.see user
  · have hdue {d : Device} (hd : d.recordOf user = sc.device.recordOf user) :
        (d.store user change).1 = true := by
      rw [Device.store_due_iff, hd]
      exact halters
    have hstored := hcall.onDevice (f := fun d => (d.store user change).2)
      (fun _ => Device.store_eq) (fun _ => Device.recordOf_store change)
      (by
        intro other
        rw [Device.recordOf_store, hcall.held])
      (by
        rw [deviceCall_memory, deviceCall_memory]
        exact heven halters)
    unfold Scene.persist
    rw [if_pos (hdue rfl), if_pos (hdue (h.held user))]
    refine hstored.report ?_ ?_
    · simpa using hfiled.store change
    · simpa using hfiled'.store change

/-- Both arbiters update the settings of a user. -/
theorem Alike.update {change : ConfigurationChange} (h : sc.Alike sc')
    (hcoherent : Coherent sc.memory sc.device) (hcoherent' : Coherent sc'.memory sc'.device) :
    (sc.update user change).2.Alike (sc'.update user change).2 := by
  unfold Scene.update
  rw [h.known]
  cases hgrant : (sc.recordOf user).grant? change with
  | none => exact h.load user
  | some new =>
      have howner : new.user = user := by
        rw [← Configuration.merge_of_grant hgrant, Configuration.user_merge,
          hcoherent.user_recordOf]
      -- The record was loaded on both sides by now, whoever asked for it before.
      have hloaded (sc : Scene) :
          (((sc.load user).adopt new).memory.records.peek user).isSome = true := by
        rw [Scene.adopt, remember_memory, Records.peek_replace, if_pos howner.symm]
        rfl
      have hpersist : (((sc.load user).adopt new).persist user change).Alike
          (((sc'.load user).adopt new).persist user change) :=
        ((h.load user).adopt new).persist (hcoherent.load user).filed (hcoherent'.load user).filed
          fun _ => (hloaded sc').trans (hloaded sc).symm
      dsimp only
      split
      · exact hpersist
      · exact hpersist.oblivious (.configurationChanged new .configurationUpdate)

/-! ### Steps -/

end Scene

/-- The step changes a record on the device that the arbiter has loaded in only one of two
systems, or it brings along a record for a user whose record is held in only one of them. -/
def Session.Step.Forestalled (m m' : Arbiter.Memory) (d d' : Device) : Step → Prop
  | .replace c =>
      d.recordOf c.user ≠ c ∧
        (m'.records.peek c.user).isSome ≠ (m.records.peek c.user).isSome
  | .store user change =>
      (d.recordOf user).merge change ≠ d.recordOf user ∧
        (m'.records.peek user).isSome ≠ (m.records.peek user).isSome
  | .switch c =>
      d.recordOf c.user ≠ c ∧ (d'.records.get? c.user).isSome ≠ (d.records.get? c.user).isSome
  | _ => False

namespace Scene

variable {sc sc' : Scene} {step : Step}

/-- **One step.** A step that is not forestalled keeps scenes alike. -/
theorem Alike.after (h : sc.Alike sc') (hcoherent : Coherent sc.memory sc.device)
    (hcoherent' : Coherent sc'.memory sc'.device) (hcalm : step.Calm)
    (heven : ¬ step.Forestalled sc.memory sc'.memory sc.device sc'.device) :
    (sc.after step).Alike (sc'.after step) := by
  have hcurrent := h.currentUser
  have hrecord : sc'.recordOf sc'.device.currentUser = sc.recordOf sc.device.currentUser := by
    rw [hcurrent, h.known]
  cases step with
  | current | status =>
      simp only [Scene.after]
      rw [hcurrent]
      exact h.load _
  | capabilities user => exact h.load user
  | update user change => exact h.update hcoherent hcoherent'
  | manual user pick =>
      simp only [Scene.after, Scene.manual, h.known]
      split
      · exact (h.load user).oblivious (.moveTo _ _)
      · exact h.load user
  | telephony s =>
      simp only [Scene.after, Scene.telephony]
      rw [hrecord, hcurrent]
      exact ((h.oblivious (f := (·.remember fun m =>
        { m with telephony := m.telephony.record s })) ⟨fun _ _ _ => rfl, fun _ => rfl⟩).load
          _).oblivious (.detect _ _)
  | geo s =>
      simp only [Scene.after, Scene.geo]
      rw [hrecord, hcurrent]
      split
      · exact ((h.load _).oblivious (f := (·.remember fun m => { m with geolocation := some s }))
          ⟨fun _ _ _ => rfl, fun _ => rfl⟩).oblivious (.detect _ _)
      · exact h.load _
  | replace c =>
      by_cases hsame : sc.device.recordOf c.user = c
      · have hsame' : sc'.device.recordOf c.user = c := (h.held _).trans hsame
        exact ((alike_replace hcoherent hsame).symm.trans h).trans
          (alike_replace hcoherent' hsame')
      · have hsame' : sc'.device.recordOf c.user ≠ c := by rwa [h.held]
        have hreplaced := h.onDevice (f := fun d => (d.replace c).2) (fun _ => Device.replace_eq)
          (fun _ => Device.recordOf_replace c) (fun _ => Device.recordOf_replace c)
          (Classical.not_not.mp fun huneven => heven ⟨hsame, huneven⟩)
        simp only [Scene.after, if_pos (Device.replace_due_of_ne hsame),
          if_pos (Device.replace_due_of_ne hsame')]
        exact hreplaced.report (hcoherent.filed.replace c) (hcoherent'.filed.replace c)
  | switch c =>
      exact h.switch hcoherent.filed hcoherent'.filed hcoherent.tracked fun hne =>
        Classical.not_not.mp fun huneven => heven ⟨hne, huneven⟩
  | store user change =>
      exact h.persist hcoherent.filed hcoherent'.filed fun halters =>
        Classical.not_not.mp fun huneven => heven ⟨halters, huneven⟩
  | recordOf user => exact h.see user
  | setZone zone =>
      exact (h.oblivious (.deviceCall (.zoneWrite zone))).oblivious
        (f := (·.onDevice (·.setZone zone))) ⟨fun _ _ _ => rfl, fun _ => rfl⟩
  | report => exact h.report hcoherent.filed hcoherent'.filed
  | addListener name steps times fault =>
      exact h.oblivious (f := (·.after (.addListener name steps times fault)))
        ⟨fun _ _ _ => rfl, fun _ => rfl⟩
  | addAppendix appendix =>
      exact h.oblivious (f := (·.after (.addAppendix appendix))) ⟨fun _ _ _ => rfl, fun _ => rfl⟩
  | clock microseconds tick =>
      exact h.oblivious (f := (·.after (.clock microseconds tick)))
        ⟨fun _ _ _ => rfl, fun _ => rfl⟩
  | invalid | latestTelephony | latestGeo | best | changeLog | zone => exact h
  | fault | echo | initialized => exact hcalm.elim

end Scene

end ZoneArbiter
