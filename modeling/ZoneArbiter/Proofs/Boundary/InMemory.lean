import ZoneArbiter.Proofs.Boundary
import ZoneArbiter.Proofs.Scene.Performance

/-!
# ZoneArbiter.Proofs.Boundary.InMemory

**The device of a session keeps a ledger** (`Session.boundary`), as long as its records are
filed in order, it reports at once what it persists, and the calls on records do not fail. The
rig may make every other call fail.
-/

namespace ZoneArbiter

open Session (World)

namespace Device

variable (d : Device) (user : Int) (change : ConfigurationChange)

/-- The ledger of a device: a user that was not seen has the record of a new user. -/
def ledger : Ledger := ⟨d.currentUser, d.recordOf⟩

/-- To see a user does not change the ledger, which shows the record that is made up already. -/
theorem ledger_see : (d.see user).ledger = d.ledger := by
  rw [ledger, ledger, currentUser_see]
  congr 1
  funext v
  exact recordOf_see _ _ _

/-- To store settings on the device is to store them in its ledger. -/
theorem ledger_store : (d.store user change).2.ledger = d.ledger.store user change := by
  rw [ledger, currentUser_store]
  congr 1
  funext v
  exact recordOf_store change

/-- A report is due exactly if a record is altered. -/
theorem store_due : (d.store user change).1 = d.ledger.alters user change := by
  rw [Bool.eq_iff_iff, store_due_iff, Ledger.alters, decide_eq_true_iff]
  rfl

end Device

namespace Session.World

/-- The calls on records do not fail, and what they change is reported. -/
structure Sound (w : World) : Prop where
  filed : w.device.Filed
  reports : w.reports = true
  currentUser : w.faultOf .currentUser = none
  configurationOf : w.faultOf .configurationOf = none
  storeConfiguration : w.faultOf .storeConfiguration = none

def ledger (w : World) : Ledger := w.device.ledger

variable {w w' : World}

/-- A device that does not stand in a rig can be relied on. -/
theorem Sound.of_unrigged (hfiled : w.device.Filed) (hrig : w.rig = none) : w.Sound := by
  have hfault (call : DeviceCall) : w.faultOf call = none := by rw [faultOf, hrig]; rfl
  exact ⟨hfiled, by rw [World.reports, hrig]; rfl, hfault _, hfault _, hfault _⟩

/-- What leaves the rig and the records of the device alone keeps the ledger. -/
theorem Sound.of_eq (h : w.Sound) (hrig : w'.rig = w.rig)
    (hdevice : ∃ zone, w'.device = w.device.setZone zone) : w'.Sound ∧ w'.ledger = w.ledger := by
  obtain ⟨zone, hdevice⟩ := hdevice
  have hfault (call : DeviceCall) : w'.faultOf call = w.faultOf call := by
    rw [faultOf, faultOf, hrig]
  refine ⟨⟨?_, ?_, ?_, ?_, ?_⟩, ?_⟩
  · rw [hdevice]
    exact h.filed.setZone zone
  · rw [World.reports, hrig]
    exact h.reports
  · rw [hfault, h.currentUser]
  · rw [hfault, h.configurationOf]
  · rw [hfault, h.storeConfiguration]
  · rw [ledger, ledger, hdevice]
    rfl

/-- A line of the log goes into the trace, and nowhere else. -/
theorem log_eq (n : Notice) (w : World) : ∃ trace, w.log n = { w with trace } := by
  unfold log
  split
  · exact ⟨_, rfl⟩
  · exact ⟨w.trace, rfl⟩

theorem logAll_eq (notices : List Notice) (w : World) :
    ∃ trace, logAll notices w = .ok () { w with trace } := by
  have hfold : ∃ trace, notices.foldl (fun w n => w.log n) w = { w with trace } := by
    induction notices generalizing w with
    | nil => exact ⟨w.trace, rfl⟩
    | cons n rest ih =>
        obtain ⟨trace, hlog⟩ := w.log_eq n
        obtain ⟨trace', hrest⟩ := ih (w.log n)
        exact ⟨trace', by rw [List.foldl_cons, hrest, hlog]⟩
  obtain ⟨trace, hfold⟩ := hfold
  exact ⟨trace, congrArg (EStateM.Result.ok ()) hfold⟩

theorem recordCall_eq (e : Event) (w : World) :
    ∃ trace, recordCall e w = .ok () { w with trace } := by
  have hrecord : ∃ trace, (if w.rig.isSome then w.recordEvent e else w) = { w with trace } := by
    split
    · exact ⟨_, rfl⟩
    · exact ⟨w.trace, rfl⟩
  obtain ⟨trace, hrecord⟩ := hrecord
  exact ⟨trace, congrArg (EStateM.Result.ok ()) hrecord⟩

/-- A guard changes nothing, whether or not it fails. -/
theorem guard_eq (call : DeviceCall) (w : World) :
    guard call w = match w.faultOf call with
      | none => .ok () w
      | some fault => .error fault w := by
  rw [guard, get_bind]
  cases w.faultOf call <;> rfl

/-- A call that is rigged to fail does nothing before it fails. -/
theorem guard_bind {α : Type} (call : DeviceCall) (f : Unit → World.Call α) (w : World) :
    (guard call >>= f) w = match w.faultOf call with
      | none => f () w
      | some fault => .error fault w := by
  show EStateM.bind (guard call) f w = _
  rw [EStateM.bind, guard_eq]
  cases w.faultOf call <;> rfl

/-- A call that looks at the world goes on from it. -/
theorem bind_ok {α β : Type} {call : World.Call α} {a : α} (f : α → World.Call β)
    (h : call w = .ok a w') : (call >>= f) w = f a w' := by
  show EStateM.bind call f w = _
  rw [EStateM.bind, h]

/-- Setting the zone leaves a record of itself, whether or not it fails. -/
theorem setZone_eq (zone : Option String) (w : World) :
    ∃ trace, setZone zone w = match w.faultOf .setDeviceZone with
      | none => .ok () { w with trace, device := w.device.setZone zone }
      | some fault => .error fault { w with trace } := by
  obtain ⟨trace, hrecord⟩ := recordCall_eq (.zoneWrite zone) w
  have hfault : ({ w with trace } : World).faultOf .setDeviceZone = w.faultOf .setDeviceZone := rfl
  rw [setZone, bind_ok _ hrecord, guard_bind, hfault]
  cases w.faultOf .setDeviceZone with
  | some fault => exact ⟨trace, rfl⟩
  | none =>
      obtain ⟨trace', hlog⟩ := logAll_eq [.zoneWritten zone] { w with trace }
      exact ⟨trace', bind_ok _ hlog⟩

/-- A user whose record is asked for is seen. -/
theorem configurationOf_eq (user : Int) (w : World) :
    ∃ trace, configurationOf user w = match w.faultOf .configurationOf with
      | none => .ok (w.device.recordOf user) { w with trace, device := w.device.see user }
      | some fault => .error fault w := by
  rw [configurationOf, guard_bind]
  cases w.faultOf .configurationOf with
  | some fault => exact ⟨w.trace, rfl⟩
  | none =>
      obtain ⟨trace, hlog⟩ := logAll_eq (w.device.seeNotices user) w
      refine ⟨trace, ?_⟩
      dsimp only
      rw [get_bind, bind_ok _ hlog, ← w.device.recordOf_see user user]
      rfl

/-- Persisting leaves a record of itself, whether or not it fails. -/
theorem storeConfiguration_eq (user : Int) (settings : ConfigurationChange) (w : World) :
    ∃ trace, storeConfiguration user settings w = match w.faultOf .storeConfiguration with
      | none =>
          .ok ((w.device.store user settings).1 && w.reports)
            { w with trace, device := (w.device.store user settings).2 }
      | some fault => .error fault { w with trace } := by
  obtain ⟨trace, hrecord⟩ := recordCall_eq (.storeCall user settings) w
  have hfault : ({ w with trace } : World).faultOf .storeConfiguration =
      w.faultOf .storeConfiguration := rfl
  rw [storeConfiguration, bind_ok _ hrecord, guard_bind, hfault]
  cases w.faultOf .storeConfiguration with
  | some fault => exact ⟨trace, rfl⟩
  | none =>
      obtain ⟨trace', hlog⟩ := logAll_eq (w.device.seeNotices user) { w with trace }
      refine ⟨trace', ?_⟩
      dsimp only
      rw [get_bind, bind_ok _ hlog]
      rfl

theorem keepsLedger_guard (call : DeviceCall) : KeepsLedger Sound ledger (guard call) := by
  intro w hw
  rw [guard_eq]
  cases w.faultOf call <;> exact ⟨hw, rfl⟩

theorem keepsLedger_read {α : Type} (call : DeviceCall) (answer : World → α) :
    KeepsLedger Sound ledger (guard call >>= fun _ => get >>= fun w => pure (answer w)) := by
  intro w hw
  rw [guard_bind]
  cases w.faultOf call <;> exact ⟨hw, rfl⟩

theorem keepsLedger_setZone (zone : Option String) : KeepsLedger Sound ledger (setZone zone) := by
  intro w hw
  obtain ⟨trace, hrun⟩ := setZone_eq zone w
  rw [hrun]
  cases w.faultOf .setDeviceZone with
  | some fault => exact hw.of_eq rfl ⟨w.device.zone, rfl⟩
  | none => exact hw.of_eq rfl ⟨zone, rfl⟩

theorem keepsLedger_readClock : KeepsLedger Sound ledger readClock := by
  intro w hw
  rw [readClock, get_bind]
  cases Calendar.dateDefect? w.clock with
  | some defect => exact ⟨hw, rfl⟩
  | none => exact hw.of_eq rfl ⟨w.device.zone, rfl⟩

theorem Sound.see (h : w.Sound) (user : Int) :
    Sound { w with device := w.device.see user } ∧
      ledger { w with device := w.device.see user } = w.ledger :=
  ⟨⟨h.filed.see user, h.reports, h.currentUser, h.configurationOf, h.storeConfiguration⟩,
    w.device.ledger_see user⟩

theorem answers_configurationOf (h : w.Sound) (user : Int) :
    AnswersWith Sound ledger (configurationOf user) w (w.ledger.recordOf user) w.ledger := by
  obtain ⟨trace, hrun⟩ := configurationOf_eq user w
  rw [h.configurationOf] at hrun
  have hlogged : Sound { w with trace } ∧ ledger { w with trace } = w.ledger :=
    h.of_eq rfl ⟨w.device.zone, rfl⟩
  obtain ⟨hseen, hsame⟩ := hlogged.1.see user
  exact ⟨_, hrun, hseen, hsame.trans hlogged.2⟩

/-- The device persists the settings, and a report is due exactly if that altered the record. -/
theorem answers_storeConfiguration (h : w.Sound) (user : Int) (settings : ConfigurationChange) :
    AnswersWith Sound ledger (storeConfiguration user settings) w
      (w.ledger.alters user settings) (w.ledger.store user settings) := by
  obtain ⟨trace, hrun⟩ := storeConfiguration_eq user settings w
  have hdue : (w.device.store user settings).1 = w.ledger.alters user settings :=
    w.device.store_due user settings
  rw [h.storeConfiguration, h.reports, Bool.and_true, hdue] at hrun
  exact ⟨_, hrun, ⟨h.filed.store settings, h.reports, h.currentUser, h.configurationOf,
    h.storeConfiguration⟩, w.device.ledger_store user settings⟩

/-! ### Calls that leave the device where it is -/

section Stays

variable {α β : Type}

/-- However the call ends, the device is where it was, and so is its rig. -/
def Stays (call : World.Call α) : Prop :=
  ∀ w, match call w with
    | .ok _ w' | .error _ w' => w'.device.zone = w.device.zone ∧ w'.rig = w.rig

/-- What stays put first and stays put then, stays put. -/
theorem Stays.bind {call : World.Call α} {f : α → World.Call β} (h : Stays call)
    (hf : ∀ x, Stays (f x)) : Stays (call >>= f) := by
  intro w
  have hcall := h w
  show match EStateM.bind call f w with
    | .ok _ w' | .error _ w' => w'.device.zone = w.device.zone ∧ w'.rig = w.rig
  rw [EStateM.bind]
  cases hrun : call w with
  | error fault w' =>
      rw [hrun] at hcall
      exact hcall
  | ok x w' =>
      rw [hrun] at hcall
      have hrest := hf x w'
      dsimp only
      cases hend : f x w' <;> rw [hend] at hrest <;>
        exact ⟨hrest.1.trans hcall.1, hrest.2.trans hcall.2⟩

theorem Stays.get {f : World → World.Call α} (hf : ∀ w, Stays (f w)) :
    Stays (MonadState.get >>= f) :=
  Stays.bind (fun _ => ⟨rfl, rfl⟩) hf

theorem Stays.pure (x : α) : Stays (Pure.pure x : World.Call α) := fun _ => ⟨rfl, rfl⟩

theorem stays_guard (call : DeviceCall) : Stays (guard call) := by
  intro w
  rw [guard_eq]
  cases w.faultOf call <;> exact ⟨rfl, rfl⟩

theorem stays_logAll (notices : List Notice) : Stays (logAll notices) := by
  intro w
  obtain ⟨trace, hlog⟩ := logAll_eq notices w
  rw [hlog]
  exact ⟨rfl, rfl⟩

theorem stays_recordCall (e : Event) : Stays (recordCall e) := by
  intro w
  obtain ⟨trace, hrecord⟩ := recordCall_eq e w
  rw [hrecord]
  exact ⟨rfl, rfl⟩

theorem stays_currentUser : Stays currentUser :=
  (stays_guard _).bind fun _ => .get fun _ => .pure _

theorem stays_configurationOf (user : Int) : Stays (configurationOf user) := by
  have hsee : Stays (modify fun w => { w with device := w.device.see user } : World.Call Unit) :=
    fun w => ⟨Device.zone_see, rfl⟩
  exact (stays_guard _).bind fun _ => .get fun _ => (stays_logAll _).bind fun _ =>
    hsee.bind fun _ => .get fun _ => .pure _

theorem stays_storeConfiguration (user : Int) (settings : ConfigurationChange) :
    Stays (storeConfiguration user settings) := by
  have hchange : Stays (change (·.store user settings)) := fun w => ⟨Device.zone_store _, rfl⟩
  exact (stays_recordCall _).bind fun _ => (stays_guard _).bind fun _ => .get fun _ =>
    (stays_logAll _).bind fun _ => hchange

theorem stays_readClock : Stays readClock := by
  intro w
  rw [readClock, get_bind]
  cases Calendar.dateDefect? w.clock <;> exact ⟨rfl, rfl⟩

end Stays

end Session.World

/-- The device of a session, as the arbiter may rely on it. -/
def Session.boundary : Boundary World.host where
  sound := World.Sound
  ledger := World.ledger
  own user h := h.filed.user_recordOf user
  currentUser := by
    intro w h
    refine ⟨w, ?_, h, rfl⟩
    show World.currentUser w = _
    rw [World.currentUser, World.guard_bind, h.currentUser]
    rfl
  configurationOf user h := World.answers_configurationOf h user
  storeConfiguration user change h := World.answers_storeConfiguration h user change
  finishStore := World.keepsLedger_guard _
  zoneInitialized := World.keepsLedger_read _ _
  deviceZone := World.keepsLedger_read _ _
  setDeviceZone zone := World.keepsLedger_setZone (some zone)
  readClock := World.keepsLedger_readClock
  log := by
    intro w n h
    obtain ⟨trace, hlog⟩ := w.log_eq n
    show World.Sound (w.log n) ∧ World.ledger (w.log n) = World.ledger w
    rw [hlog]
    exact h.of_eq rfl ⟨w.device.zone, rfl⟩

end ZoneArbiter
