import ZoneArbiter.Proofs.Boundary.InMemory
import ZoneArbiter.Proofs.Delay
import ZoneArbiter.Proofs.Freshness

/-!
# ZoneArbiter.Proofs.OpenSession

**On a device that stands in no rig the arbiter is in step after every step of a session, whatever
the listeners do** (`InStep.after`): it tracks the current user and goes by the device's record of
that user (`InStep.keptRecord_currentUser`). Listeners may take any steps themselves, to any depth,
among them changes on the device and switches of users in the middle of a report or an update, and
they may fail.

The device of such a session keeps a ledger (`Session.unrigged`), so calls of the arbiter keep it
in step by what is known of them (`Boundary.holds_serve`). A change on the device does not: between
the change and the report of it the arbiter is out of step, and only the two together end in step
again (`InStep.keeps_reportIf`). Nothing else can happen in between.
-/

namespace ZoneArbiter

open Session (Answer DeviceCall Listener Step World)

/-! ### Answers -/

namespace Effect.Keeps

variable {ω α β : Type} {I : System ω → Prop} {e : Effect ω α} {f : α → β}

theorem answer (h : e.Keeps I) (f : α → β) : (e >>= fun x => Pure.pure (f x)).Keeps I :=
  h.bind fun x => .pure (f x)

/-- What is made of the answer is of no account. -/
theorem of_answer (h : (e >>= fun x => Pure.pure (f x)).Keeps I) : e.Keeps I := by
  intro s hs
  have hend := h s hs
  unfold Effect.Ends at hend ⊢
  cases hrun : e s with
  | ok x s' => rwa [Effect.bind_of_ok hrun] at hend
  | error f s' => rwa [Effect.bind_of_error hrun] at hend

end Effect.Keeps

/-! ### The boundary -/

namespace Session.World

variable {α : Type} {w w' : World}

/-- A device that stands in no rig, with its records filed in order. -/
structure Plain (w : World) : Prop where
  rig : w.rig = none
  filed : w.device.Filed

theorem Plain.sound (h : w.Plain) : w.Sound := .of_unrigged h.filed h.rig

theorem Plain.of_device (h : w.Plain) (hrig : w'.rig = w.rig) (hdevice : w'.device = w.device) :
    w'.Plain ∧ w'.ledger = w.ledger := by
  refine ⟨⟨hrig.trans h.rig, ?_⟩, ?_⟩
  · rw [hdevice]
    exact h.filed
  · rw [ledger, ledger, hdevice]

theorem stays_read (call : DeviceCall) (answer : World → α) :
    Stays (guard call >>= fun _ => get >>= fun w => pure (answer w)) :=
  (stays_guard _).bind fun _ => .get fun _ => .pure _

/-- However the call ends, the rig is what it was. -/
def KeepsRig (call : World.Call α) : Prop :=
  ∀ w, match call w with
    | .ok _ w' | .error _ w' => w'.rig = w.rig

theorem Stays.keepsRig {call : World.Call α} (h : Stays call) : KeepsRig call := by
  intro w
  have hcall := h w
  cases hrun : call w <;> rw [hrun] at hcall <;> exact hcall.2

theorem keepsRig_setZone (zone : Option String) : KeepsRig (setZone zone) := by
  intro w
  obtain ⟨trace, hrun⟩ := setZone_eq zone w
  rw [hrun]
  cases w.faultOf .setDeviceZone <;> rfl

theorem Plain.answers {call : World.Call α} {answer : α} {l : Ledger}
    (hrig : KeepsRig call) (hw : w.Plain) (h : AnswersWith Sound ledger call w answer l) :
    AnswersWith Plain ledger call w answer l := by
  obtain ⟨w', hrun, hsound, hledger⟩ := h
  have hkept := hrig w
  rw [hrun] at hkept
  exact ⟨w', hrun, ⟨hkept.trans hw.rig, hsound.filed⟩, hledger⟩

theorem keepsLedger_plain {call : World.Call α} (hrig : KeepsRig call)
    (h : KeepsLedger Sound ledger call) : KeepsLedger Plain ledger call := by
  intro w hw
  have hkept := hrig w
  have hcall := h w hw.sound
  cases hrun : call w <;> rw [hrun] at hkept hcall <;>
    exact ⟨⟨hkept.trans hw.rig, hcall.1.filed⟩, hcall.2⟩

/-- A call that leaves the device and its rig alone. -/
theorem keepsLedger_modify {f : World → World} (hrig : ∀ w, w.rig = none → (f w).rig = none)
    (hdevice : ∀ w, (f w).device = w.device) :
    KeepsLedger Plain ledger (modify f : World.Call Unit) :=
  fun w hw => hw.of_device ((hrig w hw.rig).trans hw.rig.symm) (hdevice w)

/-- Listeners are counted and recorded, and nothing else is done, when one is called. -/
theorem keepsLedger_answerCall (id : Arbiter.ListenerId) :
    KeepsLedger Plain ledger (answerCall id) := by
  intro w hw
  unfold answerCall
  rw [get_bind]
  cases w.listeners[id]? with
  | none => exact ⟨hw, rfl⟩
  | some l =>
      dsimp only
      by_cases hspent : l.remaining = 0
      · simp only [hspent]
        exact hw.of_device rfl rfl
      · simp only [if_neg hspent]
        exact hw.of_device rfl rfl

/-- A device outside any rig carries out every change, and reports every one that is due. -/
theorem change_of_unrigged (hrig : w.rig = none) (f : Device → Bool × Device) :
    change f w = .ok (f w.device).1 { w with device := (f w.device).2 } := by
  have hreports : w.reports = true := by rw [World.reports, hrig]; rfl
  show EStateM.Result.ok ((f w.device).1 && w.reports) _ = _
  rw [hreports, Bool.and_true]

end Session.World

/-- A call that answers from a ledger that it leaves alone. -/
theorem AnswersWith.keepsLedger {ω α : Type} {sound : ω → Prop} {ledger : ω → Ledger}
    {call : EStateM Fault ω α} {w : ω} {answer : α}
    (h : AnswersWith sound ledger call w answer (ledger w)) :
    match call w with
      | .ok _ w' | .error _ w' => sound w' ∧ ledger w' = ledger w := by
  obtain ⟨w', hrun, hkept⟩ := h
  rw [hrun]
  exact hkept

/-- The device of a session that stands in no rig, as the arbiter may rely on it. -/
def Session.unrigged : Boundary World.host where
  sound := World.Plain
  ledger := World.ledger
  own user h := h.filed.user_recordOf user
  currentUser h := h.answers World.stays_currentUser.keepsRig (Session.boundary.currentUser h.sound)
  configurationOf user h :=
    h.answers (World.stays_configurationOf user).keepsRig
      (World.answers_configurationOf h.sound user)
  storeConfiguration user change h :=
    h.answers (World.stays_storeConfiguration user change).keepsRig
      (World.answers_storeConfiguration h.sound user change)
  finishStore := World.keepsLedger_plain (World.stays_guard _).keepsRig (World.keepsLedger_guard _)
  zoneInitialized := World.keepsLedger_plain (World.stays_read _ _).keepsRig
    (World.keepsLedger_read _ _)
  deviceZone := World.keepsLedger_plain (World.stays_read _ _).keepsRig
    (World.keepsLedger_read _ _)
  setDeviceZone zone := World.keepsLedger_plain (World.keepsRig_setZone _)
    (World.keepsLedger_setZone (some zone))
  readClock := World.keepsLedger_plain World.stays_readClock.keepsRig World.keepsLedger_readClock
  log := by
    intro w n h
    obtain ⟨trace, hlog⟩ := w.log_eq n
    show World.Plain (w.log n) ∧ World.ledger (w.log n) = World.ledger w
    rw [hlog]
    exact h.of_device rfl rfl

/-! ### In step -/

open Session (unrigged)

/-- A device outside any rig, and an arbiter that is in step with it. -/
structure InStep (s : System World) : Prop where
  plain : s.host.Plain
  kept : (unrigged.books s).Kept True

variable {α β : Type} {e : Effect World α}

namespace InStep

variable {s s' : System World}

/-- What neither looks at the records nor changes who is current is of no account. -/
theorem of_eq (h : InStep s) (hrig : s'.host.rig = s.host.rig)
    (hdevice : s'.host.device = s.host.device)
    (htracked : s'.memory.trackedUser = s.memory.trackedUser)
    (hrecords : s'.memory.records = s.memory.records) : InStep s' := by
  obtain ⟨hplain, hledger⟩ := h.plain.of_device hrig hdevice
  have hbooks : unrigged.books s' = unrigged.books s :=
    Books.ext hledger htracked (congrArg Records.peek hrecords)
  exact ⟨hplain, hbooks ▸ h.kept⟩

/-- The arbiter goes by the device's record of the current user. -/
theorem keptRecord_currentUser (h : InStep s) :
    Session.keptRecord s s.host.device.currentUser = s.host.device.inEffect :=
  (h.kept.2 trivial).kept

/-- They are in step when a session begins. -/
theorem of_system {setup : Session.Setup} (hrig : setup.rig = none) (hfiled : setup.device.Filed)
    (hs : setup.system = .ok s) : InStep s := by
  have hcalm : setup.Calm := ⟨.inl hrig, hfiled⟩
  obtain ⟨changes, hshows⟩ := hcalm.shows hs
  have hunrigged : s.host.rig = none := by
    rw [hshows.rig, if_neg]
    show ¬ setup.rig.isSome = true
    simp [hrig]
  have hdevice : s.host.device = setup.device := hshows.device
  have hmemory : s.memory = .fresh changes setup.device.currentUser := hshows.memory
  have hplain : s.host.Plain := ⟨hunrigged, hdevice ▸ hfiled⟩
  have hunknown (user : Int) : (unrigged.books s).known user = none := by
    rw [Boundary.books, hmemory]
    rfl
  refine ⟨hplain, ⟨fun user => hplain.filed.user_recordOf user, fun {user c} hc => ?_⟩,
    fun _ => ⟨?_, fun {c} hc => ?_⟩⟩
  · simp [hunknown] at hc
  · show s.memory.trackedUser = s.host.device.currentUser
    rw [hmemory, hdevice]
    rfl
  · simp [hunknown] at hc

/-! ### What keeps them in step -/

theorem of_holds {P : String → System World → Prop}
    (h : unrigged.Holds (Marking.none _) (Books.Kept True) P e s) :
    e.Ends s (fun _ s' => InStep s') fun _ s' => InStep s' :=
  h.mono (fun _ _ h => ⟨h.1, h.2⟩) fun _ _ h => ⟨h.1.1, h.1.2⟩

/-- A call on the device that leaves the records and who is current alone. -/
theorem keeps_onHost {call : World.Call α} (h : KeepsLedger World.Plain World.ledger call) :
    (Effect.onHost call).Keeps InStep :=
  fun _ hs => of_holds (P := fun _ _ => True) <|
    .of_quiet (Boundary.quiet_onHost (b := unrigged) h (names_none _ _ _)) hs.plain hs.kept

section Calls

variable {tell : Arbiter.ListenerId → Effect World Unit} (htell : ∀ id, (tell id).Keeps InStep)

include htell in
theorem hears : unrigged.Hears (Marking.none _) (Books.Kept True) tell :=
  fun id s hs hK => (htell id s ⟨hs, hK⟩).mono (fun _ _ h => ⟨h.plain, h.kept⟩)
    fun _ _ h => ⟨⟨h.plain, h.kept⟩, fun _ hnone => nomatch hnone⟩

include htell in
theorem keeps_serve (r : Arbiter.Request) :
    ((Arbiter.on World.host tell).serve r).Keeps InStep :=
  fun _ hs => of_holds <| Boundary.holds_serve (hears htell) r hs.plain
    hs.kept.1 (hs.kept.serve r)

include htell in
/-- **A report** brings them in step, whatever the device has come to. -/
theorem ends_receiveReport (hs : s.host.Plain) (hfiled : (unrigged.books s).Filed) :
    (Arbiter.on World.host tell).receiveReport.Ends s (fun _ s' => InStep s')
      fun _ s' => InStep s' :=
  of_holds <| Boundary.holds_receiveReport (hears htell) hs
    ⟨hfiled.report, fun _ => Books.inStep_report _⟩

include htell in
/-- A change of the device, with the report of it if one is due. -/
theorem keeps_reportIf {f : Device → Bool × Device} (hfiled : ∀ d, d.Filed → (f d).2.Filed)
    (hsame : ∀ d, (f d).1 = false → (f d).2 = d) :
    (Session.reportIf (.on World.host tell) (World.change f)).Keeps InStep := by
  intro s hs
  have hchanged := Effect.onHost_of_ok (World.change_of_unrigged hs.plain.rig f)
  have hplain : { s.host with device := (f s.host.device).2 }.Plain :=
    ⟨hs.plain.rig, hfiled _ hs.plain.filed⟩
  unfold Session.reportIf Effect.Ends
  rw [Effect.bind_of_ok hchanged]
  cases hdue : (f s.host.device).1 with
  | true =>
      have hknown : (unrigged.books { s with host := { s.host with
          device := (f s.host.device).2 } }).Filed :=
        ⟨fun user => hplain.filed.user_recordOf user, hs.kept.1.known⟩
      exact (ends_receiveReport htell hplain hknown).bind fun _ _ h => h
  | false =>
      rw [hsame _ hdue]
      exact hs

include htell in
/-- Persisting settings is reported if it altered the record; else nothing is new. -/
theorem keeps_persist (user : Int) (change : ConfigurationChange) :
    ((Arbiter.on World.host tell).persist user change).Keeps InStep :=
  fun _ hs => of_holds <| Boundary.holds_persist (hears htell) user
    change hs.plain
    ⟨hs.kept.1.persist user change, fun _ => (hs.kept.2 trivial).persist user change⟩

include htell in
/-- **A step.** Whatever it asks of the arbiter or does on the device, they are in step after
it. -/
theorem keeps_act (step : Step) : (Session.act (.on World.host tell) step).Keeps InStep := by
  have hserve := keeps_serve htell
  have hadjust {f : World → World} (hrig : ∀ w, w.rig = none → (f w).rig = none)
      (hdevice : ∀ w, (f w).device = w.device) : (Session.adjust f).Keeps InStep :=
    (keeps_onHost (World.keepsLedger_modify hrig hdevice)).answer _
  have hrigged {f : Session.Rig → Session.Rig} {w : World} (hrig : w.rig = none) :
      (w.adjustRig f).rig = none := by
    show w.rig.map f = none
    rw [hrig]
    rfl
  cases step with
  | invalid label problem => exact .pure _
  | current => exact (hserve .current).of_answer.answer _
  | capabilities user => exact (hserve (.capabilities user)).of_answer.answer _
  | update user change => exact (hserve (.update user change)).of_answer.answer _
  | manual user pick => exact (hserve (.manual user pick)).of_answer.answer _
  | telephony suggestion => exact (hserve (.telephony suggestion)).answer _
  | geo suggestion => exact (hserve (.geo suggestion)).answer _
  | latestTelephony slot => exact (hserve (.latestTelephony slot)).of_answer.answer _
  | latestGeo => exact (hserve .latestGeo).of_answer.answer _
  | best => exact (hserve .best).of_answer.answer _
  | addListener name steps times fault =>
      refine (keeps_onHost ?_).bind fun id => (hserve (.addListener id)).answer _
      exact fun w hw => hw.of_device rfl rfl
  | addAppendix appendix => exact (hserve (.addAppendix appendix)).answer _
  | status args unit => exact (hserve (.status args { unit })).of_answer.answer _
  | changeLog => exact .memory fun _ => .pure _
  | replace c => exact keeps_reportIf htell (fun _ h => h.replace c) fun _ =>
      Device.replace_of_not_due
  | switch c => exact keeps_reportIf htell (fun _ h => h.switch c) nofun
  | store user change => exact (keeps_persist htell user change).answer _
  | recordOf user =>
      have hread : KeepsLedger World.Plain World.ledger (World.configurationOf user) :=
        fun w hw => (unrigged.configurationOf user hw).keepsLedger
      exact (keeps_onHost hread).answer _
  | setZone zone =>
      have hset : KeepsLedger World.Plain World.ledger (World.setZone zone) :=
        World.keepsLedger_plain (World.keepsRig_setZone zone) (World.keepsLedger_setZone zone)
      exact (keeps_onHost hset).answer _
  | zone =>
      refine (keeps_onHost unrigged.zoneInitialized).bind fun initialized => ?_
      exact (keeps_onHost unrigged.deviceZone).answer _
  | report =>
      refine Effect.Keeps.answer (fun s hs => ?_) _
      exact ends_receiveReport htell hs.plain hs.kept.1
  | fault call fault? => exact hadjust (fun _ => hrigged) fun _ => rfl
  | echo on => exact hadjust (fun _ => hrigged) fun _ => rfl
  | initialized answer => exact hadjust (fun _ => hrigged) fun _ => rfl
  | clock microseconds tick => exact hadjust (fun _ h => h) fun _ => rfl

include htell in
theorem keeps_perform (step : Step) :
    (Session.perform (.on World.host tell) step).Keeps InStep := by
  have houtcome : (Session.outcome (Session.act (.on World.host tell) step)).Keeps InStep :=
    (keeps_act htell step).attempt.answer _
  cases step with
  | invalid label problem => exact .pure _
  | _ => exact houtcome

end Calls

/-- **Listeners.** However deep they call the arbiter and change the device, and wherever they
fail, they are in step after it. -/
theorem keeps_callListener (bound : Nat) (id : Arbiter.ListenerId) :
    (Session.callListener bound id).Keeps InStep := by
  induction bound generalizing id with
  | zero => exact (keeps_onHost (World.keepsLedger_answerCall id)).answer _
  | succ bound ih =>
      refine (keeps_onHost (World.keepsLedger_answerCall id)).bind fun called => ?_
      cases called with
      | none => exact .pure _
      | some l =>
          have hnested (step : Step) : Effect.Keeps InStep
              (Session.performNested (.on World.host (Session.callListener bound)) step) :=
            (keeps_perform ih step).bind fun ended =>
              keeps_onHost (World.keepsLedger_modify (fun _ h => h) fun _ => rfl)
          refine (Effect.Keeps.forM hnested).bind fun _ => ?_
          cases l.fault with
          | none => exact .pure _
          | some f => exact fun s hs => hs

/-- **Steps of a session** leave them in step. -/
theorem take (h : InStep s) (bound : Nat) (step : Step) : InStep (Session.take bound step s).2 := by
  have hclear {s' : System World} (h : InStep s') : InStep (Session.take.clear s') :=
    h.of_eq rfl rfl rfl rfl
  obtain ⟨outcome, s', hrun, hend⟩ | ⟨fault, s', hrun, hend⟩ :=
    (keeps_perform (keeps_callListener bound) step s h).cases
  all_goals
    rw [Session.take, show Session.perform (Session.arbiter bound) step s = _ from hrun]
    exact hclear hend

theorem after (h : InStep s) (bound : Nat) (steps : List Step) :
    InStep (Session.after bound s steps) := by
  induction steps generalizing s with
  | nil => exact h
  | cons step rest ih => exact ih (h.take bound step)

end InStep

end ZoneArbiter
