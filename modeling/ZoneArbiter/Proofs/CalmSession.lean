import ZoneArbiter.Proofs.Filing
import ZoneArbiter.Proofs.Scene.Performance

/-!
# ZoneArbiter.Proofs.CalmSession

A session is **calm** if its device never fails and always reports, and if its
listeners neither take steps nor fail (`Setup.Calm`, `Step.Calm`). The clock of a
calm session may show anything and advance by anything; a reading that finds no
date is the one fault that is left, and runs with no fault are `Faultless`.

**A faultless run of a calm session shows the scene that its steps lead to**
(`Shows.after`). This is the only fact about monads, hosts and traces that the
theorems on sessions rest on.
-/

namespace ZoneArbiter

open Session (Answer Event Step World)

namespace Session

/-! ### Runs -/

/-- The system after steps were taken in order. -/
def after (bound : Nat) (s : System World) (steps : List Step) : System World :=
  steps.foldl (fun s step => (take bound step s).2) s

/-- The fault that a step ended in, if it did. -/
def StepReport.fault? (seen : StepReport) : Option Fault :=
  match seen.outcome with
  | .error (.fault f) => some f
  | _ => none

/-- No step of the run ends in a fault. -/
def Faultless (bound : Nat) (s : System World) (steps : List Step) : Prop :=
  ∀ seen ∈ takeAll bound steps s, seen.fault? = none

instance (bound : Nat) (s : System World) (steps : List Step) :
    Decidable (Faultless bound s steps) :=
  inferInstanceAs (Decidable (∀ seen ∈ _, _))

@[simp] theorem after_nil (bound : Nat) (s : System World) : after bound s [] = s := rfl

@[simp] theorem after_cons (bound : Nat) (s : System World) (step : Step) (rest : List Step) :
    after bound s (step :: rest) = after bound (take bound step s).2 rest := rfl

theorem after_append (bound : Nat) (s : System World) (pre post : List Step) :
    after bound s (pre ++ post) = after bound (after bound s pre) post :=
  List.foldl_append

@[simp] theorem faultless_nil (bound : Nat) (s : System World) : Faultless bound s [] := by
  simp [Faultless, takeAll]

/-- Steps end without a fault if the first does and the rest do from there. -/
theorem faultless_cons {bound : Nat} {s : System World} {step : Step} {rest : List Step} :
    Faultless bound s (step :: rest) ↔
      (take bound step s).1.fault? = none ∧ Faultless bound (take bound step s).2 rest := by
  simp [Faultless, takeAll]

/-- A run in two parts is faultless if both parts are. -/
theorem faultless_append {bound : Nat} {s : System World} {pre post : List Step} :
    Faultless bound s (pre ++ post) ↔
      Faultless bound s pre ∧ Faultless bound (after bound s pre) post := by
  induction pre generalizing s with
  | nil => simp
  | cons step pre ih =>
      rw [List.cons_append, faultless_cons, faultless_cons, ih, after_cons, and_assoc]

/-- One more step goes on from where the steps before have led. -/
theorem after_snoc (bound : Nat) (s : System World) (pre : List Step) (step : Step) :
    after bound s (pre ++ [step]) = (take bound step (after bound s pre)).2 :=
  after_append bound s pre [step]

theorem faultless_snoc {bound : Nat} {s : System World} {pre : List Step} {step : Step} :
    Faultless bound s (pre ++ [step]) ↔
      Faultless bound s pre ∧ (take bound step (after bound s pre)).1.fault? = none := by
  rw [faultless_append, faultless_cons]
  simp

/-! ### Calm sessions -/

/-- A step that leaves the rig of the device alone, and registers a listener only
if it neither takes steps nor fails. -/
def Step.Calm : Step → Prop
  | .addListener _ steps _ failure => steps = [] ∧ failure = none
  | .fault .. | .echo _ | .initialized _ => False
  | _ => True

/-- A device that never fails and always reports, and that keeps every record
under its own user. -/
structure Setup.Calm (setup : Setup) : Prop where
  /-- There is no rig, or one that does nothing but record calls. -/
  rig : setup.rig = none ∨ setup.rig = some {}
  /-- Every record is filed under its own user, and the current user has one. -/
  filed : setup.device.Filed

/-- The scene that a calm session begins with. -/
def Setup.scene (setup : Setup) (changes : ChangeLog) : Scene where
  memory := .fresh changes setup.device.currentUser
  device := setup.device
  now := setup.clock
  tick := setup.tick
  recorded := setup.rig.isSome
  names := []
  calls := []

/-- A calm session begins, and shows the scene of its setup. -/
theorem Setup.Calm.shows {setup : Setup} (h : setup.Calm) {s : System World}
    (hs : setup.system = .ok s) : ∃ changes, Shows s (setup.scene changes) := by
  unfold Setup.system at hs
  cases hsize : ChangeLog.ofSize setup.logSize with
  | error defect => simp [hsize] at hs
  | ok changes =>
      have hguard : setup.world.faultOf .currentUser = none := by
        unfold World.faultOf Setup.world
        rcases h.rig with hrig | hrig <;> rw [hrig] <;> rfl
      have hstart : Arbiter.start World.host changes setup.world =
          .ok (.fresh changes setup.device.currentUser) setup.world := by
        simp only [Arbiter.start, World.host, World.currentUser, World.guard, bind, EStateM.bind]
        rw [show (get : World.Call World) setup.world = .ok setup.world setup.world from rfl]
        dsimp only
        rw [hguard]
        rfl
      simp only [hsize, hstart, Except.ok.injEq] at hs
      subst hs
      refine ⟨changes, rfl, rfl, rfl, rfl, ?_, rfl, by simp [Setup.world], rfl⟩
      show setup.rig = if setup.rig.isSome then some {} else none
      rcases h.rig with hrig | hrig <;> rw [hrig] <;> rfl

/-- A session on a new device. -/
def Setup.plain (seed : Configuration) (zone : Option String) : Setup :=
  { device := .start seed zone, rig := none }

/-- The system that a session on a new device begins with. -/
def Setup.opening (seed : Configuration) (zone : Option String) : System World where
  memory := .fresh ⟨30, [], by simp⟩ seed.user
  host := (Setup.plain seed zone).world

theorem Setup.calm_plain (seed : Configuration) (zone : Option String) :
    (Setup.plain seed zone).Calm :=
  ⟨.inl rfl, Device.filed_start seed zone⟩

theorem Setup.system_plain (seed : Configuration) (zone : Option String) :
    (Setup.plain seed zone).system = .ok (Setup.opening seed zone) := rfl

end Session

namespace Scene

/-- The scene once the record of calls was read. -/
def clear (sc : Scene) : Scene := { sc with calls := [] }

/-- The scene after steps were taken in order. -/
def run (sc : Scene) (steps : List Step) : Scene :=
  steps.foldl (fun sc step => (sc.after step).clear) sc

@[simp] theorem clear_memory (sc : Scene) : sc.clear.memory = sc.memory := rfl
@[simp] theorem clear_device (sc : Scene) : sc.clear.device = sc.device := rfl
@[simp] theorem run_nil (sc : Scene) : sc.run [] = sc := rfl

@[simp] theorem run_cons (sc : Scene) (step : Step) (rest : List Step) :
    sc.run (step :: rest) = (sc.after step).clear.run rest := rfl

/-- Between steps no call is recorded: the record was read. -/
theorem calls_run {sc : Scene} (h : sc.calls = []) (steps : List Step) :
    (sc.run steps).calls = [] := by
  induction steps generalizing sc with
  | nil => exact h
  | cons step rest ih => exact ih rfl

end Scene

/-! ### The status page -/

section Overview

open Arbiter (Writing)

variable {α β : Type} {sc sc' sc'' : Scene}

/-- From every system that shows `sc`, writing ends in one that shows `sc'`,
whether or not the page is cut short. -/
def Writes (writing : Writing World α) (sc sc' : Scene) : Prop :=
  ∀ ⦃s⦄ page, Shows s sc → ∃ s', Shows s' sc' ∧
    ((∃ a page', writing (s, page) = .ok a (s', page')) ∨
      ∃ f page', writing (s, page) = .error f (s', page'))

theorem Plays.act {effect : Effect World β} {b : β} {f : β → Writing World α}
    (h : Plays effect sc b sc') (hf : Writes (f b) sc' sc'') :
    Writes (Writing.act effect >>= f) sc sc'' := by
  intro s page hs
  obtain ⟨s', hrun, hs'⟩ := h hs
  have hact : (Writing.act effect >>= f) (s, page) = f b (s', page) := by
    show EStateM.bind (Writing.act effect) f (s, page) = _
    simp only [EStateM.bind, Writing.act, hrun]
  rw [hact]
  exact hf page hs'

theorem Writes.put {g : Status.Page → Status.Page} {f : Unit → Writing World α}
    (h : Writes (f ()) sc sc') : Writes (Writing.put g >>= f) sc sc' :=
  fun _ page hs => h (g page) hs

/-- The appendices write to the page alone, whether or not one of them fails. -/
theorem Arbiter.Writing.run_appendices {ω : Type} (appendices : List Status.Appendix)
    (args : List String) (s : System ω) (page : Status.Page) :
    ∃ page', (appendices.forM fun appendix =>
        (Writing.onPage (appendix.run args) : Writing ω Unit)) (s, page) = .ok () (s, page') ∨
      ∃ f, (appendices.forM fun appendix =>
        (Writing.onPage (appendix.run args) : Writing ω Unit)) (s, page) = .error f (s, page') := by
  induction appendices generalizing page with
  | nil => exact ⟨page, .inl rfl⟩
  | cons appendix rest ih =>
      rw [show (appendix :: rest).forM (fun appendix => Writing.onPage (appendix.run args)) =
        EStateM.bind (Writing.onPage (appendix.run args)) fun _ =>
          rest.forM fun appendix => Writing.onPage (appendix.run args) from rfl]
      simp only [EStateM.bind, Writing.onPage]
      cases appendix.run args page with
      | ok _ page' => exact ih page'
      | error f page' => exact ⟨page', .inr ⟨f, rfl⟩⟩

theorem writes_appendices (appendices : List Status.Appendix) (args : List String) :
    Writes (appendices.forM fun appendix => Writing.onPage (appendix.run args)) sc sc := by
  intro s page hs
  obtain ⟨page', hrun | ⟨f, hrun⟩⟩ := Writing.run_appendices appendices args s page
  · exact ⟨s, hs, .inl ⟨(), page', hrun⟩⟩
  · exact ⟨s, hs, .inr ⟨f, page', hrun⟩⟩

/-- A status page loads the record of the current user. -/
theorem writes_status (bound : Nat) (args : List String) :
    Writes ((Session.arbiter bound).writeStatus args) sc (sc.load sc.device.currentUser) := by
  unfold Arbiter.writeStatus
  refine (plays_currentRecord bound).act (plays_memory.act (Writes.put ?_))
  refine plays_zoneInitialized.act (Writes.put ?_)
  refine (plays_currentZone bound).act (Writes.put (plays_memory.act (Writes.put ?_)))
  exact Writes.put (Writes.put (Writes.put (writes_appendices _ args)))

/-- Writing the status page never fails; the page may be cut short. -/
theorem shows_overview (bound : Nat) (args : List String) (page : Status.Page)
    {s : System World} (h : Shows s sc) :
    ∃ written s', (Session.arbiter bound).overview args page s = .ok written s' ∧
      Shows s' (sc.load sc.device.currentUser) := by
  unfold Arbiter.overview
  obtain ⟨s', hs', ⟨_, page', hrun⟩ | ⟨f, page', hrun⟩⟩ := writes_status bound args page h
  · exact ⟨(page', none), s', by rw [hrun], hs'⟩
  · exact ⟨(page', some f), s', by rw [hrun], hs'⟩

end Overview

/-! ### Steps and runs -/

section Run

variable {bound : Nat} {sc sc' : Scene} {s : System World}

/-- Adding a listener that is inert shows as its name. -/
theorem plays_addListener (name : String) (times : Nat) :
    Plays (Effect.onHost (World.addListener ⟨name, [], times, none⟩)) sc sc.names.length
      { sc with names := sc.names ++ [name] } := by
  refine Plays.ofHost fun s h =>
    ⟨{ s.host with listeners := s.host.listeners ++ [⟨name, [], times, none⟩] }, ?_, ?_⟩
  · rw [← h.names, List.length_map]
    rfl
  · refine { h with names := by simp [← h.names], inert := ?_ }
    intro l hl
    rcases List.mem_append.mp hl with hl | hl
    · exact h.inert l hl
    · simp [List.mem_singleton.mp hl]

/-- A change made on the device, with its report handled if one is due. -/
theorem plays_reportIf (f : Device → Bool × Device) :
    PlaysInTime (Session.reportIf (Session.arbiter bound) (World.change f)) sc .done
      (if (f sc.device).1 then (sc.onDevice fun d => (f d).2).report
        else sc.onDevice fun d => (f d).2) := by
  unfold Session.reportIf
  refine (plays_change f).before ?_
  split
  · exact (plays_receiveReport bound).bind (Plays.pure _ _).inTime
  · exact (Plays.pure _ _).inTime

/-- What a step is answered with. Nothing is said of the text of a status page, and a step that
was not understood is answered with its problem. -/
def Scene.answer? (sc : Scene) : Step → Option Answer
  | .current => some (.record (sc.recordOf sc.device.currentUser))
  | .capabilities user =>
      some (.capabilities (sc.recordOf user).capabilities (sc.recordOf user).settings)
  | .update user change => some (.flag (sc.update user change).1)
  | .manual user pick => some (.flag (sc.manual user pick).1)
  | .latestTelephony slot => some (.telephony (sc.memory.telephony.get? slot))
  | .latestGeo => some (.geo sc.memory.geolocation)
  | .best => some (.telephony sc.memory.telephony.best?)
  | .changeLog => some (.changes sc.memory.changes.entries)
  | .recordOf user => some (.record (sc.device.recordOf user))
  | .zone => some (.zone sc.device.zone.isSome sc.device.zone)
  | .invalid .. | .status .. => none
  | .telephony _ | .geo _ | .addListener .. | .addAppendix _ | .replace _ | .switch _ | .store ..
  | .setZone _ | .report | .fault .. | .echo _ | .initialized _ | .clock .. => some .done

variable (bound) in
/-- A calm step gives its answer and leads to the scene after it, unless its clock finds no
date. -/
theorem plays_act {step : Step} (hcalm : step.Calm) {answer : Answer}
    (hanswer : sc.answer? step = some answer) :
    PlaysInTime (Session.act (Session.arbiter bound) step) sc answer (sc.after step) := by
  have inTime {given : Answer} {sc' : Scene} (hsame : some given = some answer)
      (hp : PlaysInTime (Session.act (Session.arbiter bound) step) sc given sc') :
      PlaysInTime (Session.act (Session.arbiter bound) step) sc answer sc' :=
    Option.some.inj hsame ▸ hp
  have plays {given : Answer} {sc' : Scene} (hsame : some given = some answer)
      (hp : Plays (Session.act (Session.arbiter bound) step) sc given sc') :=
    inTime hsame hp.inTime
  cases step with
  | invalid | status => simp [Scene.answer?] at hanswer
  | current => exact plays hanswer ((plays_currentRecord bound).bind (Plays.pure _ _))
  | capabilities user =>
      exact plays hanswer ((plays_capabilitiesAndSettings bound user).bind (Plays.pure _ _))
  | update user change =>
      exact inTime hanswer
        ((plays_updateConfiguration bound user change).bind (Plays.pure _ _).inTime)
  | manual user pick =>
      exact inTime hanswer ((plays_suggestManual bound user pick).bind (Plays.pure _ _).inTime)
  | telephony suggestion =>
      exact inTime hanswer ((plays_suggestTelephony bound suggestion).bind (Plays.pure _ _).inTime)
  | geo suggestion =>
      exact inTime hanswer ((plays_suggestGeo bound suggestion).bind (Plays.pure _ _).inTime)
  | latestTelephony slot =>
      exact plays hanswer ((plays_latestTelephony bound slot).bind (Plays.pure _ _))
  | latestGeo => exact plays hanswer (plays_latestGeo.bind (Plays.pure _ _))
  | best => exact plays hanswer (plays_bestTelephony.bind (Plays.pure _ _))
  | changeLog => exact plays hanswer (plays_memory.bind (Plays.pure _ _))
  | addListener name steps times failure =>
      obtain ⟨rfl, rfl⟩ := hcalm
      exact plays hanswer ((plays_addListener name times).bind
        ((plays_remember _).bind (Plays.pure _ _)))
  | addAppendix appendix => exact plays hanswer ((plays_remember _).bind (Plays.pure _ _))
  | replace c => exact inTime hanswer (plays_reportIf _)
  | switch c => exact inTime hanswer (plays_reportIf fun device => (true, device.switch c))
  | store user change =>
      exact inTime hanswer ((plays_persist bound user change).bind (Plays.pure _ _).inTime)
  | recordOf user => exact plays hanswer ((plays_configurationOf user).bind (Plays.pure _ _))
  | setZone zone => exact plays hanswer ((plays_setZone zone).bind (Plays.pure _ _))
  | zone =>
      exact plays hanswer
        (plays_zoneInitialized.bind (plays_deviceZone.bind (Plays.pure _ _)))
  | report => exact inTime hanswer ((plays_receiveReport bound).bind (Plays.pure _ _).inTime)
  | fault | echo | initialized => exact hcalm.elim
  | clock microseconds tick =>
      exact inTime hanswer fun s h => .inl ⟨_, rfl, { h with clock := rfl, tick := rfl }⟩

variable (bound) in
/-- A calm step succeeds and shows the scene after it, unless its clock finds no
date. -/
theorem Shows.act (h : Shows s sc) {step : Step} (hcalm : step.Calm) :
    (∃ answer s', Session.act (Session.arbiter bound) step s = .ok answer s' ∧
      Shows s' (sc.after step)) ∨
    ∃ defect s', Session.act (Session.arbiter bound) step s = .error (.noDate defect) s' := by
  cases hanswer : sc.answer? step with
  | some answer =>
      exact (plays_act bound hcalm hanswer h).imp_left fun ⟨s', hs'⟩ => ⟨answer, s', hs'⟩
  | none =>
      cases step with
      | invalid => exact .inl ⟨.done, s, rfl, h⟩
      | status args unit =>
          obtain ⟨written, s', hrun, hs'⟩ := shows_overview bound args { unit } h
          exact .inl ⟨.page written.1.text written.2, s', Effect.bind_of_ok hrun, hs'⟩
      | _ => simp [Scene.answer?] at hanswer

/-- A step that was understood is reported with how acting on it ends. -/
theorem Session.perform_eq {step : Step} (hvalid : ∀ label problem, step ≠ .invalid label problem)
    (a : Arbiter World) (s : System World) :
    perform a step s =
      match act a step s with
      | .ok answer s' => .ok (.ok answer) s'
      | .error f s' => .ok (.error (.fault f)) s' := by
  have hperform : perform a step = outcome (act a step) := by
    cases step with
    | invalid label problem => exact absurd rfl (hvalid label problem)
    | _ => rfl
  rw [hperform]
  show EStateM.bind (Effect.attempt (act a step)) _ s = _
  simp only [EStateM.bind, Effect.attempt]
  cases act a step s <;> rfl

/-- A system whose record of events is read shows the scene whose record is. -/
theorem Shows.clear (h : Shows s sc) : Shows (Session.take.clear s) sc.clear :=
  { h with calls := rfl }

/-- A step that ends without a fault gives the answer that it plays with. -/
theorem Shows.outcome_take (h : Shows s sc) {step : Step} {answer : Answer}
    (hvalid : ∀ label problem, step ≠ .invalid label problem)
    (hp : PlaysInTime (Session.act (Session.arbiter bound) step) sc answer sc')
    (hok : (Session.take bound step s).1.fault? = none) :
    (Session.take bound step s).1.outcome = .ok answer := by
  have htake := Session.perform_eq hvalid (Session.arbiter bound) s
  rcases hp h with ⟨s', hrun, -⟩ | ⟨defect, s', hrun⟩ <;> rw [hrun] at htake <;> dsimp only at htake
  · rw [Session.take, htake]
  · rw [Session.take, htake] at hok
    simp [Session.StepReport.fault?] at hok

/-- A calm step that ends without a fault is answered as the scene says. -/
theorem Shows.answers (h : Shows s sc) {step : Step} (hcalm : step.Calm) {answer : Answer}
    (hanswer : sc.answer? step = some answer)
    (hok : (Session.take bound step s).1.fault? = none) :
    (Session.take bound step s).1.outcome = .ok answer := by
  refine h.outcome_take (fun label problem hinvalid => ?_) (plays_act bound hcalm hanswer) hok
  rw [hinvalid] at hanswer
  simp [Scene.answer?] at hanswer

/-- **One step.** A calm step that ends without a fault shows the scene after it, and what is
seen to happen in it is what that scene records. -/
theorem Shows.performs (h : Shows s sc) {step : Step} (hcalm : step.Calm)
    (hok : (Session.take bound step s).1.fault? = none) :
    ∃ s', Shows s' (sc.after step) ∧ (Session.take bound step s).1.events = s'.host.trace ∧
      (Session.take bound step s).2 = Session.take.clear s' := by
  by_cases hvalid : ∀ label problem, step ≠ .invalid label problem
  · have htake := Session.perform_eq hvalid (Session.arbiter bound) s
    rcases h.act bound hcalm with ⟨answer, s', hrun, hs'⟩ | ⟨defect, s', hrun⟩ <;>
      rw [hrun] at htake <;> dsimp only at htake
    · refine ⟨s', hs', ?_, ?_⟩ <;> rw [Session.take, htake]
    · rw [Session.take, htake] at hok
      simp [Session.StepReport.fault?] at hok
  · -- A step that was not understood is never acted on.
    simp only [Classical.not_forall, Classical.not_not] at hvalid
    obtain ⟨label, problem, rfl⟩ := hvalid
    exact ⟨s, h, rfl, rfl⟩

/-- A step without a fault shows what the scene is after it. -/
theorem Shows.take (h : Shows s sc) {step : Step} (hcalm : step.Calm)
    (hok : (Session.take bound step s).1.fault? = none) :
    Shows (Session.take bound step s).2 (sc.after step).clear := by
  obtain ⟨s', hs', -, htake⟩ := h.performs hcalm hok
  rw [htake]
  exact hs'.clear

/-- The calls of a step are seen in the order in which the scene records them. -/
theorem Shows.calls_take (h : Shows s sc) {step : Step} (hcalm : step.Calm)
    (hok : (Session.take bound step s).1.fault? = none) :
    (Session.take bound step s).1.events.filter Event.isCall = (sc.after step).calls := by
  obtain ⟨s', hs', hevents, -⟩ := h.performs hcalm hok
  rw [hevents, hs'.calls]

/-- **A faultless run of calm steps shows the scene that the steps lead to.** -/
theorem Shows.after {steps : List Step} (h : Shows s sc) (hcalm : ∀ step ∈ steps, step.Calm)
    (hok : Session.Faultless bound s steps) :
    Shows (Session.after bound s steps) (sc.run steps) := by
  induction steps generalizing s sc with
  | nil => exact h
  | cons step rest ih =>
      obtain ⟨hstep, hcalm⟩ := List.forall_mem_cons.mp hcalm
      obtain ⟨hfault, hok⟩ := Session.faultless_cons.mp hok
      rw [Session.after_cons, Scene.run_cons]
      exact ih (h.take hstep hfault) hcalm hok

end Run

end ZoneArbiter
