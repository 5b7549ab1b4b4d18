import ZoneArbiter.Proofs.Scene

/-!
# ZoneArbiter.Proofs.Scene.Performance

**The arbiter performs its scenes.** A system *shows* a scene if it agrees with it
on memory, device, clock and calls, and nothing but its clock can fail (`Shows`).
An effect *plays* from one scene to another if it succeeds in every system that
shows the first, with the given answer, and leaves a system that shows the second
(`Plays`). It plays *in time* if it does so unless a reading of the clock finds no
date (`PlaysInTime`).

Design points:

* playing composes along `>>=` (`Plays.bind`), so the proof about an operation
  has the shape of its `do` block, one lemma for each line;
* log lines are no part of a scene, so `plays_note` leaves the scene alone and a
  change of what is logged touches no other proof;
* only a move of the device reads the clock, so only what may move the device
  plays no better than in time.
-/

namespace ZoneArbiter

open Session (Event Listener World)
open Effect

/-! ### Effects in sequence -/

namespace Effect

variable {ω α β : Type} {effect : Effect ω α} {f : α → Effect ω β} {s s' : System ω}

theorem bind_of_ok {a : α} (h : effect s = .ok a s') : (effect >>= f) s = f a s' := by
  show EStateM.bind effect f s = _
  rw [EStateM.bind, h]

theorem bind_of_error {fault : Fault} (h : effect s = .error fault s') :
    (effect >>= f) s = .error fault s' := by
  show EStateM.bind effect f s = _
  rw [EStateM.bind, h]

end Effect

/-! ### Performing a scene -/

/-- The system agrees with the scene, and nothing but its clock can fail. -/
structure Shows (s : System World) (sc : Scene) : Prop where
  /-- The arbiter remembers what the scene says. -/
  memory : s.memory = sc.memory
  /-- The device is the scene's. -/
  device : s.host.device = sc.device
  /-- The clock shows the scene's time. -/
  clock : s.host.clock = sc.now
  /-- A reading advances the clock as the scene says. -/
  tick : s.host.tick = sc.tick
  /-- No call of the device fails, every change is reported, no answer is fixed. -/
  rig : s.host.rig = if sc.recorded then some {} else none
  /-- The listeners have the scene's names. -/
  names : s.host.listeners.map Listener.name = sc.names
  /-- Listeners neither take steps nor fail. -/
  inert : ∀ l ∈ s.host.listeners, l.steps = [] ∧ l.fault = none
  /-- The calls recorded are the scene's. -/
  calls : s.host.trace.filter Event.isCall = sc.calls

/-- From every system that shows `sc` the effect succeeds with `a` and leaves a
system that shows `sc'`. -/
def Plays {α : Type} (effect : Effect World α) (sc : Scene) (a : α) (sc' : Scene) : Prop :=
  ∀ ⦃s⦄, Shows s sc → ∃ s', effect s = .ok a s' ∧ Shows s' sc'

/-- As `Plays`, unless a reading of the clock on the way finds no date. -/
def PlaysInTime {α : Type} (effect : Effect World α) (sc : Scene) (a : α) (sc' : Scene) : Prop :=
  ∀ ⦃s⦄, Shows s sc → (∃ s', effect s = .ok a s' ∧ Shows s' sc') ∨
    ∃ defect s', effect s = .error (.noDate defect) s'

namespace Plays

variable {α β : Type} {sc sc' sc'' : Scene}

theorem pure (a : α) (sc : Scene) : Plays (Pure.pure a) sc a sc :=
  fun s h => ⟨s, rfl, h⟩

theorem bind {effect : Effect World α} {f : α → Effect World β} {a : α} {b : β}
    (h : Plays effect sc a sc') (hf : Plays (f a) sc' b sc'') : Plays (effect >>= f) sc b sc'' := by
  intro s hs
  obtain ⟨s', hrun, hs'⟩ := h hs
  obtain ⟨s'', hrun', hs''⟩ := hf hs'
  exact ⟨s'', (bind_of_ok hrun).trans hrun', hs''⟩

/-- A line under a condition, and what follows it either way. -/
theorem when {p : Prop} [Decidable p] {effect : Effect World Unit} {rest : Unit → Effect World α}
    {a : α} (h : p → Plays effect sc () sc') (hskip : ¬ p → sc' = sc)
    (hrest : Plays (rest ()) sc' a sc'') :
    Plays (if p then effect >>= rest else rest ()) sc a sc'' := by
  by_cases hp : p
  · rw [if_pos hp]
    exact (h hp).bind hrest
  · rw [if_neg hp, ← hskip hp]
    exact hrest

/-- A call of the host plays if it does so on the host's state. -/
theorem ofHost {call : World.Call α} {a : α}
    (h : ∀ ⦃s⦄, Shows s sc → ∃ w, call s.host = .ok a w ∧ Shows { s with host := w } sc') :
    Plays (Effect.onHost call) sc a sc' := by
  intro s hs
  obtain ⟨w, hrun, hs'⟩ := h hs
  refine ⟨{ s with host := w }, ?_, hs'⟩
  rw [Effect.onHost, hrun]

end Plays

namespace PlaysInTime

variable {α β : Type} {sc sc' sc'' : Scene}

theorem bind {effect : Effect World α} {f : α → Effect World β} {a : α} {b : β}
    (h : PlaysInTime effect sc a sc') (hf : PlaysInTime (f a) sc' b sc'') :
    PlaysInTime (effect >>= f) sc b sc'' := by
  intro s hs
  rcases h hs with ⟨s', hrun, hs'⟩ | ⟨defect, s', hrun⟩
  · rw [bind_of_ok hrun]
    exact hf hs'
  · exact .inr ⟨defect, s', bind_of_error hrun⟩

end PlaysInTime

namespace Plays

variable {α β : Type} {sc sc' sc'' : Scene}

/-- What plays, plays in time. -/
theorem inTime {effect : Effect World α} {a : α} (h : Plays effect sc a sc') :
    PlaysInTime effect sc a sc' :=
  fun _ hs => .inl (h hs)

theorem before {effect : Effect World α} {f : α → Effect World β} {a : α} {b : β}
    (h : Plays effect sc a sc') (hf : PlaysInTime (f a) sc' b sc'') :
    PlaysInTime (effect >>= f) sc b sc'' :=
  h.inTime.bind hf

/-- A line under a condition, and what follows it in time either way. -/
theorem whenBefore {p : Prop} [Decidable p] {effect : Effect World Unit}
    {rest : Unit → Effect World α} {a : α} (h : p → Plays effect sc () sc')
    (hskip : ¬ p → sc' = sc) (hrest : PlaysInTime (rest ()) sc' a sc'') :
    PlaysInTime (if p then effect >>= rest else rest ()) sc a sc'' := by
  by_cases hp : p
  · rw [if_pos hp]
    exact (h hp).before hrest
  · rw [if_neg hp, ← hskip hp]
    exact hrest

end Plays

/-! ### What a shown scene says about its world -/

/-- A call that looks at the world goes on from the world it saw. -/
theorem Session.World.get_bind {α : Type} (f : World → World.Call α) (w : World) :
    (get >>= f : World.Call α) w = f w w := rfl

namespace Shows

variable {s : System World} {sc : Scene}

theorem faultOf (h : Shows s sc) (call : Session.DeviceCall) : s.host.faultOf call = none := by
  rw [World.faultOf, h.rig]
  split <;> rfl

theorem reports (h : Shows s sc) : s.host.reports = true := by
  rw [World.reports, h.rig]
  split <;> rfl

theorem guard (h : Shows s sc) (call : Session.DeviceCall) :
    World.guard call s.host = .ok () s.host := by
  rw [World.guard, World.get_bind, h.faultOf call]
  rfl

/-- A line of the log shows in no scene. -/
theorem log (h : Shows s sc) (n : Notice) : Shows { s with host := World.log n s.host } sc := by
  unfold World.log
  split
  · exact { h with calls := by simpa [World.recordEvent, Event.isCall] using h.calls }
  · exact h

theorem logAll (notices : List Notice) : ∀ {s : System World}, Shows s sc →
    Shows { s with host := notices.foldl (fun w n => w.log n) s.host } sc := by
  induction notices with
  | nil => exact fun h => h
  | cons n rest ih => exact fun h => ih (h.log n)

/-- Recording a call of the device shows as that call. -/
theorem recordCall (h : Shows s sc) {e : Event} (he : e.isCall = true) :
    Shows { s with host := if s.host.rig.isSome then s.host.recordEvent e else s.host }
      (sc.deviceCall e) := by
  rw [h.rig]
  unfold Scene.deviceCall
  by_cases hrec : sc.recorded
  · simp only [hrec, if_true, Option.isSome_some]
    exact { h with
      rig := by simpa [hrec, Scene.call, World.recordEvent] using h.rig
      calls := by simp [World.recordEvent, he, h.calls, Scene.call] }
  · simpa [hrec] using h

/-- Changing the device shows as that change. -/
theorem onDevice (h : Shows s sc) (f : Device → Device) :
    Shows { s with host := { s.host with device := f s.host.device } } (sc.onDevice f) :=
  { h with device := congrArg f h.device }

end Shows

/-! ### The calls of the device -/

section Host

variable {sc sc' : Scene} {α β : Type}

theorem onHost_bind (call : World.Call α) (f : α → World.Call β) :
    (onHost (call >>= f) : Effect World β) = onHost call >>= fun a => onHost (f a) := by
  funext s
  show onHost (EStateM.bind call f) s = EStateM.bind (onHost call) (fun a => onHost (f a)) s
  simp only [onHost, EStateM.bind]
  cases call s.host <;> rfl

/-- A call that looks at the world first may use what the scene says of it. -/
theorem Plays.host_get {f : World → World.Call α} {a : α}
    (h : ∀ ⦃s⦄, Shows s sc → Plays (onHost (f s.host)) sc a sc') :
    Plays (onHost (get >>= f)) sc a sc' :=
  fun _ hs => h hs hs

theorem plays_guard (call : Session.DeviceCall) : Plays (onHost (World.guard call)) sc () sc :=
  Plays.ofHost fun s h => ⟨s.host, h.guard call, h⟩

theorem plays_logAll (notices : List Notice) : Plays (onHost (World.logAll notices)) sc () sc :=
  Plays.ofHost fun _ h => ⟨_, rfl, h.logAll notices⟩

theorem plays_recordCall {e : Event} (he : e.isCall = true) :
    Plays (onHost (World.recordCall e)) sc () (sc.deviceCall e) :=
  Plays.ofHost fun _ h => ⟨_, rfl, h.recordCall he⟩

theorem plays_onDevice (f : Device → Device) :
    Plays (onHost (modify fun w => { w with device := f w.device })) sc () (sc.onDevice f) :=
  Plays.ofHost fun _ h => ⟨_, rfl, h.onDevice f⟩

theorem plays_change (f : Device → Bool × Device) :
    Plays (onHost (World.change f)) sc (f sc.device).1 (sc.onDevice fun d => (f d).2) := by
  refine Plays.ofHost fun s h => ⟨_, ?_, h.onDevice fun d => (f d).2⟩
  show EStateM.Result.ok ((f s.host.device).1 && s.host.reports) _ = _
  rw [h.reports, h.device, Bool.and_true]

theorem plays_currentUser : Plays (onHost World.currentUser) sc sc.device.currentUser sc := by
  rw [World.currentUser, onHost_bind]
  refine (plays_guard _).bind (Plays.host_get fun s h => ?_)
  rw [h.device]
  exact Plays.pure _ _

theorem plays_configurationOf (user : Int) :
    Plays (onHost (World.configurationOf user)) sc (sc.device.recordOf user)
      (sc.onDevice (·.see user)) := by
  rw [World.configurationOf, onHost_bind]
  refine (plays_guard _).bind (Plays.host_get fun s _ => ?_)
  rw [onHost_bind]
  refine (plays_logAll _).bind ?_
  rw [onHost_bind]
  refine (plays_onDevice (·.see user)).bind (Plays.host_get fun s h => ?_)
  rw [h.device, Scene.onDevice_device, Device.recordOf_see]
  exact Plays.pure _ _

theorem plays_zoneInitialized :
    Plays (onHost World.zoneInitialized) sc sc.device.zone.isSome sc := by
  rw [World.zoneInitialized, onHost_bind]
  refine (plays_guard _).bind (Plays.host_get fun s h => ?_)
  have hfree : s.host.rig.bind Session.Rig.initialized = none := by
    rw [h.rig]
    split <;> rfl
  rw [hfree, h.device]
  exact Plays.pure _ _

theorem plays_deviceZone : Plays (onHost World.deviceZone) sc sc.device.zone sc := by
  rw [World.deviceZone, onHost_bind]
  refine (plays_guard _).bind (Plays.host_get fun s h => ?_)
  rw [h.device]
  exact Plays.pure _ _

theorem plays_setZone (zone : Option String) :
    Plays (onHost (World.setZone zone)) sc ()
      ((sc.deviceCall (.zoneWrite zone)).onDevice (·.setZone zone)) := by
  rw [World.setZone, onHost_bind]
  refine (plays_recordCall rfl).bind ?_
  rw [onHost_bind]
  refine (plays_guard _).bind ?_
  rw [onHost_bind]
  exact (plays_logAll _).bind (plays_onDevice (·.setZone zone))

theorem plays_storeConfiguration (user : Int) (change : ConfigurationChange) :
    Plays (onHost (World.storeConfiguration user change)) sc (sc.device.store user change).1
      ((sc.deviceCall (.storeCall user change)).onDevice fun d => (d.store user change).2) := by
  rw [World.storeConfiguration, onHost_bind]
  refine (plays_recordCall rfl).bind ?_
  rw [onHost_bind]
  refine (plays_guard _).bind (Plays.host_get fun s _ => ?_)
  rw [onHost_bind]
  refine (plays_logAll _).bind ?_
  rw [← Scene.deviceCall_device sc (.storeCall user change)]
  exact plays_change (·.store user change)

/-- Reading the clock is the one call that fails: where it finds no date. -/
theorem plays_readClock :
    PlaysInTime (onHost World.readClock) sc sc.now { sc with now := sc.now + sc.tick } := by
  intro s h
  cases hdate : Calendar.dateDefect? s.host.clock with
  | some defect =>
      refine .inr ⟨defect, s, ?_⟩
      rw [onHost, World.readClock, World.get_bind, hdate]
      rfl
  | none =>
      refine .inl ⟨{ s with host := { s.host with clock := s.host.clock + s.host.tick } }, ?_, ?_⟩
      · rw [onHost, World.readClock, World.get_bind, hdate, ← h.clock]
        rfl
      · exact { h with clock := by rw [h.clock, h.tick] }

end Host

/-! ### The calls of the arbiter -/

section Arbiter

variable {sc : Scene} (bound : Nat)

theorem plays_memory : Plays memory sc sc.memory sc :=
  fun s h => ⟨s, congrArg (EStateM.Result.ok · s) h.memory, h⟩

theorem plays_remember (f : Arbiter.Memory → Arbiter.Memory) :
    Plays (remember f) sc () (sc.remember f) :=
  fun _ h => ⟨_, rfl, { h with memory := congrArg f h.memory }⟩

theorem plays_note (n : Notice) : Plays ((Session.arbiter bound).note n) sc () sc :=
  fun _ h => ⟨_, rfl, h.log n⟩

theorem plays_notes (notices : List Notice) :
    Plays (notices.forM (Session.arbiter bound).note) sc () sc := by
  induction notices with
  | nil => exact Plays.pure () sc
  | cons n rest ih => exact (plays_note bound n).bind ih

theorem plays_recordOf (user : Int) :
    Plays ((Session.arbiter bound).recordOf user) sc (sc.recordOf user) (sc.load user) := by
  intro s hs
  have hknown : s.memory.records.peek user = sc.memory.records.peek user := by rw [hs.memory]
  unfold Scene.recordOf Scene.load
  cases h : sc.memory.records.peek user with
  | some c => exact ⟨s, Arbiter.recordOf_of_peek (hknown.trans h), hs⟩
  | none =>
      have hanswer : Plays (onHost (World.configurationOf user)) sc _ _ :=
        plays_configurationOf user
      rw [Arbiter.recordOf_of_peek_none (hknown.trans h)]
      have hkept : Plays (Arbiter.reviseRecords (·.keep user (sc.device.recordOf user)))
          (sc.onDevice (·.see user)) () _ :=
        plays_remember _
      exact hanswer.bind (hkept.bind (Plays.pure (sc.device.recordOf user) _)) hs

theorem plays_currentRecord :
    Plays (Session.arbiter bound).currentRecord sc (sc.recordOf sc.device.currentUser)
      (sc.load sc.device.currentUser) :=
  plays_currentUser.bind (plays_recordOf bound _)

theorem plays_currentZone : Plays (Session.arbiter bound).currentZone sc sc.device.zone sc := by
  refine plays_zoneInitialized.bind ?_
  by_cases hzone : sc.device.zone.isSome
  · rw [if_pos hzone]
    exact plays_deviceZone
  · rw [if_neg hzone, Option.not_isSome_iff_eq_none.mp hzone]
    exact Plays.pure none sc

theorem plays_moveTo (zone : String) (cause : Cause) :
    PlaysInTime ((Session.arbiter bound).moveTo zone cause) sc () (sc.moveTo zone cause) := by
  unfold Arbiter.moveTo Scene.moveTo
  refine (plays_currentZone bound).before ?_
  split
  · exact (plays_note bound _).inTime
  · refine (plays_setZone _).before (plays_readClock.bind ?_)
    exact ((plays_remember _).bind (plays_note bound _)).inTime

theorem plays_detectByTelephony {c : Configuration} (hmode : c.mode = .autoTelephony)
    (reason : Reason) :
    PlaysInTime ((Session.arbiter bound).detectByTelephony reason) sc () (sc.detect c reason) := by
  unfold Arbiter.detectByTelephony Scene.detect Scene.proposal
  rw [hmode]
  refine plays_memory.before ?_
  cases hbest : sc.memory.telephony.best? with
  | none => exact (plays_note bound _).inTime
  | some best =>
      cases hzone : best.suggestion.zone with
      | none => simpa [hzone] using (plays_note bound _).inTime
      | some zone =>
          simp only [Option.bind_some, hzone]
          refine plays_zoneInitialized.before ?_
          split
          · exact (plays_note bound _).inTime
          · exact plays_moveTo bound zone _

theorem plays_detectByLocation {c : Configuration} (hmode : c.mode = .autoGeo) (reason : Reason) :
    PlaysInTime ((Session.arbiter bound).detectByLocation reason) sc () (sc.detect c reason) := by
  unfold Arbiter.detectByLocation Scene.detect Scene.proposal
  rw [hmode]
  refine plays_memory.before ?_
  cases hgeo : sc.memory.geolocation with
  | none => exact (plays_note bound _).inTime
  | some s =>
      refine (plays_currentZone bound).before ?_
      simp only [Option.bind_some]
      cases Geolocation.selectZone s.zones sc.device.zone with
      | none => exact (plays_note bound _).inTime
      | some zone => exact plays_moveTo bound zone _

theorem plays_detect (c : Configuration) (reason : Reason) :
    PlaysInTime ((Session.arbiter bound).detect c reason) sc () (sc.detect c reason) := by
  unfold Arbiter.detect
  cases hmode : c.mode with
  | off =>
      have hstay : sc.detect c reason = sc := by simp [Scene.detect, Scene.proposal, hmode]
      rw [hstay]
      exact (Plays.pure () sc).inTime
  | autoTelephony => exact plays_detectByTelephony bound hmode reason
  | autoGeo => exact plays_detectByLocation bound hmode reason

/-! ### Listeners -/

/-- The call that is recorded when a listener is called. -/
def Scene.listenerCalls (sc : Scene) (id : Arbiter.ListenerId) : List Event :=
  (sc.names[id]?).toList.map .listenerCalled

/-- Recording that a listener is called shows as that call. -/
theorem Shows.recordListener {s : System World} (h : Shows s sc) (name : String) :
    Shows { s with host := s.host.recordEvent (.listenerCalled name) }
      (sc.call [.listenerCalled name]) :=
  { h with calls := by simp [World.recordEvent, Scene.call, Event.isCall, h.calls] }

/-- Counting the calls of a listener down shows in no scene. -/
theorem Shows.countDown {s : System World} (h : Shows s sc) {id : Nat} {l : Listener}
    (hl : s.host.listeners[id]? = some l) (remaining : Nat) :
    Shows { s with host :=
      { s.host with listeners := s.host.listeners.set id { l with remaining } } } sc := by
  refine { h with names := ?_, inert := ?_ }
  · -- The listener that is put back has the name that was there.
    obtain ⟨hlt, hname⟩ := List.getElem?_eq_some_iff.mp
      (show (s.host.listeners.map Listener.name)[id]? = some l.name by simp [hl])
    rw [List.map_set, ← h.names]
    exact hname ▸ List.set_getElem_self hlt
  · intro l' hl'
    rcases List.mem_or_eq_of_mem_set hl' with hl' | rfl
    · exact h.inert l' hl'
    · exact h.inert l (List.mem_of_getElem? hl)

/-- A listener that answers takes no steps and does not fail. -/
theorem Shows.answerCall {s : System World} (h : Shows s sc) (id : Arbiter.ListenerId) :
    ∃ answer w, World.answerCall id s.host = .ok answer w ∧
      Shows { s with host := w } (sc.call (sc.listenerCalls id)) ∧
      ∀ l, answer = some l → l.steps = [] ∧ l.fault = none := by
  have hname : sc.names[id]? = (s.host.listeners[id]?).map Listener.name := by
    rw [← h.names, List.getElem?_map]
  unfold Scene.listenerCalls
  rw [hname]
  cases hl : s.host.listeners[id]? with
  | none =>
      refine ⟨none, s.host, ?_, by simpa [Scene.call] using h, by simp⟩
      rw [World.answerCall, World.get_bind, hl]
      rfl
  | some l =>
      have hcalled := h.recordListener l.name
      by_cases hdone : l.remaining = 0
      · refine ⟨none, _, ?_, hcalled, by simp⟩
        rw [World.answerCall, World.get_bind, hl]
        exact congrFun (if_pos hdone) _
      · refine ⟨some l, _, ?_, hcalled.countDown hl (l.remaining - 1), ?_⟩
        · rw [World.answerCall, World.get_bind, hl]
          exact congrFun (if_neg hdone) _
        · rintro l' ⟨⟩
          exact h.inert l (List.mem_of_getElem? hl)

theorem plays_callListener (id : Arbiter.ListenerId) :
    Plays (Session.callListener bound id) sc () (sc.call (sc.listenerCalls id)) := by
  intro s h
  obtain ⟨answer, w, hrun, hs, hinert⟩ := h.answerCall id
  refine ⟨{ s with host := w }, ?_, hs⟩
  have honHost : onHost (World.answerCall id) s = .ok answer { s with host := w } := by
    rw [onHost, hrun]
  cases bound with
  | zero => exact bind_of_ok honHost
  | succ bound =>
      refine (bind_of_ok honHost).trans ?_
      cases answer with
      | none => rfl
      | some l =>
          obtain ⟨hsteps, hfault⟩ := hinert l rfl
          simp only [hsteps, hfault]
          rfl

theorem plays_callListeners :
    Plays (Session.arbiter bound).callListeners sc () sc.tell := by
  -- By induction on the numbers to be called; the scene changes on the way, its names do not.
  have hall : ∀ (ids : List Arbiter.ListenerId) (sc : Scene),
      Plays (ids.forM (Session.arbiter bound).callListener) sc ()
        (sc.call ((ids.filterMap (sc.names[·]?)).map .listenerCalled)) := by
    intro ids
    induction ids with
    | nil =>
        intro sc
        simpa [Scene.call] using Plays.pure () sc
    | cons id rest ih =>
        intro sc
        refine (plays_callListener bound id).bind ?_
        have hrest := ih (sc.call (sc.listenerCalls id))
        cases hname : sc.names[id]? <;>
          simpa [Scene.call, Scene.listenerCalls, hname] using hrest
  exact plays_memory.bind (hall _ sc)

/-! ### Changes and suggestions -/

theorem plays_forgetLocation :
    Plays (Session.arbiter bound).forgetLocation sc () sc.forget := by
  refine plays_memory.bind ?_
  exact Plays.when (fun _ => plays_note bound _) (fun _ => rfl) (plays_remember _)

theorem plays_configurationChanged (previous : Option Configuration) (c : Configuration)
    (reason : Reason) :
    PlaysInTime ((Session.arbiter bound).configurationChanged previous c reason) sc ()
      (sc.configurationChanged c reason) := by
  unfold Arbiter.configurationChanged Scene.configurationChanged
  refine Plays.whenBefore (fun _ => plays_note bound _) (fun _ => rfl) ?_
  refine plays_currentUser.before ?_
  by_cases hcurrent : c.user = sc.device.currentUser
  · rw [if_pos hcurrent]
    -- Only a record that asks for no geolocation makes the arbiter forget.
    refine Plays.whenBefore (?_ : _ → Plays _ sc () (if c.geoBehavior then sc else sc.forget))
      ?_ ?_
    · rintro ⟨-, hgeo⟩
      simpa [hgeo] using plays_forgetLocation bound
    · intro hgeo
      simp_all
    · refine (plays_callListeners bound).before ?_
      rw [if_pos hcurrent]
      cases c.geoBehavior <;> exact plays_detect bound c reason
  · rw [if_neg hcurrent]
    refine Plays.whenBefore (fun h => absurd h.1 hcurrent) (fun _ => (rfl : sc = sc)) ?_
    refine (plays_callListeners bound).before ?_
    rw [if_neg hcurrent]
    exact (Plays.pure () _).inTime

theorem plays_receiveReport :
    PlaysInTime (Session.arbiter bound).receiveReport sc () sc.report := by
  unfold Arbiter.receiveReport Scene.report
  refine plays_currentUser.before ((plays_configurationOf _).before (plays_memory.before ?_))
  refine (plays_remember _).before ?_
  simp only [Scene.onDevice_memory]
  -- Another user and another record are acted on in the same way.
  have hact (known : Option Configuration) (c : Configuration) (n : Notice) (sc : Scene) :=
    (plays_note bound n : Plays _ sc () sc).before (f := fun _ =>
      (Session.arbiter bound).configurationChanged known c .externalChange)
      (plays_configurationChanged bound known c .externalChange)
  by_cases htracked : sc.device.currentUser = sc.memory.trackedUser
  · simp only [htracked, ne_eq, not_true_eq_false, decide_false, and_true, if_true]
    cases hknown : sc.memory.records.peek sc.memory.trackedUser with
    | none =>
        rw [if_neg (by simp)]
        exact ((plays_remember _).bind (plays_note bound _)).inTime
    | some known =>
        dsimp only
        by_cases hsame : known = sc.device.recordOf sc.memory.trackedUser
        · rw [if_pos (congrArg some hsame), if_pos hsame]
          exact (Plays.pure () _).inTime
        · rw [if_neg (by simpa using hsame), if_neg hsame, if_neg (by simp)]
          exact (plays_remember _).before (hact _ _ _ _)
  · simp only [htracked, ne_eq, not_false_eq_true, decide_true, Bool.true_eq_false, and_false,
      if_false]
    exact (plays_remember _).before (hact _ _ _ _)

theorem plays_persist (user : Int) (change : ConfigurationChange) :
    PlaysInTime ((Session.arbiter bound).persist user change) sc () (sc.persist user change) := by
  unfold Arbiter.persist Scene.persist
  refine (plays_storeConfiguration user change).before ?_
  split
  · exact (plays_receiveReport bound).bind (plays_guard _).inTime
  · exact (plays_guard _).inTime

theorem plays_updateConfiguration (user : Int) (change : ConfigurationChange) :
    PlaysInTime ((Session.arbiter bound).updateConfiguration user change) sc
      (sc.update user change).1 (sc.update user change).2 := by
  unfold Arbiter.updateConfiguration Scene.update
  refine (plays_recordOf bound user).before ?_
  cases hgrant : (sc.recordOf user).grant? change with
  | none => exact ((plays_note bound _).bind (Plays.pure false _)).inTime
  | some new =>
      dsimp only
      refine (plays_remember _).before ((plays_persist bound user change).bind ?_)
      by_cases hnew : new = sc.recordOf user
      · rw [if_neg (by simpa using hnew), if_pos hnew]
        exact (Plays.pure true _).inTime
      · rw [if_pos hnew, if_neg hnew]
        exact (plays_note bound _).before
          ((plays_configurationChanged bound _ _ _).bind (Plays.pure true _).inTime)

theorem plays_suggestManual (user : Int) (s : ManualSuggestion) :
    PlaysInTime ((Session.arbiter bound).suggestManual user s) sc (sc.manual user s).1
      (sc.manual user s).2 := by
  unfold Arbiter.suggestManual Scene.manual
  refine (plays_recordOf bound user).before ?_
  by_cases hallowed : (sc.recordOf user).capabilities.suggestManual = .possessed
  · rw [if_pos hallowed, if_pos hallowed]
    exact (plays_moveTo bound _ _).bind (Plays.pure true _).inTime
  · rw [if_neg hallowed, if_neg hallowed]
    exact ((plays_note bound _).bind (Plays.pure false _)).inTime

theorem plays_suggestTelephony (s : TelephonySuggestion) :
    PlaysInTime ((Session.arbiter bound).suggestTelephony s) sc () (sc.telephony s) := by
  refine (plays_notes bound _).before ((plays_remember _).before ((plays_note bound _).before ?_))
  exact (plays_currentRecord bound).before (plays_detect bound _ _)

theorem plays_suggestGeo (s : GeoSuggestion) :
    PlaysInTime ((Session.arbiter bound).suggestGeo s) sc () (sc.geo s) := by
  unfold Arbiter.suggestGeo Scene.geo
  refine (plays_currentRecord bound).before ?_
  dsimp only
  by_cases hgeo : (sc.recordOf sc.device.currentUser).geoBehavior = true
  · rw [if_pos hgeo, if_pos hgeo]
    exact (plays_remember _).before (plays_detect bound _ _)
  · rw [if_neg hgeo, if_neg hgeo]
    exact (plays_note bound _).inTime

/-! ### Queries -/

theorem plays_capabilitiesAndSettings (user : Int) :
    Plays ((Session.arbiter bound).capabilitiesAndSettings user) sc
      ((sc.recordOf user).capabilities, (sc.recordOf user).settings) (sc.load user) :=
  (plays_recordOf bound user).bind (Plays.pure _ _)

theorem plays_latestTelephony (slot : Int) :
    Plays ((Session.arbiter bound).latestTelephony slot) sc (sc.memory.telephony.get? slot) sc :=
  plays_memory.bind ((plays_notes bound _).bind (Plays.pure _ _))

theorem plays_latestGeo : Plays Arbiter.latestGeo sc sc.memory.geolocation sc :=
  plays_memory.bind (Plays.pure _ _)

theorem plays_bestTelephony : Plays Arbiter.bestTelephony sc sc.memory.telephony.best? sc :=
  plays_memory.bind (Plays.pure _ _)

end Arbiter

end ZoneArbiter
