import ZoneArbiter.Arbiter.Change
import ZoneArbiter.Arbiter.Suggest
import ZoneArbiter.Proofs.Coherence

/-!
# ZoneArbiter.Proofs.Boundary

**What the arbiter may rely on, on a host that is not under its control.** A host keeps a
`Ledger`: who is current, and every user's record. A `Boundary` says of which states of the
host the ledger can be read off, and that the calls on records answer from it. All other
calls may end as they like, in a fault or not, as long as they leave the ledger alone.

Design points:

* the ledger is not the host's to keep still: between two calls of the arbiter any sound
  state may have taken the place of the host's, and nothing here says otherwise;
* a proof about a call of the arbiter says how it ends (`Effect.Ends`), with one condition for
  an answer and one for a fault. A fault keeps the state that it stopped in, so what is said of
  that state is said of the moment of the fault;
* a `Marking` tells which move of the device a fault comes from. So "at the moment of a move"
  is the state in which a move that fails has stopped.
-/

namespace ZoneArbiter

open Arbiter (Host ListenerId Memory)

/-! ### How effects end -/

namespace Effect

variable {ω α β : Type} {e : Effect ω α} {f : α → Effect ω β} {s : System ω}
  {Q Q' : α → System ω → Prop} {R : β → System ω → Prop} {E E' : Fault → System ω → Prop}

/-- However the effect ends from `s`: if it answers, with `Q`, and if it fails, with `E`. -/
def Ends (e : Effect ω α) (s : System ω) (Q : α → System ω → Prop)
    (E : Fault → System ω → Prop) : Prop :=
  match e s with
  | .ok a s' => Q a s'
  | .error fault s' => E fault s'

theorem Ends.of_ok {a : α} {s' : System ω} (hrun : e s = .ok a s') (h : Q a s') : Ends e s Q E := by
  rwa [Ends, hrun]

theorem Ends.of_error {fault : Fault} {s' : System ω} (hrun : e s = .error fault s')
    (h : E fault s') : Ends e s Q E := by
  rwa [Ends, hrun]

theorem Ends.of_eq {e' : Effect ω α} (hrun : e s = e' s) (h : Ends e' s Q E) : Ends e s Q E := by
  rwa [Ends, hrun]

/-- Either the effect answers or it fails, and how it ends holds of the system that it leaves. -/
theorem Ends.cases (h : Ends e s Q E) :
    (∃ a s', e s = .ok a s' ∧ Q a s') ∨ ∃ fault s', e s = .error fault s' ∧ E fault s' := by
  unfold Ends at h
  cases hrun : e s with
  | ok a s' =>
      rw [hrun] at h
      exact .inl ⟨a, s', rfl, h⟩
  | error fault s' =>
      rw [hrun] at h
      exact .inr ⟨fault, s', rfl, h⟩

/-- What is said of the ends may be weakened. -/
theorem Ends.mono (h : Ends e s Q E) (hQ : ∀ a s', Q a s' → Q' a s')
    (hE : ∀ fault s', E fault s' → E' fault s') : Ends e s Q' E' := by
  obtain ⟨a, s', hrun, hend⟩ | ⟨fault, s', hrun, hend⟩ := h.cases
  · exact .of_ok hrun (hQ a s' hend)
  · exact .of_error hrun (hE fault s' hend)

theorem Ends.mono_error (h : Ends e s Q E) (hE : ∀ fault s', E fault s' → E' fault s') :
    Ends e s Q E' :=
  h.mono (fun _ _ h => h) hE

/-- What follows starts where an answer has left the system. A fault ends all of it. -/
theorem Ends.bind (h : Ends e s Q E) (hf : ∀ a s', Q a s' → Ends (f a) s' R E) :
    Ends (e >>= f) s R E := by
  obtain ⟨a, s', hrun, hend⟩ | ⟨fault, s', hrun, hend⟩ := h.cases
  · rw [Ends, bind_of_ok hrun]
    exact hf a s' hend
  · exact .of_error (bind_of_error hrun) hend

theorem Ends.pure {a : α} (h : Q a s) : Ends (Pure.pure a) s Q E := h

theorem onHost_of_ok {call : EStateM Fault ω α} {a : α} {w : ω} (h : call s.host = .ok a w) :
    onHost call s = .ok a { s with host := w } := by
  rw [onHost, h]

/-- What is read is the memory as it is. -/
theorem Ends.memory {f : Memory → Effect ω β} (h : Ends (f s.memory) s R E) :
    Ends (Effect.memory >>= f) s R E := h

theorem Ends.remember {g : Memory → Memory} {f : Unit → Effect ω β}
    (h : Ends (f ()) { s with memory := g s.memory } R E) :
    Ends (Effect.remember g >>= f) s R E := h

/-- An effect ends in one way only. -/
theorem Ends.and (h : Ends e s Q E) (h' : Ends e s Q' E') :
    Ends e s (fun a s' => Q a s' ∧ Q' a s') fun fault s' => E fault s' ∧ E' fault s' := by
  unfold Ends at h h' ⊢
  cases hrun : e s <;> rw [hrun] at h h' <;> exact ⟨h, h'⟩

end Effect

/-! ### What a host does not reach -/

namespace Effect

/-- A call of the host leaves the arbiter's memory alone. -/
theorem memory_of_onHost {ω α : Type} {call : EStateM Fault ω α} {a : α} {s s' : System ω}
    (h : onHost call s = .ok a s') : s'.memory = s.memory := by
  unfold onHost at h
  cases hcall : call s.host with
  | error f w => simp [hcall] at h
  | ok b w =>
      rw [hcall] at h
      injection h with _ hs
      rw [← hs]

end Effect

namespace Arbiter

open Effect

variable {ω : Type} {a : Arbiter ω} {host : Host ω} {tell : ListenerId → Effect ω Unit}
  {s s' : System ω} {user : Int} {c : Configuration}

/-- The host answers what it is asked without reaching the arbiter's memory. -/
structure Discreet (a : Arbiter ω) : Prop where
  currentUser : ∀ {s s' x}, a.host.currentUser s = .ok x s' → s'.memory = s.memory
  configurationOf : ∀ {user s s' x}, a.host.configurationOf user s = .ok x s' →
    s'.memory = s.memory
  zoneInitialized : ∀ {s s' x}, a.host.zoneInitialized s = .ok x s' → s'.memory = s.memory
  deviceZone : ∀ {s s' x}, a.host.deviceZone s = .ok x s' → s'.memory = s.memory

/-- A host that keeps to itself reaches no memory. -/
theorem discreet_on : (on host tell).Discreet :=
  ⟨memory_of_onHost, memory_of_onHost, memory_of_onHost, memory_of_onHost⟩

/-- Asking for a record loads that record and changes nothing else in memory. -/
theorem Discreet.memory_of_recordOf (hdiscreet : a.Discreet) (h : a.recordOf user s = .ok c s') :
    s'.memory = { s.memory with records := s'.memory.records } ∧
      ∀ v, s'.memory.records.peek v = if v = user then some c else s.memory.records.peek v := by
  cases hpeek : s.memory.records.peek user with
  | some known =>
      obtain ⟨rfl, rfl⟩ := EStateM.Result.ok.inj ((recordOf_of_peek hpeek).symm.trans h)
      refine ⟨rfl, fun v => ?_⟩
      split
      · rename_i hv
        exact hv ▸ hpeek
      · rfl
  | none =>
      rw [recordOf_of_peek_none hpeek] at h
      cases hload : a.host.configurationOf user s with
      | error f s₁ =>
          rw [bind_of_error hload] at h
          cases h
      | ok loaded s₁ =>
          rw [bind_of_ok hload] at h
          obtain ⟨rfl, rfl⟩ := EStateM.Result.ok.inj h
          dsimp only
          rw [hdiscreet.configurationOf hload]
          exact ⟨rfl, fun v => s.memory.records.peek_keep user v loaded⟩

end Arbiter

/-! ### Boundaries -/

/-- Who is current, and the record of every user. -/
structure Ledger where
  currentUser : Int
  recordOf : Int → Configuration

namespace Ledger

/-- The current user's record. -/
def inEffect (l : Ledger) : Configuration := l.recordOf l.currentUser

/-- Does a change of a user's settings alter the record? -/
def alters (l : Ledger) (user : Int) (change : ConfigurationChange) : Bool :=
  decide ((l.recordOf user).merge change ≠ l.recordOf user)

/-- The ledger once the settings are persisted. -/
def store (l : Ledger) (user : Int) (change : ConfigurationChange) : Ledger where
  currentUser := l.currentUser
  recordOf v := if v = user then (l.recordOf user).merge change else l.recordOf v

end Ledger

/-- However the call ends, the state is sound and shows the same ledger. -/
def KeepsLedger {ω α : Type} (sound : ω → Prop) (ledger : ω → Ledger)
    (call : EStateM Fault ω α) : Prop :=
  ∀ w, sound w → match call w with
    | .ok _ w' | .error _ w' => sound w' ∧ ledger w' = ledger w

/-- The call answers, and leaves a sound state with the given ledger. -/
def AnswersWith {ω α : Type} (sound : ω → Prop) (ledger : ω → Ledger)
    (call : EStateM Fault ω α) (w : ω) (answer : α) (l : Ledger) : Prop :=
  ∃ w', call w = .ok answer w' ∧ sound w' ∧ ledger w' = l

/-- A host that keeps a ledger: it answers from it, persists what a change names, and reports
at once exactly if that altered the record. The calls on the zone and on the clock are free to
fail. -/
structure Boundary {ω : Type} (host : Arbiter.Host ω) where
  sound : ω → Prop
  ledger : ω → Ledger
  /-- The record of a user names that user. -/
  own : ∀ {w : ω} (user : Int), sound w → ((ledger w).recordOf user).user = user
  currentUser : ∀ {w : ω}, sound w →
    AnswersWith sound ledger host.currentUser w (ledger w).currentUser (ledger w)
  configurationOf : ∀ {w : ω} (user : Int), sound w →
    AnswersWith sound ledger (host.configurationOf user) w ((ledger w).recordOf user) (ledger w)
  storeConfiguration : ∀ {w : ω} (user : Int) (change : ConfigurationChange), sound w →
    AnswersWith sound ledger (host.storeConfiguration user change) w
      ((ledger w).alters user change) ((ledger w).store user change)
  finishStore : KeepsLedger sound ledger host.finishStore
  zoneInitialized : KeepsLedger sound ledger host.zoneInitialized
  deviceZone : KeepsLedger sound ledger host.deviceZone
  setDeviceZone : ∀ zone, KeepsLedger sound ledger (host.setDeviceZone zone)
  readClock : KeepsLedger sound ledger host.readClock
  log : ∀ {w : ω} (n : Notice), sound w →
    sound (host.log n w) ∧ ledger (host.log n w) = ledger w

/-- A fault of the call that names a zone names one with `P`. -/
def Names {ω α : Type} (sound : ω → Prop) (zoneOf : Fault → Option String) (P : String → Prop)
    (call : EStateM Fault ω α) : Prop :=
  ∀ w, sound w → match call w with
    | .ok _ _ => True
    | .error f _ => ∀ zone, zoneOf f = some zone → P zone

/-- A way to tell from a fault which move of the device it comes from: a fault that names a
zone comes from a move to that zone. -/
structure Marking {ω : Type} {host : Arbiter.Host ω} (b : Boundary host) where
  zoneOf : Fault → Option String
  setDeviceZone : ∀ zone, Names b.sound zoneOf (· = zone) (host.setDeviceZone zone)
  finishStore : Names b.sound zoneOf (fun _ => False) host.finishStore
  zoneInitialized : Names b.sound zoneOf (fun _ => False) host.zoneInitialized
  deviceZone : Names b.sound zoneOf (fun _ => False) host.deviceZone
  readClock : Names b.sound zoneOf (fun _ => False) host.readClock

/-- Where no fault names a zone, nothing is said of any call. -/
theorem names_none {ω α : Type} (sound : ω → Prop) (P : String → Prop)
    (call : EStateM Fault ω α) : Names sound (fun _ => none) P call := by
  intro w _
  cases call w <;> simp

/-- Nothing has to be told. -/
def Marking.none {ω : Type} {host : Arbiter.Host ω} (b : Boundary host) : Marking b where
  zoneOf _ := Option.none
  setDeviceZone _ := names_none _ _ _
  finishStore := names_none _ _ _
  zoneInitialized := names_none _ _ _
  deviceZone := names_none _ _ _
  readClock := names_none _ _ _

/-! ### What leaves the records alone -/

section Still

variable {ω α β : Type} {host : Arbiter.Host ω} (b : Boundary host) (k : Marking b)

/-- From one system to another nothing has changed but the zone, the clock, what was logged,
and the change log. -/
structure Boundary.Still (s s' : System ω) : Prop where
  sound : b.sound s'.host
  ledger : b.ledger s'.host = b.ledger s.host
  memory : ∃ changes, s'.memory = { s.memory with changes }

/-- The effect leaves everything still, and where it stops in a move of the device, it is one
to a zone with `P`. -/
def Boundary.Touches (P : String → Prop) (e : Effect ω α) (s : System ω) : Prop :=
  Effect.Ends e s (fun _ s' => b.Still s s') fun f s' =>
    b.Still s s' ∧ ∀ zone, k.zoneOf f = some zone → P zone

/-- The effect leaves everything still and moves nothing. -/
def Boundary.Quiet (e : Effect ω α) : Prop :=
  ∀ s, b.sound s.host → b.Touches k (fun _ => False) e s

variable {b k} {s s' s'' : System ω} {e : Effect ω α} {f : α → Effect ω β} {P P' : String → Prop}

namespace Boundary.Still

theorem refl (hs : b.sound s.host) : b.Still s s := ⟨hs, rfl, s.memory.changes, rfl⟩

/-- What happens without a change of the ledger adds up. -/
theorem trans (h : b.Still s s') (h' : b.Still s' s'') : b.Still s s'' where
  sound := h'.sound
  ledger := h'.ledger.trans h.ledger
  memory := by
    obtain ⟨changes, hmemory⟩ := h.memory
    obtain ⟨changes', hmemory'⟩ := h'.memory
    exact ⟨changes', by rw [hmemory', hmemory]⟩

/-- The change log is no ground to go anywhere, so the grounds are the same before and after. -/
theorem grounds (h : b.Still s s') {before : Option String} {zone : String} {mode : DetectionMode}
    (hgrounds : Grounds s.memory before zone mode) : Grounds s'.memory before zone mode := by
  obtain ⟨changes, hmemory⟩ := h.memory
  exact hgrounds.of_eq (by rw [hmemory]) (by rw [hmemory])

theorem of_host {w : ω} (hw : b.sound w ∧ b.ledger w = b.ledger s.host) :
    b.Still s { s with host := w } :=
  ⟨hw.1, hw.2, s.memory.changes, rfl⟩

end Boundary.Still

namespace Boundary.Touches

theorem weaken (h : b.Touches k P e s) (hP : ∀ zone, P zone → P' zone) : b.Touches k P' e s :=
  h.mono_error fun _ _ h => ⟨h.1, fun zone hzone => hP zone (h.2 zone hzone)⟩

theorem pure (hs : b.sound s.host) (a : α) : b.Touches k P (Pure.pure a) s :=
  Effect.Ends.pure (.refl hs)

/-- Faults of what follows count as well, and start from a system that is still the same. -/
theorem bind (h : b.Touches k P e s) (hf : ∀ a s', b.Still s s' → b.Touches k P (f a) s') :
    b.Touches k P (e >>= f) s := by
  refine Effect.Ends.bind h fun a s' hstill => (hf a s' hstill).mono ?_ ?_
  · exact fun _ _ h' => hstill.trans h'
  · exact fun _ _ h' => ⟨hstill.trans h'.1, h'.2⟩

/-- A call of the host touches what its faults name, and no memory. -/
theorem onHost {call : EStateM Fault ω α} (hcall : KeepsLedger b.sound b.ledger call)
    (hmark : Names b.sound k.zoneOf P call) (hs : b.sound s.host) :
    b.Touches k P (Effect.onHost call) s := by
  have hkept := hcall s.host hs
  have hmarked := hmark s.host hs
  unfold Boundary.Touches Effect.Ends Effect.onHost
  cases hrun : call s.host with
  | ok a w =>
      rw [hrun] at hkept
      exact .of_host hkept
  | error fault w =>
      rw [hrun] at hkept hmarked
      exact ⟨.of_host hkept, hmarked⟩

/-- An entry in the change log leaves everything still. -/
theorem record (change : ZoneChange) (hs : b.sound s.host) :
    b.Touches k P (Effect.remember fun m => { m with changes := m.changes.record change }) s :=
  show b.Still s _ from ⟨hs, rfl, _, rfl⟩

end Boundary.Touches

/-- What is quiet stops in no move, so it may be asked for any. -/
theorem Boundary.Quiet.touches (h : b.Quiet k e) (hs : b.sound s.host) : b.Touches k P e s :=
  (h s hs).weaken fun _ hfalse => hfalse.elim

/-- A call of the host whose faults name no zone is quiet. -/
theorem Boundary.quiet_onHost {call : EStateM Fault ω α}
    (hcall : KeepsLedger b.sound b.ledger call)
    (hmark : Names b.sound k.zoneOf (fun _ => False) call) : b.Quiet k (Effect.onHost call) :=
  fun _ hs => .onHost hcall hmark hs

end Still

/-! ### Detection -/

section Detection

variable {ω : Type} {host : Arbiter.Host ω} {tell : ListenerId → Effect ω Unit}
  {b : Boundary host} {k : Marking b} {s : System ω}

/-- Logging never fails. -/
theorem Boundary.notes (notices : List Notice) (hs : b.sound s.host) :
    Effect.Ends (notices.forM (Arbiter.on host tell).note) s (fun _ s' => b.Still s s')
      fun _ _ => False := by
  induction notices generalizing s with
  | nil => exact Effect.Ends.pure (.refl hs)
  | cons n rest ih =>
      have hnote : b.Still s { s with host := host.log n s.host } := .of_host (b.log n hs)
      exact (ih hnote.sound).mono (fun _ _ h => hnote.trans h) fun _ _ h => h

theorem Boundary.quiet_note (n : Notice) : b.Quiet k ((Arbiter.on host tell).note n) :=
  fun _ hs => Effect.Ends.of_ok rfl (.of_host (b.log n hs))

/-- To read the zone is quiet, be the device set up or not. -/
theorem Boundary.quiet_currentZone : b.Quiet k (Arbiter.on host tell).currentZone := by
  intro s hs
  refine (Boundary.quiet_onHost b.zoneInitialized k.zoneInitialized s hs).bind
    fun initialized s' hstill => ?_
  split
  · exact Boundary.quiet_onHost b.deviceZone k.deviceZone s' hstill.sound
  · exact .pure hstill.sound _

/-- A move stops, if it does, in a move to the zone that was asked for. -/
theorem Boundary.touches_moveTo (zone : String) (cause : Cause) (hs : b.sound s.host) :
    b.Touches k (· = zone) ((Arbiter.on host tell).moveTo zone cause) s := by
  refine (b.quiet_currentZone.touches hs).bind fun previous s₁ h₁ => ?_
  split
  · exact (b.quiet_note _).touches h₁.sound
  · refine (Touches.onHost (b.setDeviceZone zone) (k.setDeviceZone zone) h₁.sound).bind
      fun _ s₂ h₂ => ?_
    refine ((quiet_onHost b.readClock k.readClock).touches h₂.sound).bind fun changedAt s₃ h₃ => ?_
    exact (Touches.record _ h₃.sound).bind fun _ s₄ h₄ => (b.quiet_note _).touches h₄.sound

/-- **Detection moves the device on the grounds of the mode that it is given.** -/
theorem Boundary.touches_detect (c : Configuration) (reason : Reason) (hs : b.sound s.host) :
    b.Touches k (Grounds s.memory none · c.mode) ((Arbiter.on host tell).detect c reason) s := by
  unfold Arbiter.detect
  cases c.mode with
  | off => exact .pure hs ()
  | autoTelephony =>
      refine Effect.Ends.memory ?_
      cases hbest : s.memory.telephony.best? with
      | none => exact (b.quiet_note _).touches hs
      | some best =>
          cases hzone : best.suggestion.zone with
          | none =>
              simp only [hzone]
              exact (b.quiet_note _).touches hs
          | some zone =>
              simp only [hzone]
              refine ((quiet_onHost b.zoneInitialized k.zoneInitialized).touches hs).bind
                fun initialized s₁ h₁ => ?_
              split
              · exact (b.quiet_note _).touches h₁.sound
              · refine (b.touches_moveTo zone _ h₁.sound).weaken ?_
                rintro _ rfl
                exact .telephony hbest hzone (by simp)
  | autoGeo =>
      refine Effect.Ends.memory ?_
      cases hheld : s.memory.geolocation with
      | none => exact (b.quiet_note _).touches hs
      | some g =>
          refine (b.quiet_currentZone.touches hs).bind fun current s₁ h₁ => ?_
          cases hselect : Geolocation.selectZone g.zones current with
          | none => exact (b.quiet_note _).touches h₁.sound
          | some zone =>
              refine (b.touches_moveTo zone _ h₁.sound).weaken ?_
              rintro _ rfl
              obtain ⟨candidates, hzones, hhead, -⟩ := Geolocation.selectZone_eq_some_iff.mp hselect
              exact .location hheld hzones hhead (by simp)

end Detection

end ZoneArbiter
