import ZoneArbiter.Proofs.Reentry

/-!
# ZoneArbiter.Proofs.Transcript

**All that passes between the arbiter and what is around it, written down in order.** A `Contact` is
one call of the host, with what was asked and how it ended, one call of a listener, or one call of
the arbiter. A transcript is kept beside the state of the host (`Transcribed`), and `Arbiter.noted`
is an arbiter that writes down whom it calls. What the host does, and what the listeners do, is left
as it is. Lines of the log reach the host as before, and are no contacts.

A call of the host is written down once it has ended. So if the host calls back meanwhile, all that
comes of it stands in the transcript before the call itself.

A host that keeps to itself does not reach the transcript (`Arbiter.Host.aside`); an arbiter on it
that writes down whom it calls is `Arbiter.transcribed`.
-/

namespace ZoneArbiter

open Arbiter (Host ListenerId Request)

/-- One contact of the arbiter with what is around it. -/
inductive Contact
  /-- The host was asked who is current. -/
  | currentUser (ended : Except Fault Int)
  /-- The host was asked for a user's record. -/
  | configurationOf (user : Int) (ended : Except Fault Configuration)
  /-- The host was asked whether the device has a zone. -/
  | zoneInitialized (ended : Except Fault Bool)
  /-- The host was asked for the zone of the device. -/
  | deviceZone (ended : Except Fault (Option String))
  /-- The host was to move the device. -/
  | setDeviceZone (zone : String) (ended : Except Fault Unit)
  /-- The host was to persist settings. -/
  | storeConfiguration (user : Int) (change : ConfigurationChange) (ended : Except Fault Bool)
  /-- The host was to do what is left of persisting. -/
  | finishStore (ended : Except Fault Unit)
  /-- The clock was read. -/
  | readClock (ended : Except Fault Int)
  /-- A listener was called. -/
  | listener (id : ListenerId)
  /-- The arbiter was called. -/
  | asked (r : Request)

/-- A state of a host, with the contacts so far. -/
structure Transcribed (ω : Type) where
  world : ω
  contacts : List Contact

variable {ω α β : Type}

/-- A call on the host's state that is no contact of the arbiter: it is not written down. -/
def Transcribed.aside (call : EStateM Fault ω α) : EStateM Fault (Transcribed ω) α := fun t =>
  match call t.world with
  | .ok x world => .ok x { t with world }
  | .error f world => .error f { t with world }

/-- The system with one more contact. -/
def System.jot (s : System (Transcribed ω)) (contact : Contact) : System (Transcribed ω) :=
  { s with host := { s.host with contacts := s.host.contacts ++ [contact] } }

/-- The system with another world. -/
def System.onWorld (s : System (Transcribed ω)) (world : ω) : System (Transcribed ω) :=
  { s with host := { s.host with world } }

namespace Effect

/-- Write a contact down. -/
def jot (contact : Contact) : Effect (Transcribed ω) Unit := modify (·.jot contact)

/-- The effect, written down once it has ended. -/
def noted (e : Effect (Transcribed ω) α) (contact : Except Fault α → Contact) :
    Effect (Transcribed ω) α := fun s =>
  match e s with
  | .ok x s' => .ok x (s'.jot (contact (.ok x)))
  | .error f s' => .error f (s'.jot (contact (.error f)))

end Effect

namespace Arbiter

/-- The arbiter, with the calls of the host and of the listeners written down. -/
def noted (a : Arbiter (Transcribed ω)) : Arbiter (Transcribed ω) where
  host :=
    { currentUser := Effect.noted a.host.currentUser .currentUser
      configurationOf := fun user =>
        Effect.noted (a.host.configurationOf user) (.configurationOf user)
      zoneInitialized := Effect.noted a.host.zoneInitialized .zoneInitialized
      deviceZone := Effect.noted a.host.deviceZone .deviceZone
      setDeviceZone := fun zone => Effect.noted (a.host.setDeviceZone zone) (.setDeviceZone zone)
      storeConfiguration := fun user change =>
        Effect.noted (a.host.storeConfiguration user change) (.storeConfiguration user change)
      finishStore := Effect.noted a.host.finishStore .finishStore
      readClock := Effect.noted a.host.readClock .readClock
      log := a.host.log }
  callListener id := do
    Effect.jot (.listener id)
    a.callListener id

/-- A call of the arbiter from outside, written down before it is made. -/
def ask (a : Arbiter (Transcribed ω)) (r : Request) : Effect (Transcribed ω) Unit := do
  Effect.jot (.asked r)
  a.serve r

/-- The host beside a transcript, which it does not reach. -/
def Host.aside (host : Host ω) : Host (Transcribed ω) :=
  host.lifted Transcribed.aside fun f t => { t with world := f t.world }

/-- An arbiter on the host, with the calls of the host and of the listeners written down. -/
def transcribed (host : Host ω) (tell : ListenerId → Effect (Transcribed ω) Unit) :
    Arbiter (Transcribed ω) :=
  (on host.aside tell).noted

end Arbiter

/-- A call of a host that keeps to itself, written down once it has ended. -/
def Transcribed.call (call : EStateM Fault ω α) (contact : Except Fault α → Contact) :
    Effect (Transcribed ω) α :=
  (Effect.onHost (aside call)).noted contact

/-! ### Effects that are written down -/

namespace Effect

theorem aside_eq (call : EStateM Fault ω α) (s : System (Transcribed ω)) :
    onHost (Transcribed.aside call) s =
      match call s.host.world with
      | .ok x world => .ok x (s.onWorld world)
      | .error f world => .error f (s.onWorld world) := by
  unfold onHost Transcribed.aside
  cases call s.host.world <;> rfl

theorem call_eq (call : EStateM Fault ω α) (contact : Except Fault α → Contact)
    (s : System (Transcribed ω)) :
    Transcribed.call call contact s =
      match call s.host.world with
      | .ok x world => .ok x ((s.onWorld world).jot (contact (.ok x)))
      | .error f world => .error f ((s.onWorld world).jot (contact (.error f))) := by
  unfold Transcribed.call noted
  rw [aside_eq]
  cases call s.host.world <;> rfl

/-- An effect in sequence that has answered, taken apart. -/
theorem ok_of_bind {e : Effect ω α} {f : α → Effect ω β} {s s' : System ω} {y : β}
    (h : (e >>= f) s = .ok y s') : ∃ x s₁, e s = .ok x s₁ ∧ f x s₁ = .ok y s' := by
  cases hrun : e s with
  | ok x s₁ =>
      rw [bind_of_ok hrun] at h
      exact ⟨x, s₁, rfl, h⟩
  | error f s₁ =>
      rw [bind_of_error hrun] at h
      cases h

/-- A call of the host that has answered did so in the host's world, and is written down. -/
theorem ok_of_call {call : EStateM Fault ω α} {contact : Except Fault α → Contact}
    {s s' : System (Transcribed ω)} {x : α} (h : Transcribed.call call contact s = .ok x s') :
    s'.memory = s.memory ∧ s'.host.contacts = s.host.contacts ++ [contact (.ok x)] := by
  rw [call_eq] at h
  cases hrun : call s.host.world with
  | error f world =>
      rw [hrun] at h
      cases h
  | ok y world =>
      rw [hrun] at h
      obtain ⟨rfl, rfl⟩ := EStateM.Result.ok.inj h
      exact ⟨rfl, rfl⟩

variable {I : System (Transcribed ω) → Prop} {e : Effect (Transcribed ω) α}

/-- An effect that is written down ends as it does by itself, with one more contact. -/
theorem Ends.noted {contact : Except Fault α → Contact} {s : System (Transcribed ω)}
    {Q : α → System (Transcribed ω) → Prop} {E : Fault → System (Transcribed ω) → Prop}
    (h : e.Ends s (fun x s' => Q x (s'.jot (contact (.ok x))))
      fun f s' => E f (s'.jot (contact (.error f)))) :
    (e.noted contact).Ends s Q E := by
  obtain ⟨x, s', hrun, hend⟩ | ⟨fault, s', hrun, hend⟩ := h.cases
  · exact .of_ok (by rw [Effect.noted, hrun]) hend
  · exact .of_error (by rw [Effect.noted, hrun]) hend

/-- An effect that is written down keeps what it keeps itself and the writing does not undo. -/
theorem Keeps.noted (h : e.Keeps I) {contact : Except Fault α → Contact}
    (hjot : ∀ {s} ended, I s → I (s.jot (contact ended))) : (e.noted contact).Keeps I :=
  fun s hs => .noted ((h s hs).mono (fun _ _ hend => hjot _ hend) fun _ _ hend => hjot _ hend)

end Effect

/-- To write a call down reaches no memory. -/
theorem Arbiter.discreet_transcribed {host : Host ω}
    {tell : ListenerId → Effect (Transcribed ω) Unit} : (transcribed host tell).Discreet where
  currentUser h := (Effect.ok_of_call h).1
  configurationOf h := (Effect.ok_of_call h).1
  zoneInitialized h := (Effect.ok_of_call h).1
  deviceZone h := (Effect.ok_of_call h).1

end ZoneArbiter
