import ZoneArbiter.Proofs.Transcript
import ZoneArbiter.Proofs.Upkeep
import ZoneArbiter.Session.World

/-!
# ZoneArbiter.Proofs.Surroundings

**Hosts and listeners that may do anything, calls of the arbiter included.** Whoever is called may
look at everything, act on the world, report a change and call the arbiter, as often as they like
and in any order, and catch the faults that this ends in or pass them on (`Transcribed.CallBack`,
`Effect.MadeOf`). An arbiter that is called back has surroundings in turn (`Arbiter.Around`), down
to such as act on the world alone (`Arbiter.Innermost`). So every boundary is covered whose calls
nest to a finite depth.

Apart from the arbiter nobody reaches its memory, and nobody writes the transcript but by a call. A
condition on the two that the arbiter itself keeps is then kept whatever the surroundings do
(`Transcribed.Settled`).
-/

namespace ZoneArbiter

open Arbiter (Host ListenerId Request)

variable {ω α : Type}

/-- The contact neither moves the device nor suggests anything to the arbiter. -/
def Contact.Quiet : Contact → Prop
  | .setDeviceZone _ _ | .asked _ => False
  | _ => True

/-! ### What surroundings do -/

namespace Transcribed

/-- What is done without the arbiter: to look at everything, and to act on the world, as far as it
is free to change. -/
inductive Aside (free : ω → ω → Prop) : {α : Type} → Effect (Transcribed ω) α → Prop
  | look : Aside free (get : Effect (Transcribed ω) (System (Transcribed ω)))
  | act {α : Type} {call : EStateM Fault ω α}
      (h : ∀ w, match call w with | .ok _ w' | .error _ w' => free w w') :
      Aside free (Effect.onHost (aside call))

/-- Any call of a host that keeps to itself is made without the arbiter. -/
theorem Aside.of_call {α : Type} (call : EStateM Fault ω α) :
    Aside (fun _ _ => True) (Effect.onHost (aside call)) :=
  .act fun w => by cases call w <;> trivial

/-- What is done with the arbiter or without it: besides, changes are reported to it and it is
called. -/
inductive CallBack (free : ω → ω → Prop) (a : Arbiter (Transcribed ω)) :
    {α : Type} → Effect (Transcribed ω) α → Prop
  | aside {α : Type} {e : Effect (Transcribed ω) α} (h : Aside free e) : CallBack free a e
  | report : CallBack free a a.receiveReport
  | ask (r : Request) : CallBack free a (a.ask r)

/-- An arbiter has started in a world, and nothing has passed between it and its surroundings. -/
def Begins (changes : ChangeLog) (w : ω) (s : System (Transcribed ω)) : Prop :=
  ∃ user, s = ⟨.fresh changes user, ⟨w, []⟩⟩

end Transcribed

open Transcribed (Aside CallBack)

namespace Arbiter

/-- All that the arbiter calls is as `P` says, its moves of the device apart. A line of the log
reaches the world alone. -/
structure Calls (P : {α : Type} → Effect (Transcribed ω) α → Prop)
    (a : Arbiter (Transcribed ω)) : Prop where
  currentUser : P a.host.currentUser
  configurationOf : ∀ user, P (a.host.configurationOf user)
  zoneInitialized : P a.host.zoneInitialized
  deviceZone : P a.host.deviceZone
  storeConfiguration : ∀ user change, P (a.host.storeConfiguration user change)
  finishStore : P a.host.finishStore
  callListener : ∀ id, P (a.callListener id)
  log : ∀ n s, ∃ world, a.host.log n s = s.onWorld world

/-- A line of the log keeps what depends on nothing in the world. -/
theorem Calls.keeps_log {P : {α : Type} → Effect (Transcribed ω) α → Prop}
    {a : Arbiter (Transcribed ω)} (h : a.Calls P) {I : System (Transcribed ω) → Prop}
    {s : System (Transcribed ω)} (n : Notice) (hI : ∀ world, I (s.onWorld world)) :
    I (a.host.log n s) := by
  obtain ⟨world, hlog⟩ := h.log n s
  rw [hlog]
  exact hI world

/-- What the arbiter calls in a move, once it has read the zone, is as `P` says. -/
structure Moves (P : {α : Type} → Effect (Transcribed ω) α → Prop)
    (a : Arbiter (Transcribed ω)) : Prop where
  setDeviceZone : ∀ zone, P (a.host.setDeviceZone zone)
  readClock : P a.host.readClock

section KeepsToItself

variable {P : {α : Type} → Effect (Transcribed ω) α → Prop} (host : Host ω)
  {tell : ListenerId → Effect (Transcribed ω) Unit}

/-- Of a host that keeps to itself it is enough to know what its calls are beside a transcript. -/
theorem calls_aside
    (hcall : ∀ {α : Type} (call : EStateM Fault ω α), P (Effect.onHost (Transcribed.aside call)))
    (htell : ∀ id, P (tell id)) : (on host.aside tell).Calls P where
  currentUser := hcall _
  configurationOf _ := hcall _
  zoneInitialized := hcall _
  deviceZone := hcall _
  storeConfiguration _ _ := hcall _
  finishStore := hcall _
  callListener := htell
  log n s := ⟨host.log n s.host.world, rfl⟩

theorem moves_aside
    (hcall : ∀ {α : Type} (call : EStateM Fault ω α), P (Effect.onHost (Transcribed.aside call))) :
    (on host.aside tell).Moves P where
  setDeviceZone _ := hcall _
  readClock := hcall _

end KeepsToItself

/-- The surroundings of the arbiter leave it alone. -/
structure Innermost (free : ω → ω → Prop) (a : Arbiter (Transcribed ω)) : Prop where
  calls : a.Calls (Effect.MadeOf (Aside free))
  moves : a.Moves (Effect.MadeOf (Aside free))

/-- A host that keeps to itself leaves the arbiter alone, and so do listeners that only fail. -/
theorem innermost_aside (host : Host ω) (fault : ListenerId → Fault) :
    Innermost (fun _ _ => True) (on host.aside fun id => throw (fault id)) where
  calls := calls_aside host (fun call => .basic (.of_call call)) fun id => .fail (fault id)
  moves := moves_aside host fun call => .basic (.of_call call)

/-- The surroundings of the outer arbiter call back, and the inner one is what they find then. -/
structure Around (free : ω → ω → Prop) (inner outer : Arbiter (Transcribed ω)) : Prop where
  calls : outer.Calls (Effect.MadeOf (CallBack free inner.noted))
  moves : outer.Moves (Effect.MadeOf (CallBack free inner.noted))

/-- The surroundings call back, except that to move the device and to tell the time they do
not. -/
structure StillAround (free : ω → ω → Prop) (inner outer : Arbiter (Transcribed ω)) : Prop where
  calls : outer.Calls (Effect.MadeOf (CallBack free inner.noted))
  moves : outer.Moves (Effect.MadeOf (Aside free))

end Arbiter

/-! ### What is kept -/

variable {free : ω → ω → Prop} {a : Arbiter (Transcribed ω)} {e : Effect (Transcribed ω) α}
  {I : System (Transcribed ω) → Prop}

/-- What the world may do without breaking a condition, can be done without the arbiter. -/
theorem Transcribed.Aside.keeps (h : Aside free e)
    (hworld : ∀ {s : System (Transcribed ω)} {world}, free s.host.world world → I s →
      I (s.onWorld world)) : e.Keeps I := by
  cases h with
  | look => exact .look
  | @act _ call hfree =>
      intro s hs
      have hcall := hfree s.host.world
      unfold Effect.Ends
      rw [Effect.aside_eq]
      cases hrun : call s.host.world <;> rw [hrun] at hcall <;> exact hworld hcall hs

/-- What calls of the arbiter keep, is kept by all who call it. -/
theorem Transcribed.CallBack.keeps (h : CallBack free a e)
    (haside : ∀ {α : Type} {e : Effect (Transcribed ω) α}, Aside free e → e.Keeps I)
    (hreport : a.receiveReport.Keeps I) (hask : ∀ r, (a.ask r).Keeps I) : e.Keeps I := by
  cases h with
  | aside h => exact haside h
  | report => exact hreport
  | ask r => exact hask r

/-- The condition is on the change log, the suggestions of telephony and what has moved the device
or suggested a zone: nothing else can break it. -/
structure Transcribed.Settled (I : System (Transcribed ω) → Prop) : Prop where
  memory : ∀ {s : System (Transcribed ω)} {m : Arbiter.Memory}, I s →
    m.changes = s.memory.changes → m.telephony = s.memory.telephony → I { s with memory := m }
  onWorld : ∀ {s : System (Transcribed ω)} world, I s → I (s.onWorld world)
  jot : ∀ {s : System (Transcribed ω)} {contact : Contact}, contact.Quiet → I s →
    I (s.jot contact)

namespace Transcribed.Settled

/-- Nothing that is done without the arbiter breaks the condition. -/
theorem aside (h : Settled I) (he : Aside free e) : e.Keeps I :=
  he.keeps fun _ hs => h.onWorld _ hs

/-- **An arbiter whose surroundings and whose moves keep the condition** keeps it, with the calls of
the surroundings written down. -/
theorem upkeep (h : Settled I) {P : {α : Type} → Effect (Transcribed ω) α → Prop}
    (hcalls : a.Calls P) (hP : ∀ {α : Type} {e : Effect (Transcribed ω) α}, P e → e.Keeps I)
    (hmove : ∀ zone cause, (a.noted.moveTo zone cause).Keeps I) : Upkeep a.noted I where
  memory := h.memory
  currentUser := (hP hcalls.currentUser).noted fun _ => h.jot trivial
  configurationOf user := (hP (hcalls.configurationOf user)).noted fun _ => h.jot trivial
  zoneInitialized := (hP hcalls.zoneInitialized).noted fun _ => h.jot trivial
  deviceZone := (hP hcalls.deviceZone).noted fun _ => h.jot trivial
  storeConfiguration user change :=
    (hP (hcalls.storeConfiguration user change)).noted fun _ => h.jot trivial
  finishStore := (hP hcalls.finishStore).noted fun _ => h.jot trivial
  log n hs := hcalls.keeps_log n fun world => h.onWorld world hs
  callListener id := by
    have hjot : (Effect.jot (.listener id)).Keeps I := fun _ hs => h.jot trivial hs
    exact hjot.bind fun _ => hP (hcalls.callListener id)
  moveTo := hmove

/-- Those who call the arbiter keep what it keeps, if its calls from outside do. -/
theorem callBack (h : Settled I) (u : Upkeep a I) (hask : ∀ r, (a.ask r).Keeps I)
    (he : CallBack free a e) : e.Keeps I :=
  he.keeps h.aside u.receiveReport hask

end Transcribed.Settled

/-- An arbiter on the device of a session, with listeners that fail. -/
def Session.unanswered : Arbiter (Transcribed World) :=
  .on World.host.aside fun _ => throw (.reported "no answer")

end ZoneArbiter
