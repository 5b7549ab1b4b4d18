import Mathlib.Data.List.Chain
import ZoneArbiter.Proofs.Boundary.InMemory
import ZoneArbiter.Proofs.Surroundings

/-!
# ZoneArbiter.Proofs.LogTail

**The change log holds the last moves of the device that the arbiter made, each with the zone
that it read right before** (`changes_are_last_moves`). The moves are read off the transcript
(`Contact.moves`) and compared with the log, in every run of an arbiter whose surroundings may call
it back to any depth, though not while they move the device.

A move that fails is no move and leaves no entry. After one that succeeds the arbiter only
has to read the clock before the entry is made, so what is said here holds as long as no
reading of the clock has failed (`Transcribed.Dated`).

On a device in memory that nobody else moves, the zone read is the zone moved to last. So
entries chain, and the last of them tells where the device is.
-/

namespace ZoneArbiter

open Arbiter (ListenerId Request)
open Session (World)
open Transcribed (Aside Begins CallBack)

/-! ### Moves in a transcript -/

namespace Contact

/-- What the contact tells of the device's zone. -/
def reading? : Contact → Option (Option String)
  | .zoneInitialized (.ok false) => some none
  | .deviceZone (.ok zone) => some zone
  | _ => none

/-- Where the contact moved the device. -/
def zone? : Contact → Option String
  | .setDeviceZone zone (.ok ()) => some zone
  | _ => none

/-- How a reading of the clock failed. -/
def clockFault? : Contact → Option Fault
  | .readClock (.error fault) => some fault
  | _ => none

/-- The moves among contacts, each with what the contact right before it told of the zone. -/
def movesAfter (before : Option (Option String)) :
    List Contact → List (Option (Option String) × String)
  | [] => []
  | contact :: rest =>
      (contact.zone?.map (before, ·)).toList ++ movesAfter contact.reading? rest

def moves (contacts : List Contact) : List (Option (Option String) × String) :=
  movesAfter none contacts

/-- A contact adds at most one move, with what the contact before it told of the zone. -/
theorem moves_snoc (contacts : List Contact) (contact : Contact) :
    moves (contacts ++ [contact]) = moves contacts ++
      (contact.zone?.map ((contacts.getLast?.bind reading?), ·)).toList := by
  have hafter (before : Option (Option String)) : movesAfter before (contacts ++ [contact]) =
      movesAfter before contacts ++
        (contact.zone?.map (((contacts.getLast?.map reading?).getD before), ·)).toList := by
    induction contacts generalizing before with
    | nil => simp [movesAfter]
    | cons first rest ih =>
        rw [List.cons_append, movesAfter, ih, movesAfter, List.append_assoc, List.getLast?_cons]
        cases rest.getLast? <;> rfl
  rw [moves, hafter none]
  cases contacts.getLast? <;> rfl

/-- A quiet contact moves nothing. -/
theorem zone?_of_quiet {contact : Contact} (h : contact.Quiet) : contact.zone? = none := by
  cases contact <;> first | rfl | exact h.elim

end Contact

/-- No reading of the clock has failed. -/
def Transcribed.Dated {ω : Type} (t : Transcribed ω) : Prop :=
  ∀ contact ∈ t.contacts, contact.clockFault? = none

instance Transcribed.decidableDated {ω : Type} (t : Transcribed ω) : Decidable t.Dated :=
  inferInstanceAs (Decidable (∀ contact ∈ t.contacts, contact.clockFault? = none))

/-! ### The log and the moves -/

theorem map_lastItems {α β : Type} (f : α → β) (n : Nat) (items : List α) :
    (lastItems n items).map f = lastItems n (items.map f) := by
  simp [lastItems, List.map_drop]

theorem getLast?_of_lastItems {α : Type} {n : Nat} {items : List α} {x : α}
    (h : (lastItems n items).getLast? = some x) : items.getLast? = some x := by
  rw [lastItems, List.getLast?_drop] at h
  split at h
  · simp at h
  · exact h

/-- The log keeps `n` entries, and holds the last of the moves. -/
structure ChangeLog.Holds (log : ChangeLog) (n : Nat)
    (moves : List (Option (Option String) × String)) : Prop where
  capacity : log.capacity = n
  entries : log.entries.map (fun e => (some e.previous, e.zone)) = lastItems n moves
  elsewhere : ∀ e ∈ log.entries, e.previous ≠ some e.zone

/-- One more entry is one more move, and the oldest goes if there is no room. -/
theorem ChangeLog.Holds.record {log : ChangeLog} {n : Nat}
    {moves : List (Option (Option String) × String)} (h : log.Holds n moves) {change : ZoneChange}
    (hchange : change.previous ≠ some change.zone) :
    (log.record change).Holds n (moves ++ [(some change.previous, change.zone)]) where
  capacity := h.capacity
  entries := by
    rw [← lastItems_lastItems_append, ← h.entries, ← h.capacity]
    show (lastItems log.capacity (log.entries ++ [change])).map _ = _
    rw [map_lastItems, List.map_append]
    rfl
  elsewhere := by
    intro e he
    rcases List.mem_append.mp (List.mem_of_mem_drop he) with he | he
    · exact h.elsewhere e he
    · rw [List.mem_singleton.mp he]
      exact hchange

section Tail

variable {ω : Type} {free : ω → ω → Prop} {a : Arbiter (Transcribed ω)} {n : Nat}
  {s : System (Transcribed ω)}

theorem Transcribed.Dated.of_jot {contact : Contact} (h : (s.jot contact).host.Dated) :
    s.host.Dated :=
  fun contact hmem => h contact (List.mem_append_left _ hmem)

/-- Unless a reading of the clock has failed, the log holds the last moves. -/
def LogTail (n : Nat) (s : System (Transcribed ω)) : Prop :=
  s.host.Dated → s.memory.changes.Holds n (Contact.moves s.host.contacts)

/-- A contact that moves nothing leaves the log the tail of the moves. -/
theorem LogTail.jot (h : LogTail n s) {contact : Contact} (hcontact : contact.zone? = none) :
    LogTail n (s.jot contact) := by
  intro hdated
  show s.memory.changes.Holds n (Contact.moves (s.host.contacts ++ [contact]))
  rw [Contact.moves_snoc, hcontact]
  simpa using h hdated.of_jot

theorem LogTail.settled : Transcribed.Settled (LogTail (ω := ω) n) where
  memory hs hchanges _ hdated := hchanges ▸ hs hdated
  onWorld _ hs := hs
  jot hquiet hs := hs.jot (Contact.zone?_of_quiet hquiet)

/-- What is read of the zone is what the last contact told. -/
theorem LogTail.currentZone (hinitialized : Effect.Keeps (LogTail n) a.host.zoneInitialized)
    (hzone : Effect.Keeps (LogTail n) a.host.deviceZone) (h : LogTail n s) :
    a.noted.currentZone.Ends s
      (fun previous s' => LogTail n s' ∧
        s'.host.contacts.getLast?.bind Contact.reading? = some previous)
      fun _ s' => LogTail n s' := by
  refine Effect.Ends.bind (Q := fun initialized s' => LogTail n s' ∧
    s'.host.contacts.getLast? = some (.zoneInitialized (.ok initialized))) ?_
    fun initialized s₁ ⟨h₁, hlast⟩ => ?_
  · refine .noted ((hinitialized s h).mono (fun _ s' hend => ?_) fun _ s' hend => hend.jot rfl)
    exact ⟨LogTail.settled.jot trivial hend, List.getLast?_concat⟩
  · cases initialized with
    | true =>
        refine .noted ((hzone s₁ h₁).mono (fun _ s' hend => ?_) fun _ s' hend => hend.jot rfl)
        refine ⟨hend.jot rfl, ?_⟩
        show (s'.host.contacts ++ [_]).getLast?.bind Contact.reading? = _
        rw [List.getLast?_concat]
        rfl
    | false => exact ⟨h₁, by rw [hlast]; rfl⟩

/-- With the entry for a move the log holds the last moves again. -/
theorem LogTail.entry {s' : System (Transcribed ω)} {previous : Option String} {zone : String}
    {cause : Cause} {changedAt : Int} (h : LogTail n s)
    (hreading : s.host.contacts.getLast?.bind Contact.reading? = some previous)
    (hne : previous ≠ some zone) (hmemory : s'.memory = s.memory)
    (hcontacts : s'.host.contacts = s.host.contacts ++ [.setDeviceZone zone (.ok ())] ++
      [.readClock (.ok changedAt)]) :
    LogTail n { s' with memory := { s'.memory with
      changes := s'.memory.changes.record { zone, previous, cause, changedAt } } } := by
  intro hdated
  have hmoves : Contact.moves s'.host.contacts =
      Contact.moves s.host.contacts ++ [(some previous, zone)] := by
    rw [hcontacts, Contact.moves_snoc, Contact.moves_snoc, hreading]
    simp [Contact.zone?]
  have hbefore : s'.memory.changes.Holds n (Contact.moves s.host.contacts) := by
    rw [hmemory]
    refine h fun contact hmem => hdated contact ?_
    show _ ∈ s'.host.contacts
    rw [hcontacts]
    exact List.mem_append_left _ (List.mem_append_left _ hmem)
  have hentry : (ZoneChange.mk zone previous cause changedAt).previous ≠ some zone := hne
  show (s'.memory.changes.record ⟨zone, previous, cause, changedAt⟩).Holds n
    (Contact.moves s'.host.contacts)
  rw [hmoves]
  exact hbefore.record hentry

/-- **A move.** It ends with its entry made, or without having moved the device, or in a
reading of the clock. -/
theorem LogTail.moveTo {P : {α : Type} → Effect (Transcribed ω) α → Prop} (hcalls : a.Calls P)
    (hP : ∀ {α : Type} {e : Effect (Transcribed ω) α}, P e → e.Keeps (LogTail n))
    (hmoves : a.Moves (Effect.MadeOf (Aside free))) (zone : String) (cause : Cause) :
    (a.noted.moveTo zone cause).Keeps (LogTail n) := by
  have hnote (notice : Notice) : (a.noted.note notice).Keeps (LogTail n) :=
    fun _ hs => hcalls.keeps_log notice fun world => LogTail.settled.onWorld world hs
  intro s hs
  have hread := LogTail.currentZone (hP hcalls.zoneInitialized) (hP hcalls.deviceZone) hs
  refine hread.bind fun previous s₁ ⟨h₁, hreading⟩ => ?_
  split
  · exact hnote _ _ h₁
  · rename_i hne
    -- Between the move and its entry the log is short of one, but nobody calls the arbiter then.
    have halone {α : Type} {e : Effect (Transcribed ω) α} (he : e.MadeOf (Aside free))
        (contacts : List Contact) : e.Keeps fun s =>
          s.memory = s₁.memory ∧ s.host.contacts = contacts :=
      he.keeps fun h => h.keeps fun _ hs => hs
    refine Effect.Ends.bind (Q := fun _ s₂ => s₂.memory = s₁.memory ∧
      s₂.host.contacts = s₁.host.contacts ++ [.setDeviceZone zone (.ok ())]) ?_
      fun _ s₂ ⟨hmemory, hmoved⟩ => ?_
    · refine .noted ((halone (hmoves.setDeviceZone zone) s₁.host.contacts s₁ ⟨rfl, rfl⟩).mono ?_ ?_)
      · rintro - s' ⟨hmemory, hcontacts⟩
        exact ⟨hmemory, congrArg (· ++ _) hcontacts⟩
      · rintro fault s' ⟨hmemory, hcontacts⟩
        refine LogTail.jot (fun hdated => ?_) rfl
        rw [hmemory, hcontacts]
        refine h₁ fun contact hmem => hdated contact ?_
        rwa [hcontacts]
    refine Effect.Ends.bind (Q := fun changedAt s₃ => s₃.memory = s₁.memory ∧
      s₃.host.contacts = s₁.host.contacts ++ [.setDeviceZone zone (.ok ())] ++
        [.readClock (.ok changedAt)]) ?_ fun changedAt s₃ ⟨hmemory', hread⟩ => ?_
    · refine .noted ((halone hmoves.readClock _ s₂ ⟨hmemory, hmoved⟩).mono ?_ ?_)
      · rintro changedAt s' ⟨hmemory, hcontacts⟩
        exact ⟨hmemory, congrArg (· ++ _) hcontacts⟩
      · -- A clock that fails here ends the move before its entry, and the transcript tells so.
        intro fault s' _ hdated
        have hclock := hdated _ (List.mem_append_right _ (List.mem_singleton_self _))
        cases hclock
    exact Effect.Ends.remember (hnote _ _ (h₁.entry hreading hne hmemory' hread))

/-- It is enough that the surroundings keep the log the tail of the moves and call back in no
move. -/
theorem LogTail.upkeep {P : {α : Type} → Effect (Transcribed ω) α → Prop} (hcalls : a.Calls P)
    (hP : ∀ {α : Type} {e : Effect (Transcribed ω) α}, P e → e.Keeps (LogTail n))
    (hmoves : a.Moves (Effect.MadeOf (Aside free))) : Upkeep a.noted (LogTail n) :=
  LogTail.settled.upkeep hcalls hP (LogTail.moveTo hcalls hP hmoves)

/-- A call from outside moves nothing by itself. -/
theorem LogTail.ask (u : Upkeep a (LogTail n)) (r : Request) : (a.ask r).Keeps (LogTail n) := by
  have hjot : (Effect.jot (.asked r)).Keeps (LogTail (ω := ω) n) := fun _ hs => hs.jot rfl
  refine hjot.bind fun _ => u.serve r fun suggestion _ s hs => ?_
  exact u.suggestTelephony (J := LogTail n) u.log suggestion (fun h => h) hs

/-- **Layers.** The log is the tail of the moves however deep the calls of the arbiter nest. -/
theorem LogTail.layered (h : Layered (Arbiter.Innermost free) (Arbiter.StillAround free) a) :
    Upkeep a.noted (LogTail n) := by
  refine h.holds (P := fun a => Upkeep a.noted (LogTail n)) (fun a h => ?_)
    fun inner outer h u => ?_
  · exact LogTail.upkeep h.calls (fun he => he.keeps LogTail.settled.aside) h.moves
  · have hback {α : Type} {e : Effect (Transcribed ω) α} (he : CallBack free inner.noted e) :
        e.Keeps (LogTail n) := LogTail.settled.callBack u (LogTail.ask u) he
    exact LogTail.upkeep h.calls (fun he => he.keeps hback) h.moves

/-- **Runs.** -/
theorem LogTail.reached {size : Int} {changes : ChangeLog} {w : ω}
    (hsize : ChangeLog.ofSize size = .ok changes) (u : Upkeep a (LogTail size.toNat))
    (h : Effect.Reaches (CallBack free a) (Begins changes w) s) : LogTail size.toNat s := by
  have hempty : changes.Holds size.toNat [] := by
    unfold ChangeLog.ofSize at hsize
    split at hsize
    · cases hsize
    · split at hsize
      · cases hsize
      · cases hsize
        exact ⟨rfl, by simp [lastItems], nofun⟩
  refine h.holds ?_ fun he => LogTail.settled.callBack u (LogTail.ask u) he
  rintro s ⟨user, rfl⟩ -
  exact hempty

end Tail

/-! ### Devices in memory -/

namespace Contact

/-- Where the contact leaves a device. -/
def place (contact : Contact) (before : Option String) : Option String :=
  match contact.zone? with
  | some zone => some zone
  | none => before

/-- Where contacts leave a device. -/
def placeAfter (start : Option String) (contacts : List Contact) : Option String :=
  contacts.foldl (fun before contact => contact.place before) start

/-- What the contacts tell of the device's zone is where the contacts before have left it. -/
inductive Truthful (start : Option String) : List Contact → Prop
  | nil : Truthful start []
  | snoc {contacts : List Contact} {contact : Contact} (h : Truthful start contacts)
      (hcontact : ∀ zone, contact.reading? = some zone → zone = placeAfter start contacts) :
      Truthful start (contacts ++ [contact])

variable {start : Option String} {contacts : List Contact}

theorem placeAfter_snoc (contacts : List Contact) (contact : Contact) :
    placeAfter start (contacts ++ [contact]) = contact.place (placeAfter start contacts) := by
  simp [placeAfter]

/-- A contact that tells the zone does not move the device. -/
theorem zone?_of_reading? {contact : Contact} {zone : Option String}
    (h : contact.reading? = some zone) : contact.zone? = none := by
  cases contact with
  | setDeviceZone => cases h
  | _ => rfl

/-- The reading right before is where the device is now. -/
theorem Truthful.reading (h : Truthful start contacts) {previous : Option String}
    (hreading : contacts.getLast?.bind reading? = some previous) :
    previous = placeAfter start contacts := by
  cases h with
  | nil => simp at hreading
  | @snoc contacts contact h hcontact =>
      rw [List.getLast?_concat, Option.bind_some] at hreading
      rw [placeAfter_snoc, place, zone?_of_reading? hreading]
      exact hcontact previous hreading

/-- One move continues another if what was read before it is where the other one went. -/
def Continues (move next : Option (Option String) × String) : Prop :=
  ∀ previous, next.1 = some previous → previous = some move.2

/-- **Moves chain**, and the last of them tells where the device is. -/
theorem Truthful.chain (h : Truthful start contacts) :
    (moves contacts).IsChain Continues ∧
      ∀ move, (moves contacts).getLast? = some move →
        placeAfter start contacts = some move.2 := by
  induction h with
  | nil => exact ⟨.nil, by simp [moves, movesAfter]⟩
  | @snoc contacts contact h hcontact ih =>
      obtain ⟨hchain, hlast⟩ := ih
      rw [moves_snoc, placeAfter_snoc, place]
      cases hzone : contact.zone? with
      | none =>
          rw [Option.map_none, Option.toList_none, List.append_nil]
          exact ⟨hchain, hlast⟩
      | some zone =>
          -- What was read before this move is where the device was left, so where the last move
          -- before went.
          refine ⟨?_, by simp⟩
          refine hchain.append (by simp) fun move hmove next hnext previous hprevious => ?_
          have hnext : next = (contacts.getLast?.bind reading?, zone) := by simpa using hnext.symm
          rw [hnext] at hprevious
          rw [h.reading hprevious]
          exact hlast move hmove

end Contact

namespace Session.World

variable {α : Type}

/-- Nobody has moved the device, and nobody has fixed whether it says that it has a zone. -/
def SamePlace (w w' : World) : Prop :=
  w'.device.zone = w.device.zone ∧ w'.rig.bind Rig.initialized = w.rig.bind Rig.initialized

/-- Listeners of an arbiter on the device of a session, which may do anything but move the device,
calls of the arbiter included. An arbiter that is called has listeners in turn, down to such as
leave it alone. -/
def Layers : (ListenerId → Effect (Transcribed World) Unit) → Prop :=
  Layered (fun tell => ∀ id, Effect.MadeOf (Aside SamePlace) (tell id))
    fun inner tell =>
      ∀ id, Effect.MadeOf (CallBack SamePlace (Arbiter.transcribed host inner)) (tell id)

/-- What was written down of a call is what has happened to the device. -/
structure Honest (w w' : World) (contact : Contact) : Prop where
  rig : w'.rig = w.rig
  reading : ∀ zone, contact.reading? = some zone → zone = w.device.zone
  zone : w'.device.zone = contact.place w.device.zone

/-- A contact that tells nothing is honest of a device that is as it was. -/
theorem Honest.silent {w w' : World} (hzone : w'.device.zone = w.device.zone)
    (hrig : w'.rig = w.rig) {contact : Contact} (hreading : contact.reading? = none)
    (hcontact : contact.zone? = none) : Honest w w' contact where
  rig := hrig
  reading zone h := by rw [hreading] at h; cases h
  zone := by rw [hzone, Contact.place, hcontact]

/-- The call is written down honestly, unless it is fixed whether the device has a zone. -/
def Tells (call : World.Call α) (contact : Except Fault α → Contact) : Prop :=
  ∀ w, w.rig.bind Rig.initialized = none → match call w with
    | .ok x w' => Honest w w' (contact (.ok x))
    | .error f w' => Honest w w' (contact (.error f))

/-- What says nothing of the zone and does not touch it is honest. -/
theorem Stays.tells {call : World.Call α} (h : Stays call) {contact : Except Fault α → Contact}
    (hreading : ∀ ended, (contact ended).reading? = none)
    (hcontact : ∀ ended, (contact ended).zone? = none) : Tells call contact := by
  intro w _
  have hcall := h w
  cases hrun : call w <;> rw [hrun] at hcall <;>
    exact .silent hcall.1 hcall.2 (hreading _) (hcontact _)

/-- The device tells that it has no zone when it has none. -/
theorem tells_zoneInitialized : Tells zoneInitialized .zoneInitialized := by
  intro w hunfixed
  cases hfault : w.faultOf .zoneInitialized with
  | some fault =>
      have hanswer : zoneInitialized w = .error fault w := by
        rw [zoneInitialized, guard_bind, hfault]
      rw [hanswer]
      exact .silent rfl rfl rfl rfl
  | none =>
      have hanswer : zoneInitialized w = .ok w.device.zone.isSome w := by
        rw [zoneInitialized, guard_bind, hfault]
        exact congrArg (EStateM.Result.ok · w) (by rw [hunfixed]; rfl)
      rw [hanswer]
      refine ⟨rfl, fun zone hzone => ?_, rfl⟩
      cases hplace : w.device.zone with
      | none => simpa [hplace, Contact.reading?] using hzone.symm
      | some place => simp [hplace, Contact.reading?] at hzone

theorem tells_deviceZone : Tells deviceZone .deviceZone := by
  intro w _
  rw [deviceZone, guard_bind]
  cases w.faultOf .deviceZone with
  | some fault => exact .silent rfl rfl rfl rfl
  | none => exact ⟨rfl, fun zone hzone => (Option.some.inj hzone).symm, rfl⟩

/-- A move that is answered has taken the device to the zone. -/
theorem tells_setZone (zone : String) : Tells (setZone (some zone)) (.setDeviceZone zone) := by
  intro w _
  obtain ⟨trace, hrun⟩ := setZone_eq (some zone) w
  rw [hrun]
  cases w.faultOf .setDeviceZone with
  | some fault => exact .silent (by rfl) (by rfl) rfl rfl
  | none => exact ⟨rfl, nofun, rfl⟩

end Session.World

section InMemory

open Session (Rig)

variable {tell : ListenerId → Effect (Transcribed World) Unit} {start : Option String}
  {s : System (Transcribed World)}

/-- What listeners keep that call an arbiter whose listeners keep it, all layers keep. -/
theorem Session.World.Layers.keeps {I : System (Transcribed World) → Prop} (h : World.Layers tell)
    (haside : ∀ {α : Type} {e : Effect (Transcribed World) α}, Aside World.SamePlace e → e.Keeps I)
    (hback : ∀ {inner}, (∀ id, (inner id).Keeps I) →
      ∀ {α : Type} {e : Effect (Transcribed World) α},
        CallBack World.SamePlace (.transcribed World.host inner) e → e.Keeps I)
    (id : ListenerId) : (tell id).Keeps I := by
  refine h.holds (P := fun tell => ∀ id, (tell id).Keeps I) (fun tell hcalm id => ?_)
    (fun inner tell hcalls hinner id => ?_) id
  · exact (hcalm id).keeps haside
  · exact (hcalls id).keeps (hback hinner)

/-- What has passed so far is true of the device. -/
structure Located (start : Option String) (s : System (Transcribed World)) : Prop where
  unfixed : s.host.world.rig.bind Rig.initialized = none
  truthful : Contact.Truthful start s.host.contacts
  place : Contact.placeAfter start s.host.contacts = s.host.world.device.zone

theorem Located.jot {w : World} {contact : Contact} (h : Located start s)
    (hcontact : World.Honest s.host.world w contact) :
    Located start ((s.onWorld w).jot contact) where
  unfixed := by
    show w.rig.bind Rig.initialized = none
    rw [hcontact.rig, h.unfixed]
  truthful := h.truthful.snoc fun zone hzone => (hcontact.reading zone hzone).trans h.place.symm
  place := by
    show Contact.placeAfter start (s.host.contacts ++ [contact]) = w.device.zone
    rw [Contact.placeAfter_snoc, h.place, hcontact.zone]

theorem Located.call {α : Type} {call : World.Call α} {contact : Except Fault α → Contact}
    (h : World.Tells call contact) :
    (Transcribed.call call contact).Keeps (Located start) := by
  intro s hs
  have hcall := h s.host.world hs.unfixed
  unfold Effect.Ends
  rw [Effect.call_eq]
  cases hrun : call s.host.world <;> rw [hrun] at hcall <;> exact hs.jot hcall

theorem Located.log (n : Notice) (h : Located start s) :
    Located start (s.onWorld (s.host.world.log n)) := by
  obtain ⟨trace, hlog⟩ := s.host.world.log_eq n
  rw [hlog]
  exact ⟨h.unfixed, h.truthful, h.place⟩

/-- A call of a listener or of the arbiter is true of any device. -/
theorem Located.silent {contact : Contact} (h : Located start s)
    (hreading : contact.reading? = none) (hcontact : contact.zone? = none) :
    Located start (s.jot contact) :=
  h.jot (.silent rfl rfl hreading hcontact)

/-- Whatever an arbiter does with such a device, the transcript stays true of it. -/
theorem Located.upkeep (htell : ∀ id, (tell id).Keeps (Located start)) :
    Upkeep (.transcribed World.host tell) (Located start) where
  memory hs _ _ := ⟨hs.unfixed, hs.truthful, hs.place⟩
  currentUser := Located.call (World.stays_currentUser.tells (fun _ => rfl) fun _ => rfl)
  configurationOf user :=
    Located.call ((World.stays_configurationOf user).tells (fun _ => rfl) fun _ => rfl)
  zoneInitialized := Located.call World.tells_zoneInitialized
  deviceZone := Located.call World.tells_deviceZone
  storeConfiguration user change :=
    Located.call ((World.stays_storeConfiguration user change).tells (fun _ => rfl) fun _ => rfl)
  finishStore := Located.call ((World.stays_guard _).tells (fun _ => rfl) fun _ => rfl)
  log n hs := hs.log n
  callListener id := by
    have hjot : (Effect.jot (.listener id)).Keeps (Located start) := fun _ hs => hs.silent rfl rfl
    exact hjot.bind fun _ => htell id
  moveTo zone cause := by
    have hclock : (Transcribed.call World.readClock .readClock).Keeps (Located start) :=
      Located.call (World.stays_readClock.tells (fun _ => rfl) fun _ => rfl)
    exact .moveTo (Located.call World.tells_zoneInitialized) (Located.call World.tells_deviceZone)
      (fun zone => Located.call (World.tells_setZone zone)) hclock (fun n hs => hs.log n)
      (fun _ hs => ⟨hs.unfixed, hs.truthful, hs.place⟩) zone cause

theorem Located.ask {a : Arbiter (Transcribed World)} (u : Upkeep a (Located start))
    (r : Request) : (a.ask r).Keeps (Located start) := by
  have hjot : (Effect.jot (.asked r)).Keeps (Located start) := fun _ hs => hs.silent rfl rfl
  refine hjot.bind fun _ => u.serve r fun suggestion _ s hs => ?_
  exact u.suggestTelephony (J := Located start) u.log suggestion
    (fun h => ⟨h.unfixed, h.truthful, h.place⟩) hs

/-- What the world does on its own leaves the device where it is said to be. -/
theorem Located.aside {α : Type} {e : Effect (Transcribed World) α}
    (h : Aside World.SamePlace e) : e.Keeps (Located start) := by
  refine h.keeps fun {s world} ⟨hzone, hinitialized⟩ hs => ?_
  exact ⟨hinitialized.trans hs.unfixed, hs.truthful, hs.place.trans hzone.symm⟩

theorem Located.callBack {a : Arbiter (Transcribed World)} (u : Upkeep a (Located start))
    {α : Type} {e : Effect (Transcribed World) α} (h : CallBack World.SamePlace a e) :
    e.Keeps (Located start) :=
  h.keeps Located.aside u.receiveReport (Located.ask u)

/-- Whatever listeners do, they find the device where it is said to be. -/
theorem Located.layered (h : World.Layers tell) (id : ListenerId) :
    (tell id).Keeps (Located start) := by
  refine h.keeps Located.aside (fun {inner} hinner {_ _} hcall => ?_) id
  exact Located.callBack (Located.upkeep hinner) hcall

/-- Listeners that keep the log the tail of the moves are all that it takes on such a device. -/
theorem LogTail.inMemory {n : Nat} (htell : ∀ id, (tell id).Keeps (LogTail n)) :
    Upkeep (.transcribed World.host tell) (LogTail n) := by
  have hcalls : (Arbiter.on World.host.aside tell).Calls (Effect.Keeps (LogTail n)) :=
    Arbiter.calls_aside _ (fun call => LogTail.settled.aside (Aside.of_call call)) htell
  have hmoves : (Arbiter.on World.host.aside tell).Moves
      (Effect.MadeOf (Aside fun _ _ => True)) :=
    Arbiter.moves_aside _ fun call => .basic (.of_call call)
  exact LogTail.upkeep hcalls id hmoves

theorem LogTail.layeredInMemory {n : Nat} (h : World.Layers tell) (id : ListenerId) :
    (tell id).Keeps (LogTail n) := by
  refine h.keeps LogTail.settled.aside (fun {inner} hinner {_ _} hcall => ?_) id
  have u : Upkeep (.transcribed World.host inner) (LogTail n) := LogTail.inMemory hinner
  exact LogTail.settled.callBack u (LogTail.ask u) hcall

/-- In every run the transcript is true of a device that only the arbiter moves. -/
theorem Located.reached {w : World} {changes : ChangeLog}
    (hunfixed : w.rig.bind Rig.initialized = none) (hlayers : World.Layers tell)
    (h : Effect.Reaches (CallBack World.SamePlace (.transcribed World.host tell))
      (Begins changes w) s) : Located w.device.zone s := by
  have u : Upkeep (.transcribed World.host tell) (Located w.device.zone) :=
    Located.upkeep (Located.layered hlayers)
  refine h.holds ?_ (Located.callBack u)
  rintro s ⟨user, rfl⟩
  exact ⟨hunfixed, .nil, rfl⟩

end InMemory

/-! ### The tail -/

/-- **The change log is the tail of the moves.** Whatever the surroundings do, calls of the arbiter
included, though not while they move the device, and wherever they fail: the log holds the last of
the moves that the arbiter made, as many as there is room for, each with the zone that was read
right before, and none goes where the device was. On a device in memory that only the arbiter moves
the entries chain, and the last one tells where the device is. -/
theorem changes_are_last_moves {size : Int} {changes : ChangeLog}
    (hsize : ChangeLog.ofSize size = .ok changes) :
    (∀ {ω : Type} {free : ω → ω → Prop} {a : Arbiter (Transcribed ω)} {w : ω}
      {s : System (Transcribed ω)},
      Layered (Arbiter.Innermost free) (Arbiter.StillAround free) a →
      Effect.Reaches (CallBack free a.noted) (Begins changes w) s →
      s.host.Dated →
      s.memory.changes.entries.map (fun e => (some e.previous, e.zone)) =
          lastItems size.toNat (Contact.moves s.host.contacts) ∧
        ∀ e ∈ s.memory.changes.entries, e.previous ≠ some e.zone) ∧
    ∀ {w : World} {tell : ListenerId → Effect (Transcribed World) Unit}
      {s : System (Transcribed World)},
      w.rig.bind Session.Rig.initialized = none →
      World.Layers tell →
      Effect.Reaches (CallBack World.SamePlace (.transcribed World.host tell))
        (Begins changes w) s →
      s.host.Dated →
      s.memory.changes.entries.IsChain (fun e next => next.previous = some e.zone) ∧
        ∀ e, s.memory.changes.entries.getLast? = some e →
          s.host.world.device.zone = some e.zone := by
  refine ⟨fun hlayered h hdated => ?_, fun {w tell s} hunfixed hlayers h hdated => ?_⟩
  · have hholds := LogTail.reached hsize (LogTail.layered hlayered) h hdated
    exact ⟨hholds.entries, hholds.elsewhere⟩
  · have u : Upkeep (.transcribed World.host tell) (LogTail size.toNat) :=
      LogTail.inMemory (LogTail.layeredInMemory hlayers)
    have hholds := LogTail.reached hsize u h hdated
    have hlocated := Located.reached hunfixed hlayers h
    obtain ⟨hchain, hlast⟩ := hlocated.truthful.chain
    refine ⟨?_, fun e he => ?_⟩
    · have hentries := hchain.drop ((Contact.moves s.host.contacts).length - size.toNat)
      rw [← lastItems, ← hholds.entries, List.isChain_map] at hentries
      exact hentries.imp fun e next hnext => hnext next.previous rfl
    · have hentry : (lastItems size.toNat (Contact.moves s.host.contacts)).getLast? =
          some (some e.previous, e.zone) := by
        rw [← hholds.entries, List.getLast?_map, he]
        rfl
      rw [← hlocated.place]
      exact hlast _ (getLast?_of_lastItems hentry)

namespace Session

/-- What telephony suggests when it is sure of a zone. -/
def sure (zone : String) : Request :=
  .telephony ⟨0, some zone, some .networkCountryOnly, some .singleZone, []⟩

/-- An arbiter on a device that suggests Paris whenever it is asked whether it has a zone, and
does not care what comes of it. -/
def prompted : Arbiter (Transcribed World) :=
  { unanswered with host := { unanswered.host with zoneInitialized := do
      let _ ← Effect.attempt (unanswered.noted.ask (sure "Europe/Paris"))
      unanswered.host.zoneInitialized } }

/-- Such a device calls back, but not in a move. -/
theorem layered_prompted : Layered (Arbiter.Innermost fun _ _ => True)
    (Arbiter.StillAround fun _ _ => True) prompted := by
  have hinner : Arbiter.Innermost (fun _ _ => True) unanswered := Arbiter.innermost_aside _ _
  have hcalls : unanswered.Calls (Effect.MadeOf (CallBack (fun _ _ => True) unanswered.noted)) :=
    Arbiter.calls_aside _ (fun call => .basic (.aside (.of_call call))) fun _ => .fail _
  have hprompt : Effect.MadeOf (CallBack (fun _ _ => True) unanswered.noted)
      prompted.host.zoneInitialized :=
    .bind (.attempt (.basic (.ask _))) fun _ => hcalls.zoneInitialized
  exact .around (.innermost hinner)
    ⟨{ hcalls with zoneInitialized := hprompt }, { hinner.moves with }⟩

/-- From now on the device cannot be moved. -/
def jam : Effect (Transcribed World) Unit :=
  Effect.onHost <| Transcribed.aside fun w => .ok () { w with
    rig := w.rig.map ({ · with faults := [(.setDeviceZone, .reported "stuck")] }) }

theorem aside_jam : Aside World.SamePlace jam :=
  .act fun w => ⟨rfl, by cases w.rig <;> rfl⟩

end Session

open Session (jam prompted sure unanswered) in
/-- A log with room for one entry. A device that has Paris suggested before it says whether it has a
zone is moved to Paris first, and to Oslo from there. One that leaves the arbiter alone is moved
twice, and then stuck: the log holds the second move, and the device is where that one went. -/
theorem changes_are_last_moves_failing :
    let w : World := { (Session.Setup.plain ⟨1, true, true, true, true, false⟩ none).world with
      rig := some {} }
    let start : System (Transcribed World) := ⟨.fresh ⟨1, [], Nat.zero_le _⟩ 1, ⟨w, []⟩⟩
    let asked := (prompted.noted.ask (sure "Europe/Oslo")).final start
    let moved := (unanswered.noted.ask (sure "Europe/Oslo")).final
      ((unanswered.noted.ask (sure "Europe/Paris")).final start)
    let stuck := jam.final moved
    let s := (unanswered.noted.ask (sure "Europe/Rome")).final stuck
    asked.memory.changes.entries.map (fun e => (some e.previous, e.zone)) =
        [(some (some "Europe/Paris"), "Europe/Oslo")] ∧
      (unanswered.noted.ask (sure "Europe/Rome")).fault? stuck = some (.reported "stuck") ∧
      s.memory.changes.entries.map (fun e => (some e.previous, e.zone)) =
        [(some (some "Europe/Paris"), "Europe/Oslo")] ∧
      s.host.world.device.zone = some "Europe/Oslo" := by
  intro w start asked moved stuck s
  have hsize : ChangeLog.ofSize 1 = .ok ⟨1, [], Nat.zero_le _⟩ := rfl
  obtain ⟨hany, hmemory⟩ := changes_are_last_moves hsize
  have hstart : Begins ⟨1, [], Nat.zero_le _⟩ w start := ⟨1, rfl⟩
  have hasked : Effect.Reaches (CallBack (fun _ _ => True) prompted.noted)
      (Begins ⟨1, [], Nat.zero_le _⟩ w) asked := .step (.start hstart) (.ask _)
  have hmoved : Effect.Reaches
      (CallBack World.SamePlace (.transcribed World.host unanswered.callListener))
      (Begins ⟨1, [], Nat.zero_le _⟩ w) moved := .step (.step (.start hstart) (.ask _)) (.ask _)
  have hreached : Effect.Reaches
      (CallBack World.SamePlace (.transcribed World.host unanswered.callListener))
      (Begins ⟨1, [], Nat.zero_le _⟩ w) s :=
    .step (.step hmoved (.aside Session.aside_jam)) (.ask _)
  have hlayers : World.Layers unanswered.callListener := .innermost fun _ => .fail _
  have hentries := (hany Session.layered_prompted hasked (by decide +kernel)).1
  have hmoves : lastItems 1 (Contact.moves asked.host.contacts) =
      [(some (some "Europe/Paris"), "Europe/Oslo")] := by decide +kernel
  obtain ⟨-, hplace⟩ := hmemory rfl hlayers hreached (by decide +kernel)
  refine ⟨hentries.trans hmoves, by decide +kernel, by decide +kernel, ?_⟩
  obtain ⟨e, hlast⟩ : ∃ e, s.memory.changes.entries.getLast? = some e := by
    refine Option.isSome_iff_exists.mp ?_
    decide +kernel
  rw [hplace e hlast]
  have hzone : s.memory.changes.entries.getLast?.map ZoneChange.zone = some "Europe/Oslo" := by
    decide +kernel
  rwa [hlast] at hzone

end ZoneArbiter
