import ZoneArbiter.Proofs.Withdrawal

/-!
# ZoneArbiter.Proofs.Redelivery

**Delivering a report again does not make up for a handling that failed, unless it failed at its
very start** (`redelivered`).

A handling first reads who is current and that user's record (`Arbiter.reading`). A fault there
leaves the arbiter as it was, and the next delivery does the whole work. What was read is taken up
at once, before the suggestion of location is forgotten, listeners are called and the zone is
detected; and a report that finds what was taken up counts as handled. So the records end as they
would have without the fault, but work that was cut short is not resumed by a later delivery:
wherever the first one stopped, the next one finds nothing new (`zone_lost_with_fault`).

Every call may fail here, at any time, and every listener. A system is seen by its `Outlook`, which
is all that a handling goes by. What a handling leads to is a function of it (`Outlook.report`), and
there are three places at which it may stop once the reads have answered (`Outlook.Halt`).
-/

namespace ZoneArbiter

open Arbiter (Host ListenerId)
open Session (World)
open Telephony (Table)

/-! ### Hosts that may fail at any time -/

/-- What a device holds: who is current, the record of every user, and the zone. -/
structure Holding extends Ledger where
  zone : Option String

/-- However the call ends, the device holds what it held, and the answer fits it. -/
def Reads {ω α : Type} (sound : ω → Prop) (holding : ω → Holding) (fits : Holding → α → Prop)
    (call : EStateM Fault ω α) : Prop :=
  ∀ w, sound w → match call w with
    | .ok x w' => (sound w' ∧ holding w' = holding w) ∧ fits (holding w) x
    | .error _ w' => sound w' ∧ holding w' = holding w

/-- The call moves the device to a zone. One that fails may have done so or not. -/
def Moves {ω : Type} (sound : ω → Prop) (holding : ω → Holding) (zone : String)
    (call : EStateM Fault ω Unit) : Prop :=
  ∀ w, sound w → match call w with
    | .ok _ w' => sound w' ∧ holding w' = { holding w with zone }
    | .error _ w' =>
        sound w' ∧ (holding w' = holding w ∨ holding w' = { holding w with zone })

/-- A host that keeps a device in memory, and any call of which may fail at any time. -/
structure Fallible {ω : Type} (host : Host ω) where
  sound : ω → Prop
  holding : ω → Holding
  /-- The record of the current user names that user. -/
  own : ∀ {w : ω}, sound w → (holding w).inEffect.user = (holding w).currentUser
  currentUser : Reads sound holding (fun h user => user = h.currentUser) host.currentUser
  configurationOf : ∀ user,
    Reads sound holding (fun h c => c = h.recordOf user) (host.configurationOf user)
  zoneInitialized : Reads sound holding (fun h b => b = h.zone.isSome) host.zoneInitialized
  deviceZone : Reads sound holding (fun h zone => zone = h.zone) host.deviceZone
  setDeviceZone : ∀ zone, Moves sound holding zone (host.setDeviceZone zone)
  readClock : Reads sound holding (fun _ _ => True) host.readClock
  log : ∀ {w : ω} (n : Notice), sound w →
    sound (host.log n w) ∧ holding (host.log n w) = holding w

/-- The call may have failed in this way, and left the host as it is. -/
def Raises {ω α : Type} (call : EStateM Fault ω α) (f : Fault) (w : ω) : Prop :=
  ∃ before, call before = .error f w

/-- A move may have failed in this way: setting the zone, or reading the clock for the entry in the
change log. -/
def RaisesInMove {ω : Type} (host : Host ω) (f : Fault) (w : ω) : Prop :=
  (∃ zone, Raises (host.setDeviceZone zone) f w) ∨ Raises host.readClock f w

/-! ### What a handling goes by -/

/-- What the handling of a report goes by, and all that it may change but for the change log. -/
@[ext] structure Outlook where
  /-- The user in the foreground, and the record that the device has of that user. -/
  currentUser : Int
  record : Configuration
  /-- The zone of the device. -/
  zone : Option String
  /-- The user that the arbiter tracks, and the record that it has of the current user. -/
  trackedUser : Int
  known : Option Configuration
  /-- What was suggested. -/
  telephony : Table
  geolocation : Option GeoSuggestion

namespace Outlook

variable (o : Outlook)

/-- Is there more to be done than to take up what was read? The first record of a user who was
current all along is only kept. -/
def IsNews : Prop :=
  o.currentUser ≠ o.trackedUser ∨ o.known ≠ none ∧ o.known ≠ some o.record

instance : Decidable o.IsNews := inferInstanceAs (Decidable (_ ∨ _))

/-- The current user is tracked and the record is known. -/
def taken : Outlook := { o with trackedUser := o.currentUser, known := some o.record }

/-- The suggestion of location is forgotten unless the record asks for one. -/
def heeded : Outlook :=
  { o.taken with geolocation := if o.record.geoBehavior then o.geolocation else none }

/-- Where detection leaves the device. -/
def destination : Option String :=
  match o.record.mode with
  | .off => o.zone
  | .autoTelephony => o.telephony.destination o.zone
  | .autoGeo => (o.geolocation.bind fun g => Geolocation.selectZone g.zones o.zone).or o.zone

/-- The device is where detection leaves it. -/
def settled : Outlook := { o with zone := o.destination }

/-- The report was handled. -/
def report : Outlook := if o.IsNews then o.heeded.settled else o.taken

/-- Where a handling may stop, with this fault and the host like this, once the reads have answered:
where it asks again who is current; at a listener, or on the way to a move; and in a move. -/
inductive Halt {ω : Type} (host : Host ω) (f : Fault) (w : ω) : Outlook → Prop
  | asking (h : Raises host.currentUser f w) : Halt host f w o.taken
  | telling : Halt host f w o.heeded
  | moving (h : RaisesInMove host f w) : Halt host f w o.heeded.settled

variable {o} {o' : Outlook} {ω : Type} {host : Host ω} {f : Fault} {w : ω}

/-- What was read is taken up, wherever the handling stops. -/
theorem Halt.upToDate (h : o.Halt host f w o') :
    (o'.currentUser = o.currentUser ∧ o'.record = o.record) ∧
      o'.trackedUser = o.currentUser ∧ o'.known = some o.record := by
  cases h <;> exact ⟨⟨rfl, rfl⟩, rfl, rfl⟩

/-- The suggestion is forgotten unless the fault comes from asking who is current, and the device is
moved only if the fault comes from the move. -/
theorem Halt.leaves (h : o.Halt host f w o') :
    (o'.geolocation = o.heeded.settled.geolocation ∨
        o'.geolocation = o.geolocation ∧ Raises host.currentUser f w) ∧
      (o'.zone = o.zone ∨ o'.zone = o.heeded.settled.zone ∧ RaisesInMove host f w) := by
  cases h with
  | asking hraises => exact ⟨.inr ⟨rfl, hraises⟩, .inl rfl⟩
  | telling => exact ⟨.inl rfl, .inl rfl⟩
  | moving hraises => exact ⟨.inl rfl, .inr ⟨rfl, hraises⟩⟩

/-- What was taken up is no news. -/
theorem report_of_upToDate (htracked : o.trackedUser = o.currentUser)
    (hknown : o.known = some o.record) : o.report = o := by
  have hold : ¬ o.IsNews := by
    rintro (hswitched | ⟨-, hchanged⟩)
    · exact hswitched htracked.symm
    · exact hchanged hknown
  rw [report, if_neg hold]
  exact Outlook.ext rfl rfl rfl htracked.symm hknown.symm rfl rfl

/-- A report after a halt finds no news, and changes nothing. -/
theorem Halt.report (h : o.Halt host f w o') : o'.report = o' := by
  obtain ⟨⟨huser, hrecord⟩, htracked, hknown⟩ := h.upToDate
  exact report_of_upToDate (htracked.trans huser.symm) (hknown.trans (congrArg some hrecord.symm))

end Outlook

/-! ### Handling a report -/

namespace Arbiter

variable {ω : Type} (a : Arbiter ω)

/-- The reads that a handling begins with. -/
def reading : Effect ω (Int × Configuration) := do
  let user ← a.currentUser
  let c ← a.host.configurationOf user
  return (user, c)

/-- What a handling does with what it has read. -/
def takeUp (user : Int) (c : Configuration) : Effect ω Unit := do
  let m ← Effect.memory
  let previous := m.records.peek user
  let switched : Bool := user ≠ m.trackedUser
  Effect.remember fun m => { m with trackedUser := user }
  if previous = some c ∧ switched = false then return ()
  else
    Effect.remember fun m => { m with records := m.records.replace c }
    if previous = none ∧ switched = false then a.note (.recordLoaded user)
    else
      a.note (.changedElsewhere user switched)
      a.configurationChanged previous c .externalChange

/-- A report is handled in two parts: what is read, and what is made of it. -/
theorem receiveReport_eq : a.receiveReport = a.reading >>= fun (user, c) => a.takeUp user c := by
  unfold receiveReport reading takeUp
  simp only [bind_assoc, pure_bind]

end Arbiter

section Handling

variable {ω α : Type} {host : Host ω} {tell : ListenerId → Effect ω Unit} {k : Fallible host}
  {o : Outlook} {s s' : System ω}

/-- A system as the handling of a report sees it. -/
def Fallible.outlook (k : Fallible host) (s : System ω) : Outlook where
  currentUser := (k.holding s.host).currentUser
  record := (k.holding s.host).inEffect
  zone := (k.holding s.host).zone
  trackedUser := s.memory.trackedUser
  known := s.memory.records.peek (k.holding s.host).currentUser
  telephony := s.memory.telephony
  geolocation := s.memory.geolocation

/-- The system is sound, and this is what a handling sees of it. -/
structure Fallible.Shows (k : Fallible host) (s : System ω) (o : Outlook) : Prop where
  sound : k.sound s.host
  outlook : k.outlook s = o

/-- A fault stopped the device on its way from one outlook to the other. If it is there already, the
fault may come from a move. -/
def Fallible.StopsBetween (k : Fallible host) (o o' : Outlook) (f : Fault) (s : System ω) :
    Prop :=
  k.Shows s o ∨ k.Shows s o' ∧ RaisesInMove host f s.host

/-- The effect only watches: however it ends, a handling sees what it saw before. -/
def Fallible.Watches (k : Fallible host) (e : Effect ω α) : Prop :=
  ∀ o, e.Keeps (k.Shows · o)

namespace Fallible

theorem Shows.on (h : k.Shows s o) {w : ω}
    (hw : k.sound w ∧ k.holding w = k.holding s.host) : k.Shows { s with host := w } o := by
  refine ⟨hw.1, ?_⟩
  rw [← h.outlook]
  unfold Fallible.outlook
  rw [hw.2]

/-- A call that only reads shows the same outlook, even where it raises. -/
theorem reads_ends {call : EStateM Fault ω α} {fits : Holding → α → Prop}
    (hcall : Reads k.sound k.holding fits call) (h : k.Shows s o) :
    (Effect.onHost call).Ends s (fun x s' => k.Shows s' o ∧ fits (k.holding s.host) x)
      fun f s' => k.Shows s' o ∧ Raises call f s'.host := by
  have hend := hcall s.host h.sound
  unfold Effect.Ends Effect.onHost
  cases hrun : call s.host with
  | ok x w =>
      rw [hrun] at hend
      exact ⟨h.on hend.1, hend.2⟩
  | error f w =>
      rw [hrun] at hend
      exact ⟨h.on hend, s.host, hrun⟩

/-- Logging never fails. -/
theorem note_ends {E : Fault → System ω → Prop} (n : Notice) (h : k.Shows s o) :
    ((Arbiter.on host tell).note n).Ends s (fun _ s' => k.Shows s' o) E :=
  .of_ok rfl (h.on (k.log n h.sound))

/-- A line under a condition, and what follows it either way. -/
theorem noteIf_ends {E : Fault → System ω → Prop} {Q : α → System ω → Prop} {p : Prop} [Decidable p]
    {n : Notice} {rest : Unit → Effect ω α} (h : k.Shows s o)
    (hrest : ∀ s', k.Shows s' o → (rest ()).Ends s' Q E) :
    (if p then (Arbiter.on host tell).note n >>= rest else rest ()).Ends s Q E := by
  split
  · exact (note_ends n h).bind fun _ => hrest
  · exact hrest s h

theorem currentUser_ends (h : k.Shows s o) :
    (Arbiter.on host tell).currentUser.Ends s (fun user s' => k.Shows s' o ∧ user = o.currentUser)
      fun f s' => k.Shows s' o ∧ Raises host.currentUser f s'.host := by
  rw [← h.outlook]
  exact reads_ends k.currentUser ⟨h.sound, rfl⟩

theorem zoneInitialized_ends (h : k.Shows s o) :
    (Effect.onHost host.zoneInitialized).Ends s
      (fun b s' => k.Shows s' o ∧ b = o.zone.isSome) fun _ s' => k.Shows s' o := by
  rw [← h.outlook]
  exact (reads_ends k.zoneInitialized ⟨h.sound, rfl⟩).mono_error fun _ _ h => h.1

theorem currentZone_ends (h : k.Shows s o) :
    (Arbiter.on host tell).currentZone.Ends s (fun zone s' => k.Shows s' o ∧ zone = o.zone)
      fun _ s' => k.Shows s' o := by
  refine (zoneInitialized_ends h).bind ?_
  rintro _ s₁ ⟨h₁, rfl⟩
  cases hzone : o.zone with
  | none => exact Effect.Ends.pure ⟨h₁, rfl⟩
  | some zone =>
      refine (reads_ends k.deviceZone h₁).mono (fun read _ hread => ⟨hread.1, ?_⟩)
        fun _ _ hread => hread.1
      rw [hread.2, ← hzone, ← h₁.outlook]
      rfl

/-! ### Moves -/

/-- A move gets the device there. One that raises may have done so or not. -/
theorem setDeviceZone_ends (zone : String) (h : k.Shows s o) :
    (Effect.onHost (host.setDeviceZone zone)).Ends s
      (fun _ s' => k.Shows s' { o with zone := some zone })
      (k.StopsBetween o { o with zone := some zone }) := by
  have hmoved {w : ω} (hw : k.sound w ∧ k.holding w = { k.holding s.host with zone }) :
      k.Shows { s with host := w } { o with zone := some zone } := by
    refine ⟨hw.1, ?_⟩
    rw [← h.outlook]
    unfold Fallible.outlook
    rw [hw.2]
  have hend := k.setDeviceZone zone s.host h.sound
  unfold Effect.Ends Effect.onHost
  cases hrun : host.setDeviceZone zone s.host with
  | ok x w =>
      rw [hrun] at hend
      exact hmoved hend
  | error f w =>
      rw [hrun] at hend
      obtain ⟨hsound, hstays | hmoves⟩ := hend
      · exact .inl (h.on ⟨hsound, hstays⟩)
      · exact .inr ⟨hmoved ⟨hsound, hmoves⟩, .inl ⟨zone, s.host, hrun⟩⟩

theorem moveTo_ends (zone : String) (cause : Cause) (h : k.Shows s o) :
    ((Arbiter.on host tell).moveTo zone cause).Ends s
      (fun _ s' => k.Shows s' { o with zone := some zone })
      (k.StopsBetween o { o with zone := some zone }) := by
  unfold Arbiter.moveTo
  refine ((currentZone_ends h).mono_error fun _ _ h => .inl h).bind ?_
  rintro _ s₁ ⟨h₁, rfl⟩
  split
  · rename_i hthere
    rw [← hthere]
    exact note_ends _ h₁
  · refine (setDeviceZone_ends zone h₁).bind fun _ s₂ h₂ => ?_
    refine ((reads_ends k.readClock h₂).mono_error fun _ _ h => .inr ⟨h.1, .inr h.2⟩).bind
      fun changedAt s₃ h₃ => .remember ?_
    exact note_ends _ ⟨h₃.1.sound, h₃.1.outlook⟩

/-! ### Detection -/

/-- A device that is at its destination has settled already. -/
theorem Shows.settled (h : k.Shows s o) (hstays : o.destination = o.zone) :
    k.Shows s o.settled := by
  rw [Outlook.settled, hstays]
  exact h

/-- A move to the destination settles the device. Where it stops, the device is on its way or, if
the move itself raised, may be there. -/
theorem settle_ends {zone : String} (cause : Cause) (h : k.Shows s o)
    (hmoves : o.destination = some zone) :
    ((Arbiter.on host tell).moveTo zone cause).Ends s (fun _ s' => k.Shows s' o.settled)
      (k.StopsBetween o o.settled) := by
  rw [Outlook.settled, hmoves]
  exact moveTo_ends zone cause h

theorem detectByTelephony_ends (hmode : o.record.mode = .autoTelephony) (reason : Reason)
    (h : k.Shows s o) :
    ((Arbiter.on host tell).detectByTelephony reason).Ends s (fun _ s' => k.Shows s' o.settled)
      (k.StopsBetween o o.settled) := by
  have htable : s.memory.telephony = o.telephony := by
    rw [← h.outlook]
    rfl
  have hdestination : o.destination = o.telephony.destination o.zone := by
    rw [Outlook.destination, hmode]
  unfold Table.destination at hdestination
  unfold Arbiter.detectByTelephony
  refine Effect.Ends.memory ?_
  rw [htable]
  cases hbest : o.telephony.best? with
  | none => exact note_ends _ (h.settled (by rw [hdestination, hbest]))
  | some best =>
      simp only [hbest] at hdestination
      cases hzone : best.suggestion.zone with
      | none =>
          simp only [hzone] at hdestination ⊢
          exact note_ends _ (h.settled hdestination)
      | some zone =>
          simp only [hzone] at hdestination ⊢
          refine ((zoneInitialized_ends h).mono_error fun _ _ h => .inl h).bind ?_
          rintro _ s₁ ⟨h₁, rfl⟩
          split
          · rename_i hbelow
            exact note_ends _ (h₁.settled (hdestination.trans (if_pos hbelow)))
          · rename_i habove
            exact settle_ends _ h₁ (hdestination.trans (if_neg habove))

theorem detectByLocation_ends (hmode : o.record.mode = .autoGeo) (reason : Reason)
    (h : k.Shows s o) :
    ((Arbiter.on host tell).detectByLocation reason).Ends s (fun _ s' => k.Shows s' o.settled)
      (k.StopsBetween o o.settled) := by
  have hheld : s.memory.geolocation = o.geolocation := by
    rw [← h.outlook]
    rfl
  have hdestination : o.destination =
      (o.geolocation.bind fun g => Geolocation.selectZone g.zones o.zone).or o.zone := by
    rw [Outlook.destination, hmode]
  unfold Arbiter.detectByLocation
  refine Effect.Ends.memory ?_
  rw [hheld]
  cases hgeo : o.geolocation with
  | none => exact note_ends _ (h.settled (by rw [hdestination, hgeo]; rfl))
  | some g =>
      rw [hgeo, Option.bind_some] at hdestination
      refine ((currentZone_ends h).mono_error fun _ _ h => .inl h).bind ?_
      rintro _ s₁ ⟨h₁, rfl⟩
      cases hselect : Geolocation.selectZone g.zones o.zone with
      | none => exact note_ends _ (h₁.settled (by rw [hdestination, hselect]; rfl))
      | some zone => exact settle_ends _ h₁ (by rw [hdestination, hselect]; rfl)

/-- Detection under the record in effect settles the device. -/
theorem detect_ends (reason : Reason) (h : k.Shows s o) :
    ((Arbiter.on host tell).detect o.record reason).Ends s (fun _ s' => k.Shows s' o.settled)
      (k.StopsBetween o o.settled) := by
  unfold Arbiter.detect
  cases hmode : o.record.mode with
  | off => exact Effect.Ends.pure (h.settled (by rw [Outlook.destination, hmode]))
  | autoTelephony => exact detectByTelephony_ends hmode reason h
  | autoGeo => exact detectByLocation_ends hmode reason h

/-! ### Reports -/

theorem forgetLocation_ends {E : Fault → System ω → Prop} (h : k.Shows s o) :
    (Arbiter.on host tell).forgetLocation.Ends s
      (fun _ s' => k.Shows s' { o with geolocation := none }) E := by
  refine Effect.Ends.memory (noteIf_ends h fun s₁ h₁ => ?_)
  refine Effect.Ends.of_ok rfl ⟨h₁.sound, ?_⟩
  rw [← h₁.outlook]
  rfl

/-- Listeners that watch change nothing that detection looks at, raise as they may. -/
theorem callListeners_ends (hwatch : ∀ id, k.Watches (tell id)) (h : k.Shows s o) :
    (Arbiter.on host tell).callListeners.Ends s (fun _ s' => k.Shows s' o)
      fun _ s' => k.Shows s' o :=
  Effect.Ends.memory (Effect.Keeps.forM (fun id => hwatch id o) s h)

/-- A change that is heeded settles the device, or stops at one of the halts. -/
theorem configurationChanged_ends (hwatch : ∀ id, k.Watches (tell id))
    (previous : Option Configuration) (reason : Reason) (howner : o.record.user = o.currentUser)
    (h : k.Shows s o.taken) :
    ((Arbiter.on host tell).configurationChanged previous o.record reason).Ends s
      (fun _ s' => k.Shows s' o.heeded.settled)
      fun f s' => ∃ o', o.Halt host f s'.host o' ∧ k.Shows s' o' := by
  unfold Arbiter.configurationChanged
  refine noteIf_ends h fun s₁ h₁ => ?_
  refine ((currentUser_ends h₁).mono_error fun _ _ h => ⟨_, .asking h.2, h.1⟩).bind ?_
  rintro _ s₂ ⟨h₂, rfl⟩
  have hrest {s' : System ω} (h' : k.Shows s' o.heeded) :
      ((Arbiter.on host tell).callListeners >>= fun _ =>
        (Arbiter.on host tell).detect o.record reason).Ends s'
        (fun _ s' => k.Shows s' o.heeded.settled)
        fun f s' => ∃ o', o.Halt host f s'.host o' ∧ k.Shows s' o' := by
    refine ((callListeners_ends hwatch h').mono_error fun _ _ h => ⟨_, .telling, h⟩).bind
      fun _ s₃ h₃ => ?_
    refine (detect_ends reason h₃).mono_error ?_
    rintro f s' (hbefore | ⟨hafter, hraises⟩)
    · exact ⟨_, .telling, hbefore⟩
    · exact ⟨_, .moving hraises, hafter⟩
  simp only [show o.record.user = o.taken.currentUser from howner, true_and, if_true]
  cases hgeo : o.record.geoBehavior with
  | false =>
      have hheeded : { o.taken with geolocation := none } = o.heeded := by
        rw [Outlook.heeded, hgeo]
        rfl
      exact (forgetLocation_ends h₂).bind fun _ s₃ h₃ => hrest (hheeded ▸ h₃)
  | true =>
      have hheeded : o.taken = o.heeded := by
        rw [Outlook.heeded, hgeo]
        rfl
      exact hrest (hheeded ▸ h₂)

/-- The reads leave everything as it was, whether they answer or fail. -/
theorem reading_ends (h : k.Shows s o) :
    (Arbiter.on host tell).reading.Ends s
      (fun read s' => k.Shows s' o ∧ read = (o.currentUser, o.record))
      fun _ s' => k.Shows s' o := by
  refine ((currentUser_ends h).mono_error fun _ _ h => h.1).bind ?_
  rintro _ s₁ ⟨h₁, rfl⟩
  refine ((reads_ends (k.configurationOf _) h₁).mono_error fun _ _ h => h.1).bind ?_
  rintro _ s₂ ⟨h₂, rfl⟩
  refine Effect.Ends.pure ⟨h₂, ?_⟩
  rw [← h₁.outlook]
  rfl

/-- What was read is taken up first, and the rest follows if it is news. -/
theorem takeUp_ends (hwatch : ∀ id, k.Watches (tell id)) (h : k.Shows s o) :
    ((Arbiter.on host tell).takeUp o.currentUser o.record).Ends s (fun _ s' => k.Shows s' o.report)
      fun f s' => o.IsNews ∧ ∃ o', o.Halt host f s'.host o' ∧ k.Shows s' o' := by
  have howner : o.record.user = o.currentUser := by
    rw [← h.outlook]
    exact k.own h.sound
  have hknown : s.memory.records.peek o.currentUser = o.known := by
    rw [← h.outlook]
    rfl
  have htracked : s.memory.trackedUser = o.trackedUser := by
    rw [← h.outlook]
    rfl
  have htaken : k.Shows
      { s with memory := { s.memory with
        trackedUser := o.currentUser, records := s.memory.records.replace o.record } } o.taken := by
    refine ⟨h.sound, ?_⟩
    have hreplaced : (s.memory.records.replace o.record).peek o.currentUser = some o.record := by
      rw [Records.peek_replace, if_pos howner.symm]
    rw [← h.outlook] at hreplaced ⊢
    exact Outlook.ext rfl rfl rfl rfl hreplaced rfl rfl
  unfold Arbiter.takeUp
  refine Effect.Ends.memory ?_
  rw [hknown, htracked]
  refine .remember ?_
  split
  · rename_i hold
    have hcurrent : o.currentUser = o.trackedUser := by simpa using hold.2
    rw [Outlook.report_of_upToDate hcurrent.symm hold.1]
    refine Effect.Ends.pure ⟨h.sound, ?_⟩
    rw [hcurrent, ← h.outlook]
    rfl
  · rename_i hnew
    refine .remember ?_
    split
    · rename_i hfirst
      have hno : ¬ o.IsNews := by
        rintro (hswitched | ⟨hknew, -⟩)
        · exact hswitched (by simpa using hfirst.2)
        · exact hknew hfirst.1
      rw [Outlook.report, if_neg hno]
      exact note_ends _ htaken
    · rename_i hnext
      have hnews : o.IsNews := by
        by_cases hcurrent : o.currentUser = o.trackedUser
        · have hsame : decide (o.currentUser ≠ o.trackedUser) = false := by simpa using hcurrent
          exact .inr ⟨fun hnone => hnext ⟨hnone, hsame⟩, fun hknown => hnew ⟨hknown, hsame⟩⟩
        · exact .inl hcurrent
      rw [Outlook.report, if_pos hnews]
      refine (note_ends _ htaken).bind fun _ s₁ h₁ => ?_
      exact (configurationChanged_ends hwatch _ _ howner h₁).mono_error fun _ _ h => ⟨hnews, h⟩

/-- A report whose reads fail leaves everything as it was. Any other that fails is news, and stops
where it may. -/
theorem receiveReport_ends (hwatch : ∀ id, k.Watches (tell id)) (h : k.Shows s o) :
    (Arbiter.on host tell).receiveReport.Ends s (fun _ s' => k.Shows s' o.report)
      fun f s' => ((Arbiter.on host tell).reading.fault? s ≠ none ∧ k.Shows s' o) ∨
        (Arbiter.on host tell).reading.fault? s = none ∧ o.IsNews ∧
          ∃ o', o.Halt host f s'.host o' ∧ k.Shows s' o' := by
  rw [(Arbiter.on host tell).receiveReport_eq, Effect.fault?]
  obtain ⟨_, s₁, hrun, h₁, rfl⟩ | ⟨f, s₁, hrun, h₁⟩ := (reading_ends h).cases
  · rw [Effect.Ends, Effect.bind_of_ok hrun, hrun]
    exact (takeUp_ends hwatch h₁).mono_error fun _ _ h => .inr ⟨rfl, h⟩
  · rw [hrun]
    exact .of_error (Effect.bind_of_error hrun) (.inl ⟨Option.some_ne_none f, h₁⟩)

end Fallible

/-- **Delivering a report again.** Let the handling of a report fail, and the next one not. That
one leaves the same user tracked, with the same record, as if the first one had not failed. If it
was one of the reads that failed, nothing else is different either. Otherwise it changes nothing:
the suggestion of location is what it would be, unless the fault comes from asking again who is
current, and then it may be the one from before; the device is where it was before, unless the fault
comes from a move. -/
theorem redelivered {f : Fault} {s₀ s₁ : System ω} (hwatch : ∀ id, k.Watches (tell id))
    (hs : k.sound s.host) (hfault : (Arbiter.on host tell).receiveReport.fault? s = some f)
    (h₀ : k.Shows s₀ (k.outlook s))
    (hunfailed : (Arbiter.on host tell).receiveReport.fault? s₀ = none)
    (h₁ : k.Shows s₁ (k.outlook ((Arbiter.on host tell).receiveReport.final s)))
    (hagain : (Arbiter.on host tell).receiveReport.fault? s₁ = none) :
    let failed := k.outlook ((Arbiter.on host tell).receiveReport.final s)
    let unfailed := k.outlook ((Arbiter.on host tell).receiveReport.final s₀)
    let again := k.outlook ((Arbiter.on host tell).receiveReport.final s₁)
    (again.currentUser = unfailed.currentUser ∧ again.known = unfailed.known ∧
        again.trackedUser = unfailed.trackedUser) ∧
      ((Arbiter.on host tell).reading.fault? s ≠ none → again = unfailed) ∧
      ((Arbiter.on host tell).reading.fault? s = none → again = failed ∧
        (again.geolocation = unfailed.geolocation ∨ again.geolocation = s.memory.geolocation ∧
          Raises host.currentUser f ((Arbiter.on host tell).receiveReport.final s).host) ∧
        (again.zone = (k.holding s.host).zone ∨ again.zone = unfailed.zone ∧
          RaisesInMove host f ((Arbiter.on host tell).receiveReport.final s).host)) := by
  intro failed unfailed again
  obtain ⟨-, hunfailed⟩ := (Fallible.receiveReport_ends hwatch h₀).answered hunfailed
  obtain ⟨-, hagain⟩ := (Fallible.receiveReport_ends hwatch h₁).answered hagain
  replace hunfailed : unfailed = (k.outlook s).report := hunfailed.outlook
  replace hagain : again = failed.report := hagain.outlook
  obtain ⟨hread, hstopped⟩ | ⟨hread, hnews, o', hhalt, hstopped⟩ :=
    (Fallible.receiveReport_ends hwatch ⟨hs, rfl⟩).failed hfault
  · have hsame : again = unfailed := by
      rw [hagain, hunfailed]
      exact congrArg Outlook.report hstopped.outlook
    refine ⟨?_, fun _ => hsame, fun hnone => (hread hnone).elim⟩
    rw [hsame]
    exact ⟨rfl, rfl, rfl⟩
  · obtain rfl : failed = o' := hstopped.outlook
    obtain ⟨⟨huser, -⟩, htracked, hknown⟩ := hhalt.upToDate
    rw [hhalt.report] at hagain
    have hworked : unfailed = (k.outlook s).heeded.settled := by
      rw [hunfailed, Outlook.report, if_pos hnews]
    refine ⟨?_, fun hfailed => (hfailed hread).elim, fun _ => ⟨hagain, ?_⟩⟩
    · rw [hagain, hworked]
      exact ⟨huser, hknown, htracked⟩
    · rw [hagain, hworked]
      exact hhalt.leaves

end Handling

/-! ### The device of a session -/

namespace Session.World

open Session (Rig Listener)

/-- The records of the device are filed in order, no answer is fixed, and the listeners take no
steps. Every call may fail, and every listener. -/
structure Candid (w : World) : Prop where
  filed : w.device.Filed
  unfixed : w.rig.bind Rig.initialized = none
  idle : ∀ l ∈ w.listeners, l.steps = []

def holding (w : World) : Holding where
  toLedger := w.ledger
  zone := w.device.zone

variable {α : Type} {w w' : World} {fits : Holding → α → Prop}

theorem Candid.of_eq (h : w.Candid) {zone : Option String} (hrig : w'.rig = w.rig)
    (hlisteners : w'.listeners = w.listeners) (hdevice : w'.device = w.device.setZone zone) :
    w'.Candid ∧ w'.holding = { w.holding with zone } := by
  refine ⟨⟨?_, ?_, ?_⟩, ?_⟩
  · rw [hdevice]
    exact h.filed.setZone zone
  · rw [hrig]
    exact h.unfixed
  · rw [hlisteners]
    exact h.idle
  · rw [holding, World.ledger, hdevice]
    rfl

theorem reads_guard {call : DeviceCall} {f : Unit → World.Call α}
    (hf : Reads Candid holding fits (f ())) : Reads Candid holding fits (guard call >>= f) := by
  intro w hw
  rw [guard_bind]
  cases w.faultOf call with
  | none => exact hf w hw
  | some fault => exact ⟨hw, rfl⟩

theorem reads_answer {answer : World → α} (h : ∀ w, w.Candid → fits w.holding (answer w)) :
    Reads Candid holding fits (get >>= fun w => pure (answer w)) :=
  fun w hw => ⟨⟨hw, rfl⟩, h w hw⟩

theorem reads_configurationOf (user : Int) :
    Reads Candid holding (fun h c => c = h.recordOf user) (configurationOf user) := by
  intro w hw
  obtain ⟨trace, hrun⟩ := configurationOf_eq user w
  rw [hrun]
  cases w.faultOf .configurationOf with
  | some fault => exact ⟨hw, rfl⟩
  | none =>
      refine ⟨⟨⟨hw.filed.see user, hw.unfixed, hw.idle⟩, ?_⟩, rfl⟩
      show Holding.mk (w.device.see user).ledger (w.device.see user).zone = _
      rw [Device.ledger_see, Device.zone_see]
      rfl

/-- The device of a session moves where it is sent, unless it is rigged to fail. -/
theorem moves_setZone (zone : String) : Moves Candid holding zone (setZone (some zone)) := by
  intro w hw
  obtain ⟨trace, hrun⟩ := setZone_eq (some zone) w
  rw [hrun]
  cases w.faultOf .setDeviceZone with
  | some fault => exact ⟨⟨hw.filed, hw.unfixed, hw.idle⟩, .inl rfl⟩
  | none => exact hw.of_eq rfl rfl rfl

theorem reads_readClock : Reads Candid holding (fun _ _ => True) readClock := by
  intro w hw
  rw [readClock, get_bind]
  cases Calendar.dateDefect? w.clock with
  | some defect => exact ⟨hw, rfl⟩
  | none => exact ⟨⟨⟨hw.filed, hw.unfixed, hw.idle⟩, rfl⟩, trivial⟩

/-- To look up a listener only reads, and finds one without steps. -/
theorem reads_answerCall (id : ListenerId) :
    Reads Candid holding (fun _ l? => ∀ l, l? = some l → l.steps = []) (answerCall id) := by
  intro w hw
  cases hl : w.listeners[id]? with
  | none =>
      have hrun : answerCall id w = .ok none w := by
        rw [answerCall, get_bind, hl]
        rfl
      rw [hrun]
      exact ⟨⟨hw, rfl⟩, fun _ h => by cases h⟩
  | some l =>
      have hsteps := hw.idle l (List.mem_of_getElem? hl)
      by_cases hdone : l.remaining = 0
      · have hrun : answerCall id w = .ok none (w.recordEvent (.listenerCalled l.name)) := by
          rw [answerCall, get_bind, hl]
          exact congrFun (if_pos hdone) _
        rw [hrun]
        exact ⟨⟨⟨hw.filed, hw.unfixed, hw.idle⟩, rfl⟩, fun _ h => by cases h⟩
      · have hrun : answerCall id w = .ok (some l) { w.recordEvent (.listenerCalled l.name) with
            listeners := w.listeners.set id { l with remaining := l.remaining - 1 } } := by
          rw [answerCall, get_bind, hl]
          exact congrFun (if_neg hdone) _
        rw [hrun]
        refine ⟨⟨⟨hw.filed, hw.unfixed, fun l' hl' => ?_⟩, rfl⟩, ?_⟩
        · rcases List.mem_or_eq_of_mem_set hl' with hl' | rfl
          · exact hw.idle l' hl'
          · exact hsteps
        · rintro _ ⟨⟩
          exact hsteps

end Session.World

namespace Session

/-- The device of a session, any call of which may fail. -/
def fallible : Fallible World.host where
  sound := World.Candid
  holding := World.holding
  own h := h.filed.user_recordOf _
  currentUser := World.reads_guard (World.reads_answer fun _ _ => rfl)
  configurationOf := World.reads_configurationOf
  zoneInitialized := World.reads_guard <| World.reads_answer fun w hw => by
    rw [hw.unfixed]
    rfl
  deviceZone := World.reads_guard (World.reads_answer fun _ _ => rfl)
  setDeviceZone := World.moves_setZone
  readClock := World.reads_readClock
  log := by
    intro w n hw
    obtain ⟨trace, hlog⟩ := w.log_eq n
    show World.Candid (w.log n) ∧ World.holding (w.log n) = World.holding w
    rw [hlog]
    exact ⟨⟨hw.filed, hw.unfixed, hw.idle⟩, rfl⟩

/-- Listeners that take no steps only watch, and may fail. -/
theorem watches_callListener (bound : Nat) (id : ListenerId) :
    fallible.Watches (callListener bound id) := by
  intro o s h
  have hanswer := (Fallible.reads_ends (World.reads_answerCall id) h).mono
    (fun _ _ h => h) fun _ _ h => h.1
  cases bound with
  | zero => exact hanswer.bind fun _ _ h => h.1
  | succ bound =>
      refine hanswer.bind ?_
      rintro l? s' ⟨h', hidle⟩
      cases l? with
      | none => exact h'
      | some l =>
          simp only [hidle l rfl]
          cases l.fault <;> exact h'

/-- Paris is suggested while user 1 detects nothing. -/
def undetected : System World :=
  ((arbiter 0).suggestTelephony
    { slot := 0, zone := some "Europe/Paris", quality := some .singleZone }).final
    (Setup.opening ⟨1, true, true, false, false, false⟩ none)

/-- User 1 turns detection on, and the report of it is outstanding. -/
def enabled (faults : List (DeviceCall × Fault)) (listeners : List Listener) : System World where
  memory := { undetected.memory with listeners := List.range listeners.length }
  host := { undetected.host with
    device := (undetected.host.device.replace ⟨1, true, true, true, false, false⟩).2
    rig := some { faults }
    listeners }

/-- Nothing fails any more. -/
def mended (s : System World) : System World :=
  { s with host := { s.host with rig := none, listeners := [] } }

theorem candid_enabled {faults : List (DeviceCall × Fault)} {listeners : List Listener}
    (hidle : ∀ l ∈ listeners, l.steps = []) : (enabled faults listeners).host.Candid := by
  have hdevice : undetected.host.device = .start ⟨1, true, true, false, false, false⟩ none := by
    decide +kernel
  refine ⟨?_, rfl, hidle⟩
  show Device.Filed (undetected.host.device.replace _).2
  rw [hdevice]
  exact (Device.filed_start _ _).replace _

/-- To mend the faults changes nothing that a handling looks at. -/
theorem shows_mended {s : System World} (hs : s.host.Candid) :
    fallible.Shows (mended s) (fallible.outlook s) :=
  ⟨⟨hs.filed, rfl, fun _ hl => by cases hl⟩, rfl⟩

end Session

open Session (enabled mended)

/-- A listener fails on the report. The next delivery does not move the device. -/
theorem redelivered_unheard :
    let a := Session.arbiter 1
    let k : Fallible World.host := Session.fallible
    let s := enabled [] [⟨"watcher", [], 1, some (.reported "busy")⟩]
    let again := k.outlook (a.receiveReport.final (mended (a.receiveReport.final s)))
    a.receiveReport.fault? s = some (.reported "busy") ∧
      again.known = (k.outlook (a.receiveReport.final (mended s))).known ∧
      again = k.outlook (a.receiveReport.final s) ∧ again.zone = none := by
  intro a k s again
  have hs : s.host.Candid := Session.candid_enabled (by simp)
  have hfault : a.receiveReport.fault? s = some (.reported "busy") := by decide +kernel
  have hwatch : ∀ id, k.Watches (a.callListener id) := Session.watches_callListener 1
  have hstopped : (a.receiveReport.final s).host.Candid := by
    obtain ⟨-, hshows⟩ | ⟨-, -, o', -, hshows⟩ :=
      (Fallible.receiveReport_ends hwatch ⟨hs, rfl⟩).failed hfault
    · exact hshows.sound
    · exact hshows.sound
  obtain ⟨⟨-, hknown, -⟩, -, hlost⟩ := redelivered hwatch hs hfault (Session.shows_mended hs)
    (by decide +kernel) (Session.shows_mended hstopped) (by decide +kernel)
  obtain ⟨hsame, -⟩ := hlost (by decide +kernel)
  exact ⟨hfault, hknown, hsame, (congrArg Outlook.zone hsame).trans (by decide +kernel)⟩

/-- **A zone lost with a fault.** Setting the zone fails on the report. The next delivery leaves the
device without a zone, and it would be in Paris if the first one had not failed. -/
theorem zone_lost_with_fault :
    let report := (Session.arbiter 0).receiveReport
    let s := enabled [(.setDeviceZone, .reported "offline")] []
    let again := report.final (mended (report.final s))
    let unfailed := report.final (mended s)
    report.fault? s = some (.reported "offline") ∧
      report.fault? (mended (report.final s)) = none ∧ report.fault? (mended s) = none ∧
      again.host.device.zone = none ∧ unfailed.host.device.zone = some "Europe/Paris" := by
  decide +kernel

/-- Of listeners that act, not even the record is safe: where one fails, those after it are not
called by any delivery. Here the second one turns detection off again. -/
theorem record_lost_with_fault :
    let report := (Session.arbiter 2).receiveReport
    let keeper : Session.Listener := ⟨"keeper", [.update 1 ⟨some false, none⟩], 1, none⟩
    let s := enabled [] [⟨"watcher", [], 1, some (.reported "busy")⟩, keeper]
    let again := report.final (report.final s)
    let unfailed := report.final (enabled [] [⟨"watcher", [], 1, none⟩, keeper])
    report.fault? s = some (.reported "busy") ∧ report.fault? (report.final s) = none ∧
      again.memory.records.peek 1 = some ⟨1, true, true, true, false, false⟩ ∧
      unfailed.memory.records.peek 1 = some ⟨1, true, true, false, false, false⟩ := by
  decide +kernel

end ZoneArbiter
