import ZoneArbiter.Proofs.Reentry

/-!
# ZoneArbiter.Proofs.Upkeep

**What the parts of an arbiter keep, every call of it keeps** (`Upkeep.serve`,
`Upkeep.receiveReport`), whether it answers or fails. The parts are what it calls, the host and the
listeners, its notes and its moves of the device; what is kept may depend on the state of the host,
on the change log and on what telephony has suggested, but on nothing else that the arbiter
remembers. What a suggestion of telephony does to it has to be said apart
(`Upkeep.suggestTelephony`).

A move is a part of its own and not put together from calls of the host: between the move and its
entry in the change log a condition on the two need not hold.
-/

namespace ZoneArbiter

open Arbiter (Request Writing)

/-! ### Pages -/

/-- However a page is written, the condition holds then if it held before. -/
def Arbiter.Writing.Keeps {ω α : Type} (I : System ω → Prop) (writing : Writing ω α) : Prop :=
  ∀ s page, I s → match writing (s, page) with
    | .ok _ (s', _) | .error _ (s', _) => I s'

namespace Arbiter.Writing.Keeps

variable {ω α β : Type} {I : System ω → Prop}

/-- What is asked for a page keeps the condition, and so does what is written then. -/
theorem act {e : Effect ω α} {f : α → Writing ω β} (h : e.Keeps I)
    (hf : ∀ x, Writing.Keeps I (f x)) : Writing.Keeps I (Writing.act e >>= f) := by
  intro s page hs
  show match EStateM.bind (Writing.act e) f (s, page) with
    | .ok _ (s', _) | .error _ (s', _) => I s'
  rw [EStateM.bind, Writing.act]
  obtain ⟨x, s', hrun, hend⟩ | ⟨fault, s', hrun, hend⟩ := (h s hs).cases
  · rw [hrun]
    exact hf x s' page hend
  · rw [hrun]
    exact hend

/-- Lines on the page are of no account. -/
theorem put {g : Status.Page → Status.Page} {f : Unit → Writing ω α}
    (h : Writing.Keeps I (f ())) : Writing.Keeps I (Writing.put g >>= f) :=
  fun s page hs => h s (g page) hs

/-- Nor are appendices, which may fail but do not reach the system. -/
theorem appendices (appendices : List Status.Appendix) (args : List String) :
    Writing.Keeps I (appendices.forM fun appendix =>
      (Writing.onPage (appendix.run args) : Writing ω Unit)) := by
  intro s page hs
  obtain ⟨page', hrun | ⟨f, hrun⟩⟩ := Writing.run_appendices appendices args s page <;>
    rw [hrun] <;> exact hs

end Arbiter.Writing.Keeps

/-! ### Parts made of other parts -/

namespace Effect.Keeps

variable {ω : Type} {a : Arbiter ω} {I : System ω → Prop}

/-- To read the zone is to ask whether there is one, and then for it. -/
theorem currentZone (hinitialized : Effect.Keeps I a.host.zoneInitialized)
    (hzone : Effect.Keeps I a.host.deviceZone) : a.currentZone.Keeps I := by
  refine hinitialized.bind fun initialized => ?_
  split
  · exact hzone
  · exact .pure none

/-- What does not depend on the change log is kept in a move by what the calls of the host keep. -/
theorem moveTo (hinitialized : Effect.Keeps I a.host.zoneInitialized)
    (hzone : Effect.Keeps I a.host.deviceZone)
    (hset : ∀ zone, Effect.Keeps I (a.host.setDeviceZone zone))
    (hclock : Effect.Keeps I a.host.readClock)
    (hlog : ∀ {s : System ω} (n : Notice), I s → I (a.host.log n s))
    (hrecord : ∀ {s : System ω} changes, I s → I { s with memory := { s.memory with changes } })
    (zone : String) (cause : Cause) : (a.moveTo zone cause).Keeps I := by
  have hnote (n : Notice) : (a.note n).Keeps I := fun _ hs => hlog n hs
  have hentry (change : ZoneChange) : (Effect.remember fun m =>
      { m with changes := m.changes.record change } : Effect ω Unit).Keeps I :=
    fun _ hs => hrecord _ hs
  refine (Effect.Keeps.currentZone hinitialized hzone).bind fun previous => ?_
  split
  · exact hnote _
  · refine (hset zone).bind fun _ => ?_
    refine hclock.bind fun changedAt => ?_
    exact (hentry _).bind fun _ => hnote _

/-- A status page asks for the current user's record and for the zone, and nothing else. -/
theorem overview (hrecord : a.currentRecord.Keeps I)
    (hinitialized : Effect.Keeps I a.host.zoneInitialized) (hzone : a.currentZone.Keeps I)
    (args : List String) (page : Status.Page) : (a.overview args page).Keeps I := by
  have hread : (Effect.memory : Effect ω Arbiter.Memory).Keeps I := fun _ hs => hs
  have hwrites : Writing.Keeps I (a.writeStatus args) := by
    refine .act hrecord fun c => ?_
    refine .act hread fun known => .put ?_
    refine .act hinitialized fun initialized => .put ?_
    refine .act hzone fun zone => .put ?_
    refine .act hread fun m => ?_
    exact .put <| .put <| .put <| .put <| .appendices m.appendices args
  intro s hs
  have hpage := hwrites s page hs
  unfold Arbiter.overview Effect.Ends
  dsimp only
  cases hrun : a.writeStatus args (s, page) with
  | ok _ written =>
      rw [hrun] at hpage
      exact hpage
  | error fault written =>
      rw [hrun] at hpage
      exact hpage

end Effect.Keeps

/-! ### The parts of an arbiter, and its calls -/

variable {ω : Type} {a : Arbiter ω} {I : System ω → Prop}

/-- Logging never fails, and a run of notes keeps what one of them keeps. -/
theorem Arbiter.notes_ends {J : System ω → Prop} {s : System ω}
    (hnote : ∀ {s : System ω} (n : Notice), J s → J (a.host.log n s)) (notices : List Notice)
    (hs : J s) : (notices.forM a.note).Ends s (fun _ s' => J s') fun _ _ => False := by
  induction notices generalizing s with
  | nil => exact hs
  | cons n rest ih => exact ih (hnote n hs)

/-- The system once a suggestion of telephony is in the table. -/
def System.hear (s : System ω) (suggestion : TelephonySuggestion) : System ω :=
  { s with memory := { s.memory with telephony := s.memory.telephony.record suggestion } }

/-- What the arbiter calls, its notes and its moves keep the condition, and it does not depend on
what the arbiter remembers beside the change log and the suggestions of telephony. -/
structure Upkeep (a : Arbiter ω) (I : System ω → Prop) : Prop where
  memory : ∀ {s : System ω} {m : Arbiter.Memory}, I s → m.changes = s.memory.changes →
    m.telephony = s.memory.telephony → I { s with memory := m }
  currentUser : Effect.Keeps I a.host.currentUser
  configurationOf : ∀ user, Effect.Keeps I (a.host.configurationOf user)
  zoneInitialized : Effect.Keeps I a.host.zoneInitialized
  deviceZone : Effect.Keeps I a.host.deviceZone
  storeConfiguration : ∀ user change, Effect.Keeps I (a.host.storeConfiguration user change)
  finishStore : Effect.Keeps I a.host.finishStore
  log : ∀ {s : System ω} (n : Notice), I s → I (a.host.log n s)
  callListener : ∀ id, (a.callListener id).Keeps I
  moveTo : ∀ zone cause, (a.moveTo zone cause).Keeps I

namespace Upkeep

/-- To remember something else than changes and suggestions keeps the condition. -/
theorem remember (u : Upkeep a I) {f : Arbiter.Memory → Arbiter.Memory}
    (hf : ∀ m, (f m).changes = m.changes ∧ (f m).telephony = m.telephony) :
    (Effect.remember f).Keeps I :=
  fun s hs => u.memory hs (hf s.memory).1 (hf s.memory).2

/-- A note is a line of the log. -/
theorem note (u : Upkeep a I) (n : Notice) : (a.note n).Keeps I :=
  fun _ hs => u.log n hs

/-- A record that is not kept yet is asked for and kept; records are of no account. -/
theorem recordOf (u : Upkeep a I) (user : Int) : (a.recordOf user).Keeps I := by
  have hkept (f : Records → Records) : (Arbiter.reviseRecords f).Keeps I :=
    u.remember fun _ => ⟨rfl, rfl⟩
  have hknown : (Arbiter.knownRecords : Effect ω Records).Keeps I := fun _ hs => hs
  unfold Arbiter.recordOf Records.get
  refine hknown.bind fun r => ?_
  cases r.peek user with
  | some c => exact .pure c
  | none =>
      refine (u.configurationOf user).bind fun c => ?_
      exact (hkept _).bind fun _ => .pure c

theorem currentRecord (u : Upkeep a I) : a.currentRecord.Keeps I :=
  u.currentUser.bind fun user => u.recordOf user

theorem currentZone (u : Upkeep a I) : a.currentZone.Keeps I :=
  .currentZone u.zoneInitialized u.deviceZone

/-- Detection asks for the zone, takes notes, and ends in a move if it moves the device at all. -/
theorem detect (u : Upkeep a I) (c : Configuration) (reason : Reason) :
    (a.detect c reason).Keeps I := by
  unfold Arbiter.detect
  cases c.mode with
  | off => exact .pure ()
  | autoTelephony =>
      refine .memory fun m => ?_
      cases m.telephony.best? with
      | none => exact u.note _
      | some best =>
          cases hzone : best.suggestion.zone with
          | none =>
              simp only [hzone]
              exact u.note _
          | some zone =>
              simp only [hzone]
              refine u.zoneInitialized.bind fun initialized => ?_
              split
              · exact u.note _
              · exact u.moveTo _ _
  | autoGeo =>
      refine .memory fun m => ?_
      cases m.geolocation with
      | none => exact u.note _
      | some s =>
          refine u.currentZone.bind fun current => ?_
          cases Geolocation.selectZone s.zones current with
          | none => exact u.note _
          | some zone => exact u.moveTo _ _

/-- A geolocation suggestion is forgotten, and the note of that comes first. -/
theorem forgetLocation (u : Upkeep a I) : a.forgetLocation.Keeps I := by
  have hforget : (Effect.remember fun m => { m with geolocation := none } :
      Effect ω Unit).Keeps I := u.remember fun _ => ⟨rfl, rfl⟩
  exact .memory fun _ => .when (u.note _) hforget

/-- Listeners are called one after another, and the first that fails is the last. -/
theorem callListeners (u : Upkeep a I) : a.callListeners.Keeps I :=
  .memory fun _ => .forM u.callListener

/-- What follows on a change: a note, what is forgotten, the listeners, and detection. -/
theorem configurationChanged (u : Upkeep a I) (previous : Option Configuration)
    (c : Configuration) (reason : Reason) :
    (a.configurationChanged previous c reason).Keeps I := by
  have hdetect (current : Int) : (a.callListeners >>= fun _ =>
      if c.user = current then a.detect c reason else pure ()).Keeps I := by
    refine u.callListeners.bind fun _ => ?_
    split
    · exact u.detect c reason
    · exact .pure ()
  have hrest : (a.currentUser >>= fun current => do
      if c.user = current ∧ c.geoBehavior = false then a.forgetLocation
      a.callListeners
      if c.user = current then a.detect c reason).Keeps I := by
    refine u.currentUser.bind fun current => ?_
    exact .when u.forgetLocation (hdetect current)
  unfold Arbiter.configurationChanged
  split
  · exact (u.note _).bind fun _ => hrest
  · exact hrest

/-- **Reports.** -/
theorem receiveReport (u : Upkeep a I) : a.receiveReport.Keeps I := by
  have htracked (user : Int) : (Effect.remember fun m => { m with trackedUser := user } :
      Effect ω Unit).Keeps I := u.remember fun _ => ⟨rfl, rfl⟩
  have hreplaced (c : Configuration) : (Effect.remember fun m =>
      { m with records := m.records.replace c } : Effect ω Unit).Keeps I :=
    u.remember fun _ => ⟨rfl, rfl⟩
  refine u.currentUser.bind fun user => ?_
  refine (u.configurationOf user).bind fun c => .memory fun m => ?_
  refine (htracked user).bind fun _ => ?_
  split
  · exact .pure ()
  · refine (hreplaced c).bind fun _ => ?_
    split
    · exact u.note _
    · refine (u.note _).bind fun _ => ?_
      exact u.configurationChanged _ _ _

/-- Settings are stored, and what follows on that is a report if one is due. -/
theorem persist (u : Upkeep a I) (user : Int) (change : ConfigurationChange) :
    (a.persist user change).Keeps I := by
  refine (u.storeConfiguration user change).bind fun due => ?_
  exact .when u.receiveReport u.finishStore

/-- An update that is refused is noted. One that is granted is remembered, persisted and, if it
changes the record, followed up. -/
theorem updateConfiguration (u : Upkeep a I) (user : Int) (change : ConfigurationChange) :
    (a.updateConfiguration user change).Keeps I := by
  have hreplaced (c : Configuration) : (Effect.remember fun m =>
      { m with records := m.records.replace c } : Effect ω Unit).Keeps I :=
    u.remember fun _ => ⟨rfl, rfl⟩
  refine (u.recordOf user).bind fun old => ?_
  cases old.grant? change with
  | none => exact (u.note _).bind fun _ => .pure false
  | some new =>
      refine (hreplaced new).bind fun _ => ?_
      refine (u.persist user change).bind fun _ => ?_
      split
      · refine (u.note _).bind fun _ => ?_
        exact (u.configurationChanged _ _ _).bind fun _ => .pure true
      · exact .pure true

/-- A pick is a move if the record allows it, and a note if not. -/
theorem suggestManual (u : Upkeep a I) (user : Int) (pick : ManualSuggestion) :
    (a.suggestManual user pick).Keeps I := by
  refine (u.recordOf user).bind fun c => ?_
  dsimp only
  split
  · exact (u.moveTo _ _).bind fun _ => .pure true
  · exact (u.note _).bind fun _ => .pure false

/-- A suggestion of telephony keeps the condition, if recording it brings the condition about from
whatever holds before. -/
theorem suggestTelephony (u : Upkeep a I) {s : System ω} {J : System ω → Prop}
    (hnote : ∀ {s : System ω} (n : Notice), J s → J (a.host.log n s))
    (suggestion : TelephonySuggestion) (hhear : ∀ {s : System ω}, J s → I (s.hear suggestion))
    (hs : J s) :
    (a.suggestTelephony suggestion).Ends s (fun _ s' => I s') fun _ s' => I s' := by
  refine ((Arbiter.notes_ends hnote _ hs).mono_error fun _ _ h => h.elim).bind
    fun _ s₁ h₁ => Effect.Ends.remember ?_
  have hdetect : (a.currentRecord >>= fun c =>
      a.detect c (.telephonySuggestion suggestion.slot)).Keeps I :=
    u.currentRecord.bind fun c => u.detect c _
  exact ((u.note _).bind fun _ => hdetect) _ (hhear h₁)

/-- A geolocation suggestion is taken in its mode alone, and noted otherwise. -/
theorem suggestGeo (u : Upkeep a I) (s : GeoSuggestion) : (a.suggestGeo s).Keeps I := by
  have htaken : (Effect.remember fun m => { m with geolocation := some s } :
      Effect ω Unit).Keeps I := u.remember fun _ => ⟨rfl, rfl⟩
  refine u.currentRecord.bind fun c => ?_
  split
  · exact htaken.bind fun _ => u.detect c _
  · exact u.note _

theorem overview (u : Upkeep a I) (args : List String) (page : Status.Page) :
    (a.overview args page).Keeps I :=
  .overview u.currentRecord u.zoneInitialized u.currentZone args page

/-- **Every call keeps what the parts keep**, suggestions of telephony apart. -/
theorem serve (u : Upkeep a I) (r : Request)
    (htelephony : ∀ suggestion, r = .telephony suggestion →
      (a.suggestTelephony suggestion).Keeps I) : (a.serve r).Keeps I := by
  have hdone {α : Type} {e : Effect ω α} (h : e.Keeps I) : (e >>= fun _ => pure ()).Keeps I :=
    h.bind fun _ => .pure ()
  have hread : (Effect.memory : Effect ω Arbiter.Memory).Keeps I := fun _ hs => hs
  cases r with
  | current => exact hdone u.currentRecord
  | capabilities user => exact hdone ((u.recordOf user).bind fun _ => .pure _)
  | update user change => exact hdone (u.updateConfiguration user change)
  | manual user pick => exact hdone (u.suggestManual user pick)
  | telephony suggestion => exact htelephony suggestion rfl
  | geo suggestion => exact u.suggestGeo suggestion
  | latestTelephony slot =>
      refine hdone (hread.bind fun m => ?_)
      exact (Effect.Keeps.forM fun n => u.note n).bind fun _ => .pure _
  | latestGeo | best => exact hdone (hread.bind fun _ => .pure _)
  | addListener id =>
      exact u.remember (f := fun m => { m with listeners := m.listeners ++ [id] })
        fun _ => ⟨rfl, rfl⟩
  | addAppendix appendix =>
      exact u.remember (f := fun m => { m with appendices := m.appendices ++ [appendix] })
        fun _ => ⟨rfl, rfl⟩
  | status args page => exact hdone (u.overview args page)

end Upkeep

end ZoneArbiter
