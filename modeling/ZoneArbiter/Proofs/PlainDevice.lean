import ZoneArbiter.Proofs.Freshness
import ZoneArbiter.Proofs.Upkeep
import ZoneArbiter.Proofs.Withdrawal

/-!
# ZoneArbiter.Proofs.PlainDevice

**Where calls leave a device that stands in no rig**, from any state whatever. No call of such a
device fails, but the clock may show no date: the device has been moved by then, so a move ends
where it was to go, whether it answers or fails (`lands_moveTo`).

Nothing is asked of the listeners here, for suggestions of telephony and picks of users call none.
So beside the zone only logs, the clock, and what has been loaded can be different afterwards
(`Lands`), and no record that the arbiter goes by.
-/

namespace ZoneArbiter

open Arbiter (ListenerId)
open Session (DeviceCall Step World keptRecord)
open Telephony (Table)

/-! ### Calls that cannot fail -/

namespace Session.World

variable {w : World}

theorem faultOf_of_unrigged (h : w.rig = none) (call : DeviceCall) : w.faultOf call = none := by
  rw [faultOf, h]
  rfl

theorem zoneInitialized_of_unrigged (h : w.rig = none) :
    zoneInitialized w = .ok w.device.zone.isSome w := by
  rw [zoneInitialized, guard_bind, faultOf_of_unrigged h]
  exact congrArg (EStateM.Result.ok · w) (by rw [h]; rfl)

theorem deviceZone_of_unrigged (h : w.rig = none) : deviceZone w = .ok w.device.zone w := by
  rw [deviceZone, guard_bind, faultOf_of_unrigged h]
  rfl

theorem currentUser_of_unrigged (h : w.rig = none) :
    currentUser w = .ok w.device.currentUser w := by
  rw [currentUser, guard_bind, faultOf_of_unrigged h]
  rfl

/-- A device that nobody has rigged goes where it is sent. -/
theorem setZone_of_unrigged (h : w.rig = none) (zone : Option String) :
    ∃ trace, setZone zone w = .ok () { w with trace, device := w.device.setZone zone } := by
  obtain ⟨trace, hrun⟩ := setZone_eq zone w
  rw [faultOf_of_unrigged h] at hrun
  exact ⟨trace, hrun⟩

/-- A record that is asked for is made up if need be. -/
theorem configurationOf_of_unrigged (h : w.rig = none) (user : Int) :
    ∃ trace, configurationOf user w =
      .ok (w.device.recordOf user) { w with trace, device := w.device.see user } := by
  obtain ⟨trace, hrun⟩ := configurationOf_eq user w
  rw [faultOf_of_unrigged h] at hrun
  exact ⟨trace, hrun⟩

end Session.World

/-! ### What can be different afterwards -/

/-- From one system to another, on a device outside any rig, the device has come to `zone`. Who is
current, every record that the arbiter goes by, and what telephony has suggested are as before. -/
structure Lands (zone : Option String) (s s' : System World) : Prop where
  rig : s'.host.rig = none
  zone : s'.host.device.zone = zone
  currentUser : s'.host.device.currentUser = s.host.device.currentUser
  kept : ∀ user, keptRecord s' user = keptRecord s user
  telephony : s'.memory.telephony = s.memory.telephony

/-- The device is where it was. -/
abbrev Stays (s s' : System World) : Prop := Lands s.host.device.zone s s'

variable {α β : Type} {s s' s'' : System World} {zone zone' : Option String}

theorem Lands.refl (h : s.host.rig = none) : Stays s s := ⟨h, rfl, rfl, fun _ => rfl, rfl⟩

/-- Where the device lands in the end is where the last part takes it. -/
theorem Lands.trans (h : Lands zone s s') (h' : Lands zone' s' s'') : Lands zone' s s'' where
  rig := h'.rig
  zone := h'.zone
  currentUser := h'.currentUser.trans h.currentUser
  kept user := (h'.kept user).trans (h.kept user)
  telephony := h'.telephony.trans h.telephony

/-- What was said of the memory is beside the zone. -/
theorem Lands.of_device {w : World} (hrig : w.rig = none)
    (hdevice : w.device = s.host.device.setZone zone) : Lands zone s { s with host := w } where
  rig := hrig
  zone := by rw [hdevice]; rfl
  currentUser := by rw [hdevice]; rfl
  kept user := by
    show (s.memory.records.peek user).getD (w.device.recordOf user) = _
    rw [hdevice]
    rfl
  telephony := rfl

theorem Lands.log (h : Lands zone s s') (n : Notice) :
    Lands zone s { s' with host := s'.host.log n } := by
  obtain ⟨trace, hlog⟩ := s'.host.log_eq n
  rw [hlog]
  exact ⟨h.rig, h.zone, h.currentUser, h.kept, h.telephony⟩

/-- However the effect ends, the device is in `zone` then, and all else is as before. -/
def Effect.EndsIn (zone : Option String) (e : Effect World α) (s : System World) : Prop :=
  e.Ends s (fun _ s' => Lands zone s s') fun _ s' => Lands zone s s'

/-- The effect does not fail, answers with `P`, and leaves the device in `zone` and all else as
before. -/
def Effect.AnswersIn (zone : Option String) (e : Effect World α) (s : System World)
    (P : α → Prop) : Prop :=
  e.Ends s (fun x s' => P x ∧ Lands zone s s') fun _ _ => False

/-- What ends in a zone may be followed by what ends there from wherever the first part has led. -/
theorem Effect.EndsIn.bind {e : Effect World α} {f : α → Effect World β} (h : e.EndsIn zone s)
    (hf : ∀ x s', Lands zone s s' → (f x).EndsIn zone s') : (e >>= f).EndsIn zone s :=
  Effect.Ends.bind h fun x s' h' => (hf x s' h').mono (fun _ _ h'' => h'.trans h'')
    fun _ _ h'' => h'.trans h''

theorem Effect.EndsIn.answer {e : Effect World α} (h : e.EndsIn zone s) (f : α → β) :
    (e >>= fun x => pure (f x)).EndsIn zone s :=
  Effect.Ends.bind h fun _ _ h' => h'

namespace Effect.AnswersIn

variable {e : Effect World α} {f : α → Effect World β} {P : α → Prop}

theorem endsIn (h : e.AnswersIn zone s P) : e.EndsIn zone s :=
  h.mono (fun _ _ h => h.2) fun _ _ h => h.elim

/-- After an answer the rest may end in another zone. -/
theorem bind (h : e.AnswersIn zone' s P)
    (hf : ∀ x s', P x → Lands zone' s s' → (f x).EndsIn zone s') : (e >>= f).EndsIn zone s := by
  refine (h.mono_error fun _ _ h => h.elim).bind fun x s' hend => ?_
  exact (hf x s' hend.1 hend.2).mono (fun _ _ h' => hend.2.trans h') fun _ _ h' => hend.2.trans h'

end Effect.AnswersIn

section Calls

variable {bound : Nat}

/-! ### Moving -/

theorem answersIn_note (hrig : s.host.rig = none) (n : Notice) :
    ((Session.arbiter bound).note n).AnswersIn s.host.device.zone s fun _ => True :=
  .of_ok rfl ⟨trivial, (Lands.refl hrig).log n⟩

theorem answersIn_notes (hrig : s.host.rig = none) (notices : List Notice) :
    (notices.forM (Session.arbiter bound).note).AnswersIn s.host.device.zone s fun _ => True :=
  (Arbiter.notes_ends (J := Stays s) (fun n h => h.log n) notices (.refl hrig)).mono
    (fun _ _ h => ⟨trivial, h⟩) fun _ _ h => h

/-- The zone that is read is the zone of the device. -/
theorem answersIn_currentZone (hrig : s.host.rig = none) :
    (Session.arbiter bound).currentZone.AnswersIn s.host.device.zone s
      (· = s.host.device.zone) := by
  have hasked : (Effect.onHost World.zoneInitialized : Effect World Bool) s =
      .ok s.host.device.zone.isSome s :=
    Effect.onHost_of_ok (World.zoneInitialized_of_unrigged hrig)
  have hanswer : (Session.arbiter bound).currentZone s = .ok s.host.device.zone s := by
    refine (Effect.bind_of_ok hasked).trans ?_
    cases hzone : s.host.device.zone with
    | none => rfl
    | some zone =>
        have hread := Effect.onHost_of_ok (World.deviceZone_of_unrigged hrig)
        rwa [hzone] at hread
  exact .of_ok hanswer ⟨rfl, .refl hrig⟩

theorem endsIn_readClock (hrig : s.host.rig = none) :
    (Session.arbiter bound).readClock.EndsIn s.host.device.zone s := by
  show Effect.EndsIn _ (Effect.onHost World.readClock) s
  unfold Effect.EndsIn Effect.Ends Effect.onHost
  rw [World.readClock, World.get_bind]
  cases Calendar.dateDefect? s.host.clock <;> exact .of_device hrig rfl

/-- **A move has happened by the time that anything can fail.** -/
theorem endsIn_moveTo (hrig : s.host.rig = none) (zone : String) (cause : Cause) :
    ((Session.arbiter bound).moveTo zone cause).EndsIn (some zone) s := by
  refine (answersIn_currentZone hrig).bind fun previous s₁ hprevious h₁ => ?_
  split
  · rename_i hthere
    rw [← hthere, hprevious, ← h₁.zone]
    exact (answersIn_note h₁.rig _).endsIn
  · obtain ⟨trace, hset⟩ := World.setZone_of_unrigged h₁.rig (some zone)
    have hmoved : Effect.AnswersIn (some zone)
        (Effect.onHost (World.setZone (some zone)) : Effect World Unit) s₁ fun _ => True :=
      .of_ok (Effect.onHost_of_ok hset) ⟨trivial, .of_device h₁.rig rfl⟩
    refine hmoved.bind fun _ s₂ _ h₂ => ?_
    rw [← h₂.zone]
    refine (endsIn_readClock h₂.rig).bind fun changedAt s₃ h₃ => ?_
    have hrecorded : Stays s₃ { s₃ with memory := { s₃.memory with
        changes := s₃.memory.changes.record ⟨zone, previous, cause, changedAt⟩ } } :=
      ⟨h₃.rig, rfl, rfl, fun _ => rfl, rfl⟩
    rw [← h₃.zone]
    have hentered : Effect.AnswersIn s₃.host.device.zone (Effect.remember fun m =>
        { m with changes := m.changes.record ⟨zone, previous, cause, changedAt⟩ }) s₃
        fun _ => True := .of_ok rfl ⟨trivial, hrecorded⟩
    refine hentered.bind fun _ s₄ _ h₄ => ?_
    rw [← h₄.zone]
    exact (answersIn_note h₄.rig _).endsIn

/-- **Detection by telephony** ends where the table says. -/
theorem endsIn_detect (hrig : s.host.rig = none) {c : Configuration}
    (hmode : c.mode = .autoTelephony) (reason : Reason) :
    ((Session.arbiter bound).detect c reason).EndsIn
      (s.memory.telephony.destination s.host.device.zone) s := by
  unfold Arbiter.detect Table.destination
  rw [hmode]
  refine Effect.Ends.memory ?_
  cases hbest : s.memory.telephony.best? with
  | none => exact (answersIn_note hrig _).endsIn
  | some best =>
      cases hzone : best.suggestion.zone with
      | none =>
          simp only [hzone]
          exact (answersIn_note hrig _).endsIn
      | some zone =>
          simp only [hzone]
          have hasked : Effect.AnswersIn s.host.device.zone
              (Effect.onHost World.zoneInitialized : Effect World Bool) s
              (· = s.host.device.zone.isSome) :=
            .of_ok (Effect.onHost_of_ok (World.zoneInitialized_of_unrigged hrig))
              ⟨rfl, .refl hrig⟩
          refine hasked.bind fun initialized s₁ hinitialized h₁ => ?_
          subst hinitialized
          split
          · rw [← h₁.zone]
            exact (answersIn_note h₁.rig _).endsIn
          · exact endsIn_moveTo h₁.rig zone _

/-! ### Loading -/

/-- Asking for a record answers with the one that the arbiter goes by. -/
theorem answersIn_recordOf (hrig : s.host.rig = none) (user : Int) :
    ((Session.arbiter bound).recordOf user).AnswersIn s.host.device.zone s
      (· = keptRecord s user) := by
  cases hpeek : s.memory.records.peek user with
  | some c =>
      refine Effect.Ends.of_ok (Arbiter.recordOf_of_peek hpeek) ⟨?_, .refl hrig⟩
      rw [keptRecord, hpeek, Option.getD_some]
  | none =>
      obtain ⟨trace, hrun⟩ := World.configurationOf_of_unrigged hrig user
      have hload := Effect.bind_of_ok
        (f := fun c => Arbiter.reviseRecords (·.keep user c) >>= fun _ => pure c)
        (Effect.onHost_of_ok hrun)
      have hkept : keptRecord s user = s.host.device.recordOf user := by
        rw [keptRecord, hpeek, Option.getD_none]
      refine Effect.Ends.of_ok ((Arbiter.recordOf_of_peek_none hpeek).trans hload)
        ⟨hkept.symm, hrig, ?_, ?_, ?_, rfl⟩
      · exact Device.zone_see
      · exact Device.currentUser_see
      · intro v
        show (((s.memory.records.keep user _).peek v).getD
          ((s.host.device.see user).recordOf v)) = keptRecord s v
        rw [Records.peek_keep, Device.recordOf_see]
        split
        · rename_i hv
          rw [hv, hkept, Option.getD_some]
        · rfl

/-- The record in effect is the kept one, or the one that the device has. -/
theorem answersIn_currentRecord (hrig : s.host.rig = none) :
    (Session.arbiter bound).currentRecord.AnswersIn s.host.device.zone s
      (· = keptRecord s s.host.device.currentUser) := by
  have hasked : (Effect.onHost World.currentUser : Effect World Int) s =
      .ok s.host.device.currentUser s :=
    Effect.onHost_of_ok (World.currentUser_of_unrigged hrig)
  have hrecord : ((Session.arbiter bound).recordOf s.host.device.currentUser).AnswersIn
      s.host.device.zone s (· = keptRecord s s.host.device.currentUser) :=
    answersIn_recordOf hrig _
  unfold Effect.AnswersIn Effect.Ends at hrecord ⊢
  rw [Arbiter.currentRecord, show ((Session.arbiter bound).currentUser >>=
    fun user => (Session.arbiter bound).recordOf user) s = _ from Effect.bind_of_ok hasked]
  exact hrecord

/-! ### Steps -/

/-- A step lands where its action does: to clear the trace afterwards moves nothing. -/
theorem lands_take {step : Step} (hvalid : ∀ label problem, step ≠ .invalid label problem)
    (h : (Session.act (Session.arbiter bound) step).Ends s' (fun _ s'' => Lands zone s s'')
      fun _ s'' => Lands zone s s'') : Lands zone s (Session.take bound step s').2 := by
  have hclear {s'' : System World} (h : Lands zone s s'') :
      Lands zone s (Session.take.clear s'') :=
    ⟨h.rig, h.zone, h.currentUser, h.kept, h.telephony⟩
  have hperform := Session.perform_eq hvalid (Session.arbiter bound) s'
  obtain ⟨answer, s'', hrun, hend⟩ | ⟨fault, s'', hrun, hend⟩ := h.cases <;>
    rw [hrun] at hperform <;> rw [Session.take, hperform] <;> exact hclear hend

/-- **A suggestion of telephony**, while detection by telephony is in effect, takes the device
where the table says that then has it. -/
theorem lands_telephony (hrig : s.host.rig = none)
    (hmode : (keptRecord s s.host.device.currentUser).mode = .autoTelephony)
    (suggestion : TelephonySuggestion) :
    Lands ((s.memory.telephony.record suggestion).destination s.host.device.zone)
      (s.hear suggestion) (Session.take bound (.telephony suggestion) s).2 := by
  have hsuggest : ((Session.arbiter bound).suggestTelephony suggestion).Ends s
      (fun _ s' => Lands ((s.memory.telephony.record suggestion).destination s.host.device.zone)
        (s.hear suggestion) s')
      fun _ s' => Lands ((s.memory.telephony.record suggestion).destination s.host.device.zone)
        (s.hear suggestion) s' := by
    unfold Arbiter.suggestTelephony
    refine ((answersIn_notes hrig _).mono_error fun _ _ h => h.elim).bind fun _ s₁ ⟨_, h₁⟩ => ?_
    refine Effect.Ends.remember ?_
    have hheard : Lands s.host.device.zone (s.hear suggestion) (s₁.hear suggestion) :=
      ⟨h₁.rig, h₁.zone, h₁.currentUser, h₁.kept, congrArg (·.record suggestion) h₁.telephony⟩
    -- From here on the table is the new one, and nothing else has changed.
    have hrest : Effect.EndsIn ((s.memory.telephony.record suggestion).destination
        s.host.device.zone) (do
          (Session.arbiter bound).note
            (.telephonyRecorded suggestion.slot (Telephony.score suggestion) suggestion.zone)
          (Session.arbiter bound).detect (← (Session.arbiter bound).currentRecord)
            (.telephonySuggestion suggestion.slot)) (s₁.hear suggestion) := by
      refine (answersIn_note hheard.rig _).bind fun _ s₂ _ h₂ => ?_
      refine (answersIn_currentRecord h₂.rig).bind fun c s₃ hc h₃ => ?_
      have hstart := (hheard.trans h₂).trans h₃
      have hdetected : c.mode = .autoTelephony := by
        rw [hc, (hheard.trans h₂).kept, (hheard.trans h₂).currentUser]
        exact hmode
      have hzone : s₃.host.device.zone = s.host.device.zone := by
        rw [hstart.zone, h₂.zone, hheard.zone]
      have htable : s₃.memory.telephony = s.memory.telephony.record suggestion := hstart.telephony
      rw [← hzone, ← htable]
      exact endsIn_detect h₃.rig hdetected _
    exact hrest.mono (fun _ _ h => hheard.trans h) fun _ _ h => hheard.trans h
  exact lands_take nofun (hsuggest.bind fun _ _ h => h)

/-- **A user's pick** moves the device exactly if the record that the arbiter goes by lets the user
pick. -/
theorem lands_manual (hrig : s.host.rig = none) (user : Int) (pick : ManualSuggestion) :
    Lands (if (keptRecord s user).capabilities.suggestManual = .possessed then some pick.zone
      else s.host.device.zone) s (Session.take bound (.manual user pick) s).2 := by
  have hpick : ((Session.arbiter bound).suggestManual user pick).EndsIn
      (if (keptRecord s user).capabilities.suggestManual = .possessed then some pick.zone
        else s.host.device.zone) s := by
    refine (answersIn_recordOf hrig user).bind fun c s₁ hc h₁ => ?_
    subst hc
    dsimp only
    split
    · exact (endsIn_moveTo h₁.rig pick.zone _).answer fun _ => true
    · rw [← h₁.zone]
      exact (answersIn_note h₁.rig _).endsIn.answer fun _ => false
  exact lands_take nofun (hpick.answer Session.Answer.flag)

end Calls

end ZoneArbiter
