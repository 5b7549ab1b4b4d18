import ZoneArbiter.Proofs.FailedStore
import ZoneArbiter.Proofs.Superseded
import ZoneArbiter.Proofs.Upkeep

/-!
# ZoneArbiter.Proofs.Lingering

**A suggestion of location is held only while the current user's record asks for one, unless a call
outran a report** (`located_when_delivered`).

A report is handled in full only if it finds another user than the one tracked, or another record
than the one known. So the arbiter forgets in time as long as one thing is true between the reports:
what is held is asked for by the record that it has of the user *tracked* (`Books.Locates`). Two
calls may act on a user whose switch has not been reported yet, and break this
(`Books.Outruns`): a suggestion may be taken because the new current user asks for it, and an update
of the user still tracked may be taken for one of a user in the background. If that user is current
again by the time that the reports are delivered, they find nothing new, and the suggestion stays
(`lingers_after_suggestion`, `lingers_after_update`).

What becomes of the records is known from `Proofs/Boundary/Books.lean`; all that is added here is
what becomes of the suggestion. Most calls spare it (`Boundary.KeepsLocation`).
-/

namespace ZoneArbiter

open Arbiter (ListenerId Request)

/-! ### What spares the suggestion -/

section KeepsLocation

variable {ω α γ : Type} {host : Arbiter.Host ω} {tell : ListenerId → Effect ω Unit}
  {b : Boundary host} {k : Marking b} {s : System ω}
  {e : Effect ω α}

/-- However the effect ends, the suggestion of location that was held is still held. -/
def Boundary.KeepsLocation (b : Boundary host) (e : Effect ω α) : Prop :=
  ∀ held, e.Keeps fun s => b.sound s.host ∧ s.memory.geolocation = held

/-- A geolocation suggestion is no part of the change log. -/
theorem Boundary.Still.geolocation {s' : System ω} (h : b.Still s s') :
    s'.memory.geolocation = s.memory.geolocation := by
  obtain ⟨changes, hmemory⟩ := h.memory
  rw [hmemory]

namespace Boundary.KeepsLocation

/-- What touches the device alone keeps the suggestion. -/
theorem of_touches (h : ∀ s, b.sound s.host → ∃ P, b.Touches k P e s) : b.KeepsLocation e := by
  rintro held s ⟨hs, rfl⟩
  obtain ⟨P, htouches⟩ := h s hs
  exact htouches.mono (fun _ _ hstill => ⟨hstill.sound, hstill.geolocation⟩)
    fun _ _ hend => ⟨hend.1.sound, hend.1.geolocation⟩

theorem of_quiet (h : b.Quiet k e) : b.KeepsLocation e :=
  of_touches fun s hs => ⟨_, h s hs⟩

theorem pure (x : α) : b.KeepsLocation (Pure.pure x : Effect ω α) := fun _ => .pure x

theorem bind {f : α → Effect ω γ} (h : b.KeepsLocation e) (hf : ∀ x, b.KeepsLocation (f x)) :
    b.KeepsLocation (e >>= f) :=
  fun held => (h held).bind fun x => hf x held

theorem memory {f : Arbiter.Memory → Effect ω γ} (hf : ∀ m, b.KeepsLocation (f m)) :
    b.KeepsLocation (Effect.memory >>= f) :=
  fun held => .memory fun m => hf m held

theorem remember {f : Arbiter.Memory → Arbiter.Memory}
    (hf : ∀ m, (f m).geolocation = m.geolocation) : b.KeepsLocation (Effect.remember f) := by
  rintro held s ⟨hs, rfl⟩
  exact ⟨hs, hf s.memory⟩

/-- A call of the host spares it, as long as the host stays sound. -/
theorem answers {call : EStateM Fault ω α} {answer : ω → α} {l : ω → Ledger}
    (h : ∀ w, b.sound w → AnswersWith b.sound b.ledger call w (answer w) (l w)) :
    b.KeepsLocation (Effect.onHost call : Effect ω α) := by
  rintro held s ⟨hs, hheld⟩
  obtain ⟨w, hrun, hsound, -⟩ := h s.host hs
  exact .of_ok (Effect.onHost_of_ok hrun) ⟨hsound, hheld⟩

theorem kept {call : EStateM Fault ω α} (h : KeepsLedger b.sound b.ledger call) :
    b.KeepsLocation (Effect.onHost call : Effect ω α) :=
  of_quiet (k := .none b) (quiet_onHost h (names_none _ _ _))

end Boundary.KeepsLocation

theorem Boundary.keepsLocation_currentUser : b.KeepsLocation (Arbiter.on host tell).currentUser :=
  .answers fun _ hw => b.currentUser hw

/-- Asking for a record loads that record and nothing else. -/
theorem Boundary.load_ends (user : Int) (hs : b.sound s.host) :
    ((Arbiter.on host tell).recordOf user).Ends s
      (fun c s' => c = (b.books s).kept user ∧ b.sound s'.host ∧
      b.books s' = (b.books s).load user ∧ s'.memory.geolocation = s.memory.geolocation)
      fun _ _ => False := by
  obtain ⟨c, s', hrun, hc, hs', hbooks⟩ | ⟨f, s', hrun, hfalse⟩ := (b.recordOf_ends user hs).cases
  · obtain ⟨hmemory, -⟩ := Arbiter.discreet_on.memory_of_recordOf hrun
    exact .of_ok hrun ⟨hc, hs', hbooks, by rw [hmemory]⟩
  · exact hfalse.elim

theorem Boundary.keepsLocation_recordOf (user : Int) :
    b.KeepsLocation ((Arbiter.on host tell).recordOf user) := by
  rintro held s ⟨hs, rfl⟩
  exact (b.load_ends user hs).mono (fun _ _ h => ⟨h.2.1, h.2.2.2⟩) fun _ _ h => h.elim

theorem Boundary.keepsLocation_currentRecord :
    b.KeepsLocation (Arbiter.on host tell).currentRecord :=
  b.keepsLocation_currentUser.bind fun user => b.keepsLocation_recordOf user

theorem Boundary.keepsLocation_note (n : Notice) :
    b.KeepsLocation ((Arbiter.on host tell).note n) :=
  .of_quiet (k := .none b) (b.quiet_note n)

theorem Boundary.keepsLocation_moveTo (zone : String) (cause : Cause) :
    b.KeepsLocation ((Arbiter.on host tell).moveTo zone cause) :=
  .of_touches (k := .none b) fun _ hs => ⟨_, b.touches_moveTo zone cause hs⟩

theorem Boundary.keepsLocation_detect (c : Configuration) (reason : Reason) :
    b.KeepsLocation ((Arbiter.on host tell).detect c reason) :=
  .of_touches (k := .none b) fun _ hs => ⟨_, b.touches_detect c reason hs⟩

theorem Boundary.keepsLocation_callListeners (hquiet : ∀ id, b.Quiet k (tell id)) :
    b.KeepsLocation (Arbiter.on host tell).callListeners :=
  .memory fun _ held => .forM fun id => Boundary.KeepsLocation.of_quiet (hquiet id) held

theorem Boundary.keepsLocation_overview (args : List String) (page : Status.Page) :
    b.KeepsLocation ((Arbiter.on host tell).overview args page) := by
  intro held
  have hrecord : b.KeepsLocation (Arbiter.on host tell).currentRecord :=
    b.keepsLocation_currentRecord
  have hinitialized : b.KeepsLocation (Effect.onHost host.zoneInitialized) :=
    .kept b.zoneInitialized
  have hzone : b.KeepsLocation (Arbiter.on host tell).currentZone :=
    .of_quiet (k := .none b) b.quiet_currentZone
  exact .overview (hrecord held) (hinitialized held) (hzone held) args page

/-- Calls keep the suggestion, apart from a new one and from an update of settings. -/
theorem Boundary.keepsLocation_serve {r : Request} (hgeo : ∀ g, r ≠ .geo g)
    (hupdate : ∀ user change, r ≠ .update user change) :
    b.KeepsLocation ((Arbiter.on host tell).serve r) := by
  have hdone {α : Type} {e : Effect ω α} (h : b.KeepsLocation e) :
      b.KeepsLocation (e >>= fun _ => pure ()) := h.bind fun _ => .pure ()
  have hnotes (notices : List Notice) :
      b.KeepsLocation (notices.forM (Arbiter.on host tell).note) := fun held =>
    .forM fun n => b.keepsLocation_note n held
  cases r with
  | current => exact hdone b.keepsLocation_currentRecord
  | capabilities user => exact hdone ((b.keepsLocation_recordOf user).bind fun _ => .pure _)
  | update user change => exact absurd rfl (hupdate user change)
  | manual user pick =>
      refine hdone ((b.keepsLocation_recordOf user).bind fun c => ?_)
      dsimp only
      split
      · exact (b.keepsLocation_moveTo _ _).bind fun _ => .pure true
      · exact (b.keepsLocation_note _).bind fun _ => .pure false
  | telephony suggestion =>
      refine (hnotes _).bind fun _ => ?_
      refine Boundary.KeepsLocation.bind (.remember fun _ => rfl) fun _ => ?_
      refine (b.keepsLocation_note _).bind fun _ => ?_
      exact b.keepsLocation_currentRecord.bind fun c => b.keepsLocation_detect c _
  | geo suggestion => exact absurd rfl (hgeo suggestion)
  | latestTelephony slot => exact hdone (.memory fun _ => (hnotes _).bind fun _ => .pure _)
  | latestGeo | best => exact hdone (.memory fun _ => .pure _)
  | addListener id => exact .remember fun _ => rfl
  | addAppendix appendix => exact .remember fun _ => rfl
  | status args page => exact hdone (b.keepsLocation_overview args page)

end KeepsLocation

/-! ### What becomes of the suggestion -/

namespace Books

variable (β : Books) (user : Int) (change : ConfigurationChange)

/-- The record known of the user tracked asks for a location. -/
def Locates : Prop := ∃ c, β.known β.trackedUser = some c ∧ c.geoBehavior = true

/-- A report leaves the suggestion held if it finds nothing new, or a record that asks for it. -/
def SparedByReport : Prop := β.ledger.inEffect.geoBehavior = true ∨ β.InStep

/-- The books once the arbiter and the host have both taken up the record granted, and before the
report of it. -/
def granted (new : Configuration) : Books :=
  { (β.load user).adopt new with ledger := β.ledger.store user change }

/-- An update leaves the suggestion held if its report does, and if it is not one that the current
user gives location up with. -/
def SparedByUpdate : Prop :=
  ∀ new, (β.kept user).grant? change = some new →
    (β.ledger.alters user change = true → (β.granted user change new).SparedByReport) ∧
      (new ≠ β.kept user → user = β.ledger.currentUser → new.geoBehavior = true)

/-- The call acts on a user whose switch has not been reported: it takes a suggestion because the
current user asks for it, but the user tracked does not; or the user tracked gives location up in
the background, and there is no report of it. -/
def Outruns : Request → Prop
  | .geo _ => β.trackedUser ≠ β.ledger.currentUser ∧
      (β.kept β.ledger.currentUser).geoBehavior = true ∧ ¬ β.Locates
  | .update user change => user = β.trackedUser ∧ user ≠ β.ledger.currentUser ∧
      β.ledger.alters user change = false ∧
        ∃ new, (β.kept user).grant? change = some new ∧ new.geoBehavior = false
  | _ => False

variable {β user change}

theorem currentUser_persist :
    (β.persist user change).ledger.currentUser = β.ledger.currentUser := by
  unfold persist
  dsimp only
  split <;> rfl

theorem Locates.load (h : β.Locates) (user : Int) : (β.load user).Locates := by
  obtain ⟨c, hc, hgeo⟩ := h
  refine ⟨c, ?_, hgeo⟩
  show (if β.trackedUser = user then some (β.kept user) else β.known β.trackedUser) = some c
  split
  · rename_i huser
    rw [kept, ← huser, hc, Option.getD_some]
  · exact hc

/-- Calls that do not update leave the record of the user tracked as it is, where it is known. -/
theorem Locates.serve (h : β.Locates) {r : Request}
    (hupdate : ∀ user change, r ≠ .update user change) : (β.serve r).Locates := by
  cases r with
  | update user change => exact absurd rfl (hupdate user change)
  | current | telephony | geo | status => exact h.load _
  | capabilities user | manual user => exact h.load user
  | latestTelephony | latestGeo | best | addListener | addAppendix => exact h

/-- The record in effect asks for what outlasts a report. -/
theorem Locates.report (h : β.Locates) (hspared : β.SparedByReport) : β.report.Locates := by
  refine ⟨β.ledger.inEffect, if_pos rfl, ?_⟩
  rcases hspared with hgeo | hstep
  · exact hgeo
  · obtain ⟨c, hc, hgeo⟩ := h
    rw [hstep.tracked] at hc
    rw [← hstep.known hc]
    exact hgeo

/-- Where a suggestion outlasts an update that outruns no report, it is still asked for. -/
theorem Locates.update (h : β.Locates) (hfiled : β.Filed) (hspared : β.SparedByUpdate user change)
    (hpaced : ¬ β.Outruns (.update user change)) : (β.update user change).Locates := by
  unfold Books.update
  cases hgrant : (β.kept user).grant? change with
  | none => exact h.load user
  | some new =>
      have howner : new.user = user := by
        rw [← Configuration.merge_of_grant hgrant, Configuration.user_merge, hfiled.kept]
      obtain ⟨hreported, hgiven⟩ := hspared new hgrant
      obtain ⟨c, hc, hgeo⟩ := h
      -- What the arbiter knows of the user tracked, once the record granted is in its place.
      have hknown : (β.granted user change new).known β.trackedUser =
          if β.trackedUser = user then some new else some c := by
        show (if β.trackedUser = new.user then some new else (β.load user).known β.trackedUser) = _
        rw [howner]
        split
        · rfl
        · rename_i hother
          show (if β.trackedUser = user then some (β.kept user) else β.known β.trackedUser) = some c
          rw [if_neg hother, hc]
      -- An update of the current user that is spared leaves location on, or changes nothing.
      have hstays (htracked : β.trackedUser = user) (hcurrent : user = β.ledger.currentUser) :
          new.geoBehavior = true := by
        by_cases hnew : new = β.kept user
        · rw [hnew, kept, ← htracked, hc]
          exact hgeo
        · exact hgiven hnew hcurrent
      have hlocates (hpaced : β.trackedUser = user → new.geoBehavior = true) :
          (β.granted user change new).Locates := by
        by_cases htracked : β.trackedUser = user
        · exact ⟨new, by rw [if_pos htracked] at hknown; exact hknown, hpaced htracked⟩
        · exact ⟨c, by rw [if_neg htracked] at hknown; exact hknown, hgeo⟩
      by_cases halters : β.ledger.alters user change = true
      · have hupdate : ((β.load user).adopt new).persist user change =
            (β.granted user change new).report := if_pos halters
        dsimp only
        rw [hupdate]
        rcases hreported halters with hasks | hstep
        · exact ⟨_, if_pos rfl, hasks⟩
        · refine (hlocates fun htracked => hstays htracked ?_).report (.inr hstep)
          rw [← htracked]
          exact hstep.tracked
      · have hupdate : ((β.load user).adopt new).persist user change =
            β.granted user change new := if_neg halters
        dsimp only
        rw [hupdate]
        refine hlocates fun htracked => ?_
        by_cases hcurrent : user = β.ledger.currentUser
        · exact hstays htracked hcurrent
        · refine Classical.byContradiction fun hoff => hpaced ?_
          exact ⟨htracked.symm, hcurrent, Bool.eq_false_iff.mpr halters, new, hgrant,
            Bool.eq_false_iff.mpr hoff⟩

end Books

section Outlasts

variable {ω α γ : Type} {host : Arbiter.Host ω} {tell : ListenerId → Effect ω Unit}
  {b : Boundary host} {k : Marking b} {s s' : System ω}
  {e : Effect ω α} {f : α → Effect ω γ} {p q : Prop} {user : Int} {change : ConfigurationChange}

/-- What is held in `s'` was held in `s`, and where anything is held, `p`. -/
def Boundary.Spared (b : Boundary host) (s : System ω) (p : Prop) (s' : System ω) : Prop :=
  b.sound s'.host ∧ ∀ g, s'.memory.geolocation = some g → s.memory.geolocation = some g ∧ p

/-- However the effect ends, a suggestion that is held then was held before, and `p`. -/
def Boundary.Outlasts (b : Boundary host) (e : Effect ω α) (s : System ω) (p : Prop) : Prop :=
  e.Ends s (fun _ => b.Spared s p) fun _ => b.Spared s p

/-- A suggestion that is spared twice is spared, on both grounds. -/
theorem Boundary.Spared.of_spared (h : b.Spared s p s') {s'' : System ω} (h' : b.Spared s' q s'') :
    b.Spared s (p ∧ q) s'' := by
  refine ⟨h'.1, fun g hg => ?_⟩
  obtain ⟨hg', hq⟩ := h'.2 g hg
  obtain ⟨hheld, hp⟩ := h.2 g hg'
  exact ⟨hheld, hp, hq⟩

theorem Boundary.Spared.imp (h : b.Spared s p s') (himp : p → q) : b.Spared s q s' :=
  ⟨h.1, fun g hg => (h.2 g hg).imp_right himp⟩

namespace Boundary.Outlasts

theorem imp (h : b.Outlasts e s p) (himp : p → q) : b.Outlasts e s q :=
  h.mono (fun _ _ h' => h'.imp himp) fun _ _ h' => h'.imp himp

/-- What keeps the suggestion spares it, on any grounds that hold. -/
theorem of_keepsLocation (h : b.KeepsLocation e) (hs : b.sound s.host) (hp : p) :
    b.Outlasts e s p :=
  (h s.memory.geolocation s ⟨hs, rfl⟩).mono
    (fun _ _ h' => ⟨h'.1, fun _ hg => ⟨h'.2 ▸ hg, hp⟩⟩)
    fun _ _ h' => ⟨h'.1, fun _ hg => ⟨h'.2 ▸ hg, hp⟩⟩

/-- What follows brings no suggestion. -/
theorem bind (h : b.Outlasts e s p) (hf : ∀ x s', b.sound s'.host → b.Outlasts (f x) s' True) :
    b.Outlasts (e >>= f) s p := by
  refine Effect.Ends.bind h fun x s' hspared => (hf x s' hspared.1).mono ?_ ?_
  · exact fun _ _ h' => (hspared.of_spared h').imp And.left
  · exact fun _ _ h' => (hspared.of_spared h').imp And.left

/-- What comes first cannot fail, and leaves the suggestion alone. -/
theorem after {Q : α → System ω → Prop} (h : e.Ends s Q fun _ _ => False)
    (hQ : ∀ x s', Q x s' → s'.memory.geolocation = s.memory.geolocation)
    (hf : ∀ x s', Q x s' → b.Outlasts (f x) s' p) : b.Outlasts (e >>= f) s p := by
  refine Effect.Ends.bind (h.mono (fun _ _ h' => h') fun _ _ h' => h'.elim) fun x s' h' => ?_
  have hsame := hQ x s' h'
  refine (hf x s' h').mono (fun _ _ hend => ⟨hend.1, fun g hg => ?_⟩)
    fun _ _ hend => ⟨hend.1, fun g hg => ?_⟩
  · exact hsame ▸ hend.2 g hg
  · exact hsame ▸ hend.2 g hg

theorem memory {f : Arbiter.Memory → Effect ω γ} (h : b.Outlasts (f s.memory) s p) :
    b.Outlasts (Effect.memory >>= f) s p := h

theorem remember {g : Arbiter.Memory → Arbiter.Memory} {f : Unit → Effect ω γ}
    (hg : (g s.memory).geolocation = s.memory.geolocation)
    (h : b.Outlasts (f ()) { s with memory := g s.memory } p) :
    b.Outlasts (Effect.remember g >>= f) s p :=
  h.mono (fun _ _ hend => ⟨hend.1, fun held hheld => hg ▸ hend.2 held hheld⟩)
    fun _ _ hend => ⟨hend.1, fun held hheld => hg ▸ hend.2 held hheld⟩

end Boundary.Outlasts

/-- A line of the log, and what follows it. -/
theorem Boundary.note_ends (n : Notice) (hs : b.sound s.host) :
    ((Arbiter.on host tell).note n).Ends s (fun _ => b.Still s) fun _ _ => False :=
  Effect.Ends.of_ok rfl (.of_host (b.log n hs))

variable (hquiet : ∀ id, b.Quiet k (tell id))
include hquiet

/-- A configuration that the current user gives location up with makes the arbiter forget. -/
theorem Boundary.outlasts_configurationChanged (previous : Option Configuration)
    (c : Configuration) (reason : Reason) (hs : b.sound s.host) :
    b.Outlasts ((Arbiter.on host tell).configurationChanged previous c reason) s
      (c.user = (b.books s).ledger.currentUser → c.geoBehavior = true) := by
  have hrest (current : Int) : b.KeepsLocation ((Arbiter.on host tell).callListeners >>= fun _ =>
      if c.user = current then (Arbiter.on host tell).detect c reason else pure ()) := by
    refine (b.keepsLocation_callListeners hquiet).bind fun _ => ?_
    split
    · exact b.keepsLocation_detect c reason
    · exact .pure ()
  have hcurrent {s : System ω} (hs : b.sound s.host) :
      b.Outlasts ((Arbiter.on host tell).currentUser >>= fun current => do
        if c.user = current ∧ c.geoBehavior = false then (Arbiter.on host tell).forgetLocation
        (Arbiter.on host tell).callListeners
        if c.user = current then (Arbiter.on host tell).detect c reason) s
        (c.user = (b.books s).ledger.currentUser → c.geoBehavior = true) := by
    refine .after (b.currentUser_ends hs) (fun _ _ h => h.2.geolocation) ?_
    rintro _ s₁ ⟨rfl, h₁⟩
    dsimp only
    split
    · -- Forgotten before a listener is called, so it stays forgotten.
      have hforget : b.Outlasts (Arbiter.on host tell).forgetLocation s₁
          (c.user = (b.books s).ledger.currentUser → c.geoBehavior = true) := by
        have hforgotten (s₂ : System ω) (h₂ : b.sound s₂.host) :
            b.Spared s₁ (c.user = (b.books s).ledger.currentUser → c.geoBehavior = true)
              { s₂ with memory := { s₂.memory with geolocation := none } } :=
          ⟨h₂, nofun⟩
        refine Effect.Ends.memory ?_
        split
        · exact hforgotten _ (b.log _ h₁.sound).1
        · exact hforgotten _ h₁.sound
      exact hforget.bind fun _ s₂ hs₂ => .of_keepsLocation (hrest _) hs₂ trivial
    · rename_i hstays
      refine .of_keepsLocation (hrest _) h₁.sound fun huser => ?_
      exact Bool.of_not_eq_false fun hoff => hstays ⟨huser, hoff⟩
  unfold Arbiter.configurationChanged
  split
  · refine .after (b.note_ends _ hs) (fun _ _ h => h.geolocation) fun _ s₁ h₁ => ?_
    rw [← h₁.books]
    exact hcurrent h₁.sound
  · exact hcurrent hs

/-- **Reports.** A suggestion outlasts a report that finds nothing new, or a record that asks for
it. -/
theorem Boundary.outlasts_receiveReport (hs : b.sound s.host) :
    b.Outlasts (Arbiter.on host tell).receiveReport s (b.books s).SparedByReport := by
  unfold Arbiter.receiveReport
  refine .after (b.currentUser_ends hs) (fun _ _ h => h.2.geolocation) ?_
  rintro _ s₁ ⟨rfl, h₁⟩
  refine .after (b.configurationOf_ends _ h₁.sound) (fun _ _ h => h.2.geolocation) ?_
  rintro c s₂ ⟨hc, h₂⟩
  have hbooks : b.books s₂ = b.books s := h₂.books.trans h₁.books
  replace hc : c = (b.books s).ledger.inEffect := by
    rw [hc, h₁.books]
    rfl
  have howner : c.user = (b.books s).ledger.currentUser := hc ▸ b.own _ hs
  -- Where the report ends early, the books are in step as they are.
  have hstep (htracked : (b.books s).ledger.currentUser = s₂.memory.trackedUser)
      (hknown : ∀ known, s₂.memory.records.peek (b.books s).ledger.currentUser = some known →
        known = c) : (b.books s).InStep := by
    rw [← hbooks] at htracked hknown hc ⊢
    exact ⟨htracked.symm, fun {known} h => (hknown known h).trans hc⟩
  refine .memory (.remember rfl ?_)
  have hsound : b.sound s₂.host := h₂.sound
  split
  · rename_i hold
    obtain ⟨hknown, hsame⟩ := hold
    have hcurrent := hstep (by simpa using hsame) fun known h =>
      Option.some.inj (h.symm.trans hknown)
    exact .of_keepsLocation (.pure ()) hsound (.inr hcurrent)
  · refine .remember rfl ?_
    split
    · rename_i hfirst
      obtain ⟨hunknown, hsame⟩ := hfirst
      have hcurrent := hstep (by simpa using hsame)
      refine .of_keepsLocation (b.keepsLocation_note _) hsound (.inr (hcurrent fun known h => ?_))
      rw [hunknown] at h
      cases h
    · refine .after (b.note_ends _ hsound) (fun _ _ h => h.geolocation) fun _ s₃ h₃ => ?_
      refine (b.outlasts_configurationChanged hquiet _ c _ h₃.sound).imp fun hasks => .inl ?_
      rw [← hc]
      refine hasks ?_
      rw [howner, h₃.books, ← hbooks]
      rfl

/-- **Persisting.** A suggestion outlasts it if it outlasts the report, where there is one. -/
theorem Boundary.outlasts_persist (user : Int) (change : ConfigurationChange)
    (hs : b.sound s.host) :
    b.Outlasts ((Arbiter.on host tell).persist user change) s
      ((b.books s).ledger.alters user change = true → { b.books s with
        ledger := (b.books s).ledger.store user change : Books }.SparedByReport) := by
  obtain ⟨w, hrun, hsound, hledger⟩ := b.storeConfiguration user change hs
  have hstored : b.books { s with host := w } =
      { b.books s with ledger := (b.books s).ledger.store user change } :=
    Books.ext hledger rfl rfl
  have hfinish : b.KeepsLocation (Effect.onHost host.finishStore) := .kept b.finishStore
  unfold Arbiter.persist
  rw [Boundary.Outlasts, Effect.Ends, Effect.bind_of_ok (Effect.onHost_of_ok hrun), ← hstored]
  by_cases hdue : (b.books s).ledger.alters user change = true
  · rw [show (b.ledger s.host).alters user change = true from hdue, if_pos rfl]
    have hreport := b.outlasts_receiveReport hquiet (s := { s with host := w }) hsound
    refine (hreport.imp fun hspared _ => hspared).bind fun _ s' hs' => ?_
    exact .of_keepsLocation hfinish hs' trivial
  · rw [show (b.ledger s.host).alters user change = false from Bool.eq_false_iff.mpr hdue,
      if_neg Bool.false_ne_true]
    have hrest : b.Outlasts (Effect.onHost host.finishStore) { s with host := w }
        ((b.books s).ledger.alters user change = true →
          (b.books { s with host := w }).SparedByReport) :=
      .of_keepsLocation hfinish hsound fun h => absurd h hdue
    exact hrest

/-- **Updates.** A suggestion outlasts an update that ends without a fault if the update spares
it. -/
theorem Boundary.spared_update (hs : b.sound s.host)
    (hown : ((b.books s).kept user).user = user) :
    ((Arbiter.on host tell).updateConfiguration user change).Ends s
      (fun _ => b.Spared s ((b.books s).SparedByUpdate user change)) fun _ _ => True := by
  unfold Arbiter.updateConfiguration
  refine Effect.Ends.bind ((b.load_ends user hs).mono_error fun _ _ h => h.elim) ?_
  rintro _ s₁ ⟨rfl, hs₁, hbooks₁, hsame₁⟩
  have hloaded : b.Spared s True s₁ := ⟨hs₁, fun g hg => ⟨hsame₁ ▸ hg, trivial⟩⟩
  cases hgrant : ((b.books s).kept user).grant? change with
  | none =>
      have hspared : (b.books s).SparedByUpdate user change := by
        intro new hnew
        rw [hgrant] at hnew
        cases hnew
      have hrejected (n : Notice) :
          b.Outlasts ((Arbiter.on host tell).note n >>= fun _ => pure false) s₁ True :=
        .of_keepsLocation ((b.keepsLocation_note n).bind fun _ => .pure false) hs₁ trivial
      exact (hrejected _).mono (fun _ s' h => (hloaded.of_spared h).imp fun _ => hspared)
        fun _ _ _ => trivial
  | some new =>
      have howner : new.user = user := by
        rw [← Configuration.merge_of_grant hgrant, Configuration.user_merge, hown]
      -- The record granted takes its place, and is persisted.
      let s₂ : System ω :=
        { s₁ with memory := { s₁.memory with records := s₁.memory.records.replace new } }
      have hbooks₂ : b.books s₂ = ((b.books s).load user).adopt new := by
        rw [← hbooks₁]
        exact Books.ext rfl rfl (funext fun v => Records.peek_replace _ new v)
      have hadopted : b.Spared s True s₂ := ⟨hs₁, hloaded.2⟩
      have hpersist := b.outlasts_persist hquiet user change (s := s₂) hs₁
      have hcurrent := b.holds_persist (s := s₂) (b.hears_quiet hquiet
        (·.ledger.currentUser = (b.books s).ledger.currentUser)) user change hs₁ (by
          rw [hbooks₂]
          exact Books.currentUser_persist)
      rw [hbooks₂] at hpersist
      have hboth := (Effect.Ends.and hpersist hcurrent).mono_error fun _ _ _ => trivial
      refine .remember (Effect.Ends.bind hboth fun _ s₃ hend => ?_)
      obtain ⟨hreported, hs₃, hcurrent₃⟩ := hend
      have hspared₃ := hadopted.of_spared hreported
      split
      · refine Effect.Ends.bind (b.note_ends _ hs₃ |>.mono_error fun _ _ h => h.elim)
          fun _ s₄ h₄ => ?_
        have hchanged := b.outlasts_configurationChanged hquiet (some ((b.books s).kept user)) new
          .configurationUpdate h₄.sound
        have hsame₄ : b.Spared s₃ True s₄ := ⟨h₄.sound, fun g hg => ⟨h₄.geolocation ▸ hg, trivial⟩⟩
        refine Effect.Ends.bind (hchanged.mono_error fun _ _ _ => trivial)
          fun _ s₅ hgiven => Effect.Ends.pure ?_
        refine ((hspared₃.of_spared hsame₄).of_spared hgiven).imp fun hend new' hnew' => ?_
        obtain rfl := Option.some.inj (hgrant.symm.trans hnew')
        obtain ⟨⟨⟨-, hreported⟩, -⟩, hgiven⟩ := hend
        refine ⟨hreported, fun _ huser => hgiven ?_⟩
        rw [howner, h₄.books]
        exact huser.trans hcurrent₃.symm
      · rename_i hsame
        refine Effect.Ends.pure (hspared₃.imp fun hreported new' hnew' => ?_)
        obtain rfl := Option.some.inj (hgrant.symm.trans hnew')
        exact ⟨hreported.2, fun hnew => absurd hnew hsame⟩

omit hquiet in
/-- **Suggestions.** Nothing is taken while the current user asks for no location. -/
theorem Boundary.outlasts_suggestGeo (suggestion : GeoSuggestion) (hs : b.sound s.host)
    (hunasked : ¬ ((b.books s).kept (b.books s).ledger.currentUser).geoBehavior = true) :
    b.Outlasts ((Arbiter.on host tell).suggestGeo suggestion) s True := by
  have hkept : b.KeepsLocation (Arbiter.on host tell).currentRecord :=
    b.keepsLocation_currentRecord
  have hload := (b.currentRecord_ends hs).and (hkept _ s ⟨hs, rfl⟩)
  unfold Arbiter.suggestGeo
  refine .after (hload.mono_error fun _ _ h => h.1) (fun _ _ h => h.2.2) ?_
  rintro _ s₁ ⟨⟨rfl, hs₁, -⟩, -⟩
  rw [if_neg hunasked]
  exact .of_keepsLocation (b.keepsLocation_note _) hs₁ trivial

omit hquiet in
theorem Boundary.Outlasts.final (h : b.Outlasts e s p) : b.Spared s p (e.final s) :=
  Effect.Ends.final h (fun _ _ hend => hend) fun _ _ hend => hend

end Outlasts

/-! ### Runs -/

section Paced

variable {ω : Type} {host : Arbiter.Host ω} {tell : ListenerId → Effect ω Unit}
  {b : Boundary host} {s : System ω} {n : Nat}

/-- The systems that can be reached, with the number of reports outstanding, where no call outruns a
report and updates end without a fault. -/
inductive Boundary.Paced (b : Boundary host) (tell : ListenerId → Effect ω Unit) :
    System ω → Nat → Prop
  /-- The arbiter asks who is current when it starts. -/
  | start {w w' : ω} {changes : ChangeLog} {m : Arbiter.Memory} (hw : b.sound w)
      (h : Arbiter.start host changes w = .ok m w') : b.Paced tell ⟨m, w'⟩ 0
  /-- The host changes, but not who is current or a record. -/
  | drift {s : System ω} {n : Nat} {w : ω} (h : b.Paced tell s n) (hw : b.sound w)
      (hledger : b.ledger w = b.ledger s.host) : b.Paced tell { s with host := w } n
  /-- The host changes in any way, and a report of it is outstanding. -/
  | change {s : System ω} {n : Nat} {w : ω} (h : b.Paced tell s n) (hw : b.sound w) :
      b.Paced tell { s with host := w } (n + 1)
  /-- A report is delivered. -/
  | deliver {s : System ω} {n : Nat} (h : b.Paced tell s (n + 1)) :
      b.Paced tell ((Arbiter.on host tell).receiveReport.final s) n
  /-- The arbiter is called. -/
  | serve {s : System ω} {n : Nat} (h : b.Paced tell s n) (r : Request)
      (hpaced : ¬ (b.books s).Outruns r)
      (hended : ∀ user change, r = .update user change →
        ((Arbiter.on host tell).serve r).fault? s = none) :
      b.Paced tell (((Arbiter.on host tell).serve r).final s) n

/-- A run at a pace is a run with delayed reports. -/
theorem Boundary.Paced.delayed (h : b.Paced tell s n) : b.Delayed tell s n := by
  induction h with
  | start hw h => exact .start hw h
  | drift _ hw hledger ih => exact ih.drift hw hledger
  | change _ hw ih => exact ih.change hw
  | deliver _ ih => exact ih.deliver
  | serve _ r _ _ ih => exact ih.serve r

/-- What is held is asked for by the record known of the user tracked. -/
def Boundary.Asked (b : Boundary host) (s : System ω) : Prop :=
  ∀ g, s.memory.geolocation = some g → (b.books s).Locates

variable (hquiet : ∀ id, b.Quiet (.none b) (tell id))
include hquiet

theorem Boundary.Asked.receiveReport (h : b.Asked s) (hs : b.sound s.host) :
    b.Asked ((Arbiter.on host tell).receiveReport.final s) := by
  intro g hg
  obtain ⟨-, hbooks⟩ :=
    (b.holds_receiveReport (b.hears_quiet hquiet (· = (b.books s).report)) hs rfl).final
  obtain ⟨hheld, hspared⟩ := (b.outlasts_receiveReport hquiet hs).final.2 g hg
  rw [hbooks]
  exact (h g hheld).report hspared

/-- After an update at a pace, what is held is still asked for. -/
theorem Boundary.Asked.update (h : b.Asked s) (hs : b.sound s.host) (hfiled : (b.books s).Filed)
    {user : Int} {change : ConfigurationChange}
    (hpaced : ¬ (b.books s).Outruns (.update user change))
    (hended : ((Arbiter.on host tell).serve (.update user change)).fault? s = none) :
    ∀ g,
      (((Arbiter.on host tell).serve (.update user change)).final s).memory.geolocation = some g →
      ((b.books s).update user change).Locates := by
  intro g hg
  have hspared : ((Arbiter.on host tell).serve (.update user change)).Ends s
      (fun _ => b.Spared s ((b.books s).SparedByUpdate user change)) fun _ _ => True :=
    (b.spared_update hquiet hs (hfiled.kept user)).bind fun _ _ h => Effect.Ends.pure h
  obtain ⟨-, -, hend⟩ := hspared.answered hended
  obtain ⟨hheld, hspared⟩ := hend g hg
  exact (h g hheld).update hfiled hspared hpaced

omit hquiet in
/-- What is taken at a pace is asked for by the user tracked. -/
theorem Boundary.Asked.geo (h : b.Asked s) (hs : b.sound s.host) {suggestion : GeoSuggestion}
    (hpaced : ¬ (b.books s).Outruns (.geo suggestion)) :
    ∀ g, (((Arbiter.on host tell).serve (.geo suggestion)).final s).memory.geolocation = some g →
      ((b.books s).load (b.books s).ledger.currentUser).Locates := by
  intro g hg
  by_cases hasks : ((b.books s).kept (b.books s).ledger.currentUser).geoBehavior = true
  · by_cases htracked : (b.books s).trackedUser = (b.books s).ledger.currentUser
    · exact ⟨_, if_pos htracked, hasks⟩
    · refine Books.Locates.load (Classical.byContradiction fun hnot => hpaced ?_) _
      exact ⟨htracked, hasks, hnot⟩
  · obtain ⟨hheld, -⟩ := (b.outlasts_suggestGeo suggestion hs hasks).final.2 g hg
    exact (h g hheld).load _

omit hquiet in
theorem Boundary.Asked.other (h : b.Asked s) (hs : b.sound s.host) {r : Request}
    (hgeo : ∀ g, r ≠ .geo g) (hupdate : ∀ user change, r ≠ .update user change) :
    ∀ g, (((Arbiter.on host tell).serve r).final s).memory.geolocation = some g →
      ((b.books s).serve r).Locates := by
  intro g hg
  have hkeeps : b.KeepsLocation ((Arbiter.on host tell).serve r) :=
    b.keepsLocation_serve hgeo hupdate
  obtain ⟨-, hsame⟩ := (hkeeps s.memory.geolocation).final ⟨hs, rfl⟩
  exact (h g (hsame ▸ hg)).serve hupdate

/-- In a run at a pace, what is held is asked for by the user tracked. -/
theorem Boundary.Paced.asked (h : b.Paced tell s n) : b.Asked s := by
  induction h with
  | @start w w' changes m hw hstart =>
      intro g hg
      obtain ⟨rfl, -⟩ := b.of_start hw hstart
      cases hg
  | drift _ _ _ ih => exact ih
  | change _ _ ih => exact ih
  | deliver h ih => exact ih.receiveReport hquiet (h.delayed.kept (.innermost hquiet)).1
  | @serve s n h r hpaced hended ih =>
      intro g hg
      obtain ⟨hs, hfiled, -⟩ := h.delayed.kept (.innermost hquiet)
      obtain ⟨-, hbooks⟩ := (b.holds_serve (b.hears_quiet hquiet (· = (b.books s).serve r)) r hs
        hfiled rfl).final
      rw [hbooks]
      cases r with
      | geo suggestion => exact ih.geo hs hpaced g hg
      | update user change => exact ih.update hquiet hs hfiled hpaced (hended _ _ rfl) g hg
      | _ => exact ih.other hs (by simp) (by simp) g hg

/-- **Suggestions that linger.** The host may change records and switch users at any time, and
reports of it may be delivered at any later time. As long as no call outruns a report, a suggestion
is held only while the record known of the user tracked asks for one; so with no report
outstanding, the current user's record on the host is one that detects by location. -/
theorem located_when_delivered (h : b.Paced tell s n) {g : GeoSuggestion}
    (hheld : s.memory.geolocation = some g) :
    (∃ c, s.memory.records.peek s.memory.trackedUser = some c ∧ c.mode = .autoGeo) ∧
      (n = 0 → (b.ledger s.host).inEffect.mode = .autoGeo) := by
  obtain ⟨c, hc, hgeo⟩ := h.asked hquiet g hheld
  refine ⟨⟨c, hc, c.mode_eq_autoGeo_iff.mpr hgeo⟩, fun hdelivered => ?_⟩
  obtain ⟨-, -, hstep⟩ := h.delayed.kept (.innermost hquiet)
  obtain ⟨htracked, hknown⟩ := hstep hdelivered
  rw [htracked] at hc
  have hsame : c = (b.ledger s.host).inEffect := hknown hc
  rw [← hsame]
  exact c.mode_eq_autoGeo_iff.mpr hgeo

end Paced

/-! ### Suggestions that linger -/

namespace Session

/-- An arbiter on the device of a session, to which nobody listens. -/
def unheard : Arbiter World := .on World.host fun _ => pure ()

/-- The device has changed, and the arbiter has not heard of it. -/
def unreported (s : System World) (f : Device → Device) : System World :=
  { s with host := { s.host with device := f s.host.device } }

/-- The arbiter has heard of all changes. -/
def delivered (s : System World) : Nat → System World
  | 0 => s
  | n + 1 => delivered (unheard.receiveReport.final s) n

theorem quiet_unheard (k : Marking boundary) (id : Arbiter.ListenerId) :
    boundary.Quiet k (unheard.callListener id) := fun _ hs => .pure hs ()

theorem delayed_unreported {s : System World} {n : Nat}
    (h : boundary.Delayed unheard.callListener s n) {f : Device → Device}
    (hf : ∀ d, d.Filed → (f d).Filed) :
    boundary.Delayed unheard.callListener (unreported s f) (n + 1) := by
  have hs : s.host.Sound := (h.kept (.innermost (quiet_unheard _))).1
  refine .change h ?_
  exact ⟨hf _ hs.filed, hs.reports, hs.currentUser, hs.configurationOf, hs.storeConfiguration⟩

theorem delayed_delivered {s : System World} {n : Nat}
    (h : boundary.Delayed unheard.callListener s n) :
    boundary.Delayed unheard.callListener (delivered s n) 0 := by
  induction n generalizing s with
  | zero => exact h
  | succ n ih => exact ih h.deliver

/-- User 1 detects nothing, user 2 by location. -/
def shared : System World := Setup.opening ⟨1, true, true, false, true, false⟩ none

/-- A suggestion comes while user 2 is in the foreground for a moment. -/
def passedOn : System World :=
  let away := unreported shared (·.switch ⟨2, true, true, true, true, true⟩)
  let suggested := (unheard.serve (.geo ⟨some ["Europe/Paris"], []⟩)).final away
  delivered (unreported suggested (·.switch ⟨1, true, true, false, true, false⟩)) 2

/-- User 1 detects by location, and a suggestion was taken. -/
def followed : System World :=
  (unheard.serve (.geo ⟨some ["Europe/Paris"], []⟩)).final
    (Setup.opening ⟨1, true, true, true, true, true⟩ none)

/-- User 1 gives location up on the device, and while user 2 is in the foreground for a moment, with
the arbiter as well. -/
def givenUp : System World :=
  let changed := unreported followed fun d => (d.replace ⟨1, true, true, true, true, false⟩).2
  let away := unreported changed (·.switch ⟨2, true, true, true, true, true⟩)
  let updated := (unheard.serve (.update 1 ⟨none, some false⟩)).final away
  delivered (unreported updated (·.switch ⟨1, true, true, true, true, false⟩)) 3

end Session

open Session (World unheard unreported delivered)

/-- User 2 is in the foreground, and the report of it is delivered before the suggestion comes. -/
theorem located_when_delivered_in_time :
    let switched := unreported Session.shared (·.switch ⟨2, true, true, true, true, true⟩)
    let s := (unheard.serve (.geo ⟨some ["Europe/Paris"], []⟩)).final (delivered switched 1)
    s.memory.geolocation = some ⟨some ["Europe/Paris"], []⟩ ∧
      (Session.boundary.ledger s.host).inEffect.mode = .autoGeo := by
  intro switched s
  have hopening : Session.shared.host.Sound := .of_unrigged (Device.filed_start _ _) rfl
  have hswitched : switched.host.Sound :=
    .of_unrigged (hopening.filed.switch ⟨2, true, true, true, true, true⟩) rfl
  have hstart : Session.boundary.Paced unheard.callListener Session.shared 0 := .start hopening rfl
  have hheld : s.memory.geolocation = some ⟨some ["Europe/Paris"], []⟩ := by decide +kernel
  have hreached : Session.boundary.Paced unheard.callListener s 0 := by
    refine .serve (.deliver (.change hstart hswitched)) _ (fun houtruns => houtruns.1 ?_) nofun
    decide +kernel
  exact ⟨hheld, (located_when_delivered (Session.quiet_unheard _) hreached hheld).2 rfl⟩

/-- **A suggestion that outran a report.** User 2 came and went, and all reports of it have been
delivered. The suggestion that was meant for user 2 is held, and user 1 detects nothing. -/
theorem lingers_after_suggestion :
    Session.boundary.Delayed unheard.callListener Session.passedOn 0 ∧
      Session.passedOn.memory.geolocation = some ⟨some ["Europe/Paris"], []⟩ ∧
      (Session.boundary.ledger Session.passedOn.host).inEffect.mode = .off := by
  have hopening : Session.shared.host.Sound := .of_unrigged (Device.filed_start _ _) rfl
  have hstart : Session.boundary.Delayed unheard.callListener Session.shared 0 :=
    .start hopening rfl
  have haway := Session.delayed_unreported hstart fun d hd =>
    hd.switch ⟨2, true, true, true, true, true⟩
  have hback := Session.delayed_unreported (haway.serve (.geo ⟨some ["Europe/Paris"], []⟩))
    fun d hd => hd.switch ⟨1, true, true, false, true, false⟩
  exact ⟨Session.delayed_delivered hback, by decide +kernel, by decide +kernel⟩

/-- **An update that outran a report.** User 1 has given location up on both sides, and all reports
have been delivered. The suggestion is held, and user 1 detects by telephony. -/
theorem lingers_after_update :
    Session.boundary.Delayed unheard.callListener Session.givenUp 0 ∧
      Session.givenUp.memory.geolocation = some ⟨some ["Europe/Paris"], []⟩ ∧
      (Session.boundary.ledger Session.givenUp.host).inEffect.mode = .autoTelephony := by
  have hopening : (Session.Setup.opening ⟨1, true, true, true, true, true⟩ none).host.Sound :=
    .of_unrigged (Device.filed_start _ _) rfl
  have hstart : Session.boundary.Delayed unheard.callListener
      (Session.Setup.opening ⟨1, true, true, true, true, true⟩ none) 0 := .start hopening rfl
  have hchanged := Session.delayed_unreported (hstart.serve (.geo ⟨some ["Europe/Paris"], []⟩))
    fun d hd => hd.replace ⟨1, true, true, true, true, false⟩
  have haway := Session.delayed_unreported hchanged fun d hd =>
    hd.switch ⟨2, true, true, true, true, true⟩
  have hback := Session.delayed_unreported (haway.serve (.update 1 ⟨none, some false⟩))
    fun d hd => hd.switch ⟨1, true, true, true, true, false⟩
  exact ⟨Session.delayed_delivered hback, by decide +kernel, by decide +kernel⟩

end ZoneArbiter
