import ZoneArbiter.Proofs.Boundary.Books
import ZoneArbiter.Proofs.Boundary.InMemory
import ZoneArbiter.Proofs.CalmSession
import ZoneArbiter.Proofs.Reentry

/-!
# ZoneArbiter.Proofs.Delay

**The arbiter is in step with its host whenever no report is outstanding**
(`in_step_when_delivered`). The host may change records and switch users at any time, and each
such change leaves a report to be delivered at some later time (`Boundary.Delayed`). While one is
outstanding the arbiter works on records that may be out of date, and merges changes into them.
None of this matters once the last report is delivered: a report takes up who is current and that
user's record, before it does anything that can fail.

Two properties of the books carry this. Every record is filed under the user that it names
(`Books.Filed`), always; without it an update of one user could replace another's record. And
arbiter and host agree on the current user (`Books.InStep`), as long as nothing is outstanding.
An update breaks the agreement in the middle, and the host's merge of the same change brings it
back.

Listeners may raise, and they may call the arbiter again, to any depth (`Boundary.Layered`).
-/

namespace ZoneArbiter

open Arbiter (ListenerId Request)

/-- The books after a call. -/
def Books.serve (β : Books) : Request → Books
  | .current | .telephony _ | .geo _ | .status .. => β.load β.ledger.currentUser
  | .capabilities user | .manual user _ => β.load user
  | .update user change => β.update user change
  | .latestTelephony _ | .latestGeo | .best | .addListener _ | .addAppendix _ => β

/-! ### Books in order -/

/-- Every record is filed under the user that it names. -/
structure Books.Filed (β : Books) : Prop where
  ledger : ∀ user, (β.ledger.recordOf user).user = user
  known : ∀ {user c}, β.known user = some c → c.user = user

/-- The arbiter tracks the current user, and has no other record of that user than the
ledger. -/
structure Books.InStep (β : Books) : Prop where
  tracked : β.trackedUser = β.ledger.currentUser
  known : ∀ {c}, β.known β.ledger.currentUser = some c → c = β.ledger.inEffect

namespace Books

variable {β : Books} {user : Int} {change : ConfigurationChange}

theorem Filed.kept (h : β.Filed) (user : Int) : (β.kept user).user = user := by
  unfold Books.kept
  cases hknown : β.known user with
  | none => exact h.ledger user
  | some c => exact h.known hknown

theorem Filed.adopt (h : β.Filed) (c : Configuration) : (β.adopt c).Filed where
  ledger := h.ledger
  known := by
    intro v c' hc'
    simp only [Books.adopt] at hc'
    split at hc'
    · rename_i hv
      rw [hv, ← Option.some.inj hc']
    · exact h.known hc'

theorem Filed.load (h : β.Filed) (user : Int) : (β.load user).Filed := by
  have hadopt := h.adopt (β.kept user)
  unfold Books.adopt at hadopt
  rwa [h.kept user] at hadopt

theorem Filed.report (h : β.Filed) : β.report.Filed := by
  have htrack : β.track.Filed := ⟨h.ledger, h.known⟩
  rw [← Books.adopt_track (h.ledger _)]
  exact htrack.adopt _

theorem Filed.persist (h : β.Filed) (user : Int) (change : ConfigurationChange) :
    (β.persist user change).Filed := by
  have hstored : ({ β with ledger := β.ledger.store user change } : Books).Filed := by
    refine ⟨fun v => ?_, h.known⟩
    simp only [Ledger.store]
    split
    · rename_i hv
      rw [hv, Configuration.user_merge, h.ledger]
    · exact h.ledger v
  unfold Books.persist
  dsimp only
  split
  · exact hstored.report
  · exact hstored

theorem Filed.update (h : β.Filed) (user : Int) (change : ConfigurationChange) :
    (β.update user change).Filed := by
  unfold Books.update
  split
  · exact h.load user
  · exact ((h.load user).adopt _).persist user change

theorem Filed.serve (h : β.Filed) (r : Request) : (β.serve r).Filed := by
  cases r with
  | current | telephony | geo | status => exact h.load _
  | capabilities user | manual user => exact h.load user
  | update user change => exact h.update user change
  | latestTelephony | latestGeo | best | addListener | addAppendix => exact h

/-- The record that the arbiter goes by for the current user is the ledger's. -/
theorem InStep.kept (h : β.InStep) : β.kept β.ledger.currentUser = β.ledger.inEffect := by
  unfold Books.kept
  cases hknown : β.known β.ledger.currentUser with
  | none => rfl
  | some known => exact h.known hknown

theorem InStep.load (h : β.InStep) (user : Int) : (β.load user).InStep where
  tracked := h.tracked
  known := by
    intro c hc
    simp only [Books.load] at hc
    split at hc
    · rename_i hcurrent
      rw [← Option.some.inj hc, ← hcurrent]
      exact h.kept
    · exact h.known hc

/-- A report brings them in step, wherever they were. -/
theorem inStep_report (β : Books) : β.report.InStep where
  tracked := rfl
  known := by
    intro c hc
    simp only [Books.report, if_true] at hc
    exact (Option.some.inj hc).symm

/-- **An update keeps them in step.** Arbiter and host merge the same change into the same
record, or the user is in the background. -/
theorem InStep.update (h : β.InStep) (hfiled : β.Filed) (user : Int)
    (change : ConfigurationChange) : (β.update user change).InStep := by
  unfold Books.update
  cases hgrant : (β.kept user).grant? change with
  | none => exact h.load user
  | some new =>
      have hnew : (β.kept user).merge change = new := Configuration.merge_of_grant hgrant
      have howner : new.user = user := by rw [← hnew, Configuration.user_merge, hfiled.kept]
      unfold Books.persist
      dsimp only
      split
      · exact inStep_report _
      · refine ⟨h.tracked, fun {c} hc => ?_⟩
        simp only [Books.adopt, Ledger.store, howner] at hc
        show c = if β.ledger.currentUser = user then (β.ledger.recordOf user).merge change
          else β.ledger.inEffect
        by_cases hcurrent : β.ledger.currentUser = user
        · rw [if_pos (show (β.load user).ledger.currentUser = user from hcurrent)] at hc
          subst hcurrent
          rw [if_pos rfl, ← Option.some.inj hc, ← hnew, h.kept]
          rfl
        · rw [if_neg (show (β.load user).ledger.currentUser ≠ user from hcurrent)] at hc
          rw [if_neg hcurrent]
          exact (h.load user).known hc

/-- Persisting is reported if it alters a record, and else the ledger is what it was. -/
theorem InStep.persist (h : β.InStep) (user : Int) (change : ConfigurationChange) :
    (β.persist user change).InStep := by
  unfold Books.persist
  dsimp only
  split
  · exact inStep_report _
  · rename_i hsame
    have hledger : β.ledger.store user change = β.ledger := by
      have hmerged : (β.ledger.recordOf user).merge change = β.ledger.recordOf user := by
        simpa [Ledger.alters] using hsame
      simp only [Ledger.store, hmerged]
      congr 1
      funext v
      split
      · rename_i hv
        rw [hv]
      · rfl
    rwa [hledger]

theorem InStep.serve (h : β.InStep) (hfiled : β.Filed) (r : Request) : (β.serve r).InStep := by
  cases r with
  | current | telephony | geo | status => exact h.load _
  | capabilities user | manual user => exact h.load user
  | update user change => exact h.update hfiled user change
  | latestTelephony | latestGeo | best | addListener | addAppendix => exact h

end Books

/-! ### Calls and listeners -/

section Serve

variable {ω : Type} {host : Arbiter.Host ω} {tell : ListenerId → Effect ω Unit}
  {b : Boundary host} {k : Marking b} {s : System ω}
  {K : Books → Prop}

/-- What is said of a move to a zone that a call from books `β` makes, with the memory at that
moment. -/
def Books.Moves (β : Books) (K : Books → Prop) : Request → String → Arbiter.Memory → Prop
  | .update user change, zone, m => β.UpdateMoves K user change zone m
  | .manual _ pick, zone, _ => zone = pick.zone
  | .telephony _, zone, m | .geo _, zone, m =>
      Grounds m none zone (β.kept β.ledger.currentUser).mode
  | _, _, _ => False

/-- A call takes the books where it is to take them, and moves as it is to move. -/
theorem Boundary.holds_serve (hears : b.Hears k K tell) (r : Request)
    (hs : b.sound s.host) (hfiled : (b.books s).Filed) (hK : K ((b.books s).serve r)) :
    b.Holds k K (fun zone s' => (b.books s).Moves K r zone s'.memory)
      ((Arbiter.on host tell).serve r) s := by
  have hdone {α : Type} {e : Effect ω α} {P : String → System ω → Prop} (h : b.Holds k K P e s) :
      b.Holds k K P (e >>= fun _ => pure ()) s :=
    h.bind fun _ _ hs' hK' => .pure hs' hK' ()
  have hread {α : Type} {e : Effect ω α} {Q : α → System ω → Prop}
      (h : Effect.Ends e s Q fun _ _ => False)
      (hQ : ∀ c s', Q c s' → b.sound s'.host ∧ K (b.books s')) :
      b.Holds k K (fun _ _ => False) e s :=
    h.mono hQ fun _ _ h => h.elim
  cases r with
  | current =>
      exact hdone (hread (b.currentRecord_ends hs) fun _ _ h => ⟨h.2.1, h.2.2.symm ▸ hK⟩)
  | capabilities user =>
      refine hdone (P := fun _ _ => False) (.after (b.recordOf_ends user hs) ?_)
      rintro _ s' ⟨rfl, hs', hbooks⟩
      exact .pure hs' (hbooks.symm ▸ hK) _
  | update user change => exact hdone (b.holds_update hears user change (hfiled.kept user) hs hK)
  | manual user pick => exact hdone (b.holds_suggestManual user pick hs hK)
  | telephony suggestion => exact b.holds_suggestTelephony suggestion hs hK
  | geo suggestion => exact b.holds_suggestGeo suggestion hs hK
  | latestTelephony slot => exact hdone (b.holds_latestTelephony slot hs hK)
  | latestGeo | best => exact hdone (P := fun _ _ => False) (.memory (.pure hs hK _))
  | addListener | addAppendix => exact Effect.Ends.of_ok rfl ⟨hs, hK⟩
  | status args page => exact hdone (b.holds_overview args page hs hK)

/-- What a listener may do at a time: something quiet, or a call of an arbiter on the same host. -/
inductive Boundary.Asks (b : Boundary host) (tell : ListenerId → Effect ω Unit) :
    {α : Type} → Effect ω α → Prop
  | quiet {α : Type} {e : Effect ω α} (h : b.Quiet (Marking.none b) e) : b.Asks tell e
  | serve (r : Request) : b.Asks tell ((Arbiter.on host tell).serve r)

/-- Listeners that call an arbiter with the same host, whose listeners are layered in turn. The
innermost call nobody. -/
def Boundary.Layered (b : Boundary host) : (ListenerId → Effect ω Unit) → Prop :=
  ZoneArbiter.Layered (fun tell => ∀ id, b.Quiet (Marking.none b) (tell id))
    fun inner tell => ∀ id, Effect.MadeOf (b.Asks inner) (tell id)

/-- The books are in order, and where `p` holds, in step. -/
def Books.Kept (p : Prop) (β : Books) : Prop := β.Filed ∧ (p → β.InStep)

theorem Books.Kept.serve {p : Prop} {β : Books} (h : β.Kept p) (r : Request) :
    (β.serve r).Kept p :=
  ⟨h.1.serve r, fun hp => (h.2 hp).serve h.1 r⟩

/-- Whatever a listener does at a time leaves a sound state, and the books as they are kept. -/
theorem Boundary.Asks.keeps {p : Prop} (hears : b.Hears (Marking.none b) (Books.Kept p) tell)
    {α : Type} {e : Effect ω α} (h : b.Asks tell e) :
    e.Keeps fun s => b.sound s.host ∧ (b.books s).Kept p := by
  rintro s ⟨hs, hK⟩
  cases h with
  | quiet h => exact (Holds.of_quiet (P := fun _ _ => True) h hs hK).mono_error fun _ _ h => h.1
  | serve r => exact (b.holds_serve hears r hs hK.1 (hK.serve r)).mono_error fun _ _ h => h.1

/-- Layered listeners keep the books in order, and in step. -/
theorem Boundary.Layered.hears (h : b.Layered tell) (p : Prop) :
    b.Hears (Marking.none b) (Books.Kept p) tell := by
  refine ZoneArbiter.Layered.holds h (fun tell hquiet id s hs hK => .of_quiet (hquiet id) hs hK) ?_
  intro inner tell hasks hinner id s hs hK
  have hkeeps := (hasks id).keeps fun h => h.keeps hinner
  exact (hkeeps s ⟨hs, hK⟩).mono_error fun _ _ h => ⟨h, fun _ hnone => nomatch hnone⟩

end Serve

/-! ### Delayed reports -/

section Delayed

variable {ω : Type} {host : Arbiter.Host ω} {tell : ListenerId → Effect ω Unit}

/-- The systems that can be reached, with the number of reports outstanding. -/
inductive Boundary.Delayed (b : Boundary host) (tell : ListenerId → Effect ω Unit) :
    System ω → Nat → Prop
  /-- The arbiter asks who is current when it starts. -/
  | start {w w' : ω} {changes : ChangeLog} {m : Arbiter.Memory} (hw : b.sound w)
      (h : Arbiter.start host changes w = .ok m w') : b.Delayed tell ⟨m, w'⟩ 0
  /-- The host changes, but not who is current or a record. -/
  | drift {s : System ω} {n : Nat} {w : ω} (h : b.Delayed tell s n) (hw : b.sound w)
      (hledger : b.ledger w = b.ledger s.host) : b.Delayed tell { s with host := w } n
  /-- The host changes in any way, and a report of it is outstanding. -/
  | change {s : System ω} {n : Nat} {w : ω} (h : b.Delayed tell s n) (hw : b.sound w) :
      b.Delayed tell { s with host := w } (n + 1)
  /-- A report is delivered. -/
  | deliver {s : System ω} {n : Nat} (h : b.Delayed tell s (n + 1)) :
      b.Delayed tell ((Arbiter.on host tell).receiveReport.final s) n
  /-- The arbiter is called. -/
  | serve {s : System ω} {n : Nat} (h : b.Delayed tell s n) (r : Request) :
      b.Delayed tell (((Arbiter.on host tell).serve r).final s) n

variable {b : Boundary host} {s : System ω} {n : Nat}

theorem Boundary.Holds.final {α : Type} {e : Effect ω α} {k : Marking b} {K : Books → Prop}
    {P : String → System ω → Prop} (h : b.Holds k K P e s) :
    b.sound (e.final s).host ∧ K (b.books (e.final s)) :=
  Effect.Ends.final h (fun _ _ hend => hend) fun _ _ hend => hend.1

/-- An arbiter starts with nothing but who is current. -/
theorem Boundary.of_start (b : Boundary host) {w w' : ω} {changes : ChangeLog}
    {m : Arbiter.Memory} (hw : b.sound w) (h : Arbiter.start host changes w = .ok m w') :
    m = .fresh changes (b.ledger w').currentUser ∧ b.sound w' := by
  obtain ⟨w₁, hrun, hsound, hledger⟩ := b.currentUser hw
  have hstarted : Arbiter.start host changes w =
      .ok (Arbiter.Memory.fresh changes (b.ledger w).currentUser) w₁ := by
    show EStateM.bind host.currentUser _ w = _
    rw [EStateM.bind, hrun]
    rfl
  obtain ⟨rfl, rfl⟩ := EStateM.Result.ok.inj (hstarted.symm.trans h)
  exact ⟨by rw [hledger], hsound⟩

/-- The books of every system that can be reached are in order, and in step if nothing is
outstanding. -/
theorem Boundary.Delayed.kept (hlayered : b.Layered tell) (h : b.Delayed tell s n) :
    b.sound s.host ∧ (b.books s).Kept (n = 0) := by
  induction h with
  | @start w w' changes m hw hstart =>
      obtain ⟨rfl, hsound⟩ := b.of_start hw hstart
      exact ⟨hsound, ⟨fun user => b.own user hsound, nofun⟩, fun _ => ⟨rfl, nofun⟩⟩
  | @drift s n w h hw hledger ih =>
      have hbooks : b.books { s with host := w } = b.books s := Books.ext hledger rfl rfl
      exact ⟨hw, hbooks ▸ ih.2⟩
  | @change s n w h hw ih =>
      obtain ⟨-, hfiled, -⟩ := ih
      exact ⟨hw, ⟨fun user => b.own user hw, hfiled.known⟩, nofun⟩
  | @deliver s n h ih =>
      obtain ⟨hs, hfiled, -⟩ := ih
      have hreport := b.holds_receiveReport (hlayered.hears True) hs
        ⟨hfiled.report, fun _ => Books.inStep_report _⟩
      exact ⟨hreport.final.1, hreport.final.2.1, fun _ => hreport.final.2.2 trivial⟩
  | @serve s n h r ih =>
      obtain ⟨hs, hkept⟩ := ih
      exact (b.holds_serve (hlayered.hears _) r hs hkept.1 (hkept.serve r)).final

/-- **In step.** Whatever the host does between the calls, whatever listeners call, and whatever
fails on the way: when no report is outstanding, the arbiter tracks the current user, and has no
other record of that user than the host. -/
theorem in_step_when_delivered (hlayered : b.Layered tell) (h : b.Delayed tell s 0) :
    s.memory.trackedUser = (b.ledger s.host).currentUser ∧
      ∀ c, s.memory.records.peek (b.ledger s.host).currentUser = some c →
        c = (b.ledger s.host).recordOf (b.ledger s.host).currentUser := by
  obtain ⟨-, -, hstep⟩ := h.kept hlayered
  obtain ⟨htracked, hknown⟩ := hstep rfl
  exact ⟨htracked, fun c hc => hknown hc⟩

end Delayed

open Session (World)

/-- An arbiter on the device of a session, with listeners that fail. -/
def Session.failing : Arbiter World := .on World.host fun _ => throw (.reported "no answer")

theorem Session.layered_failing : Session.boundary.Layered Session.failing.callListener :=
  .innermost fun _ _ hs => ⟨.refl hs, fun _ hzone => nomatch hzone⟩

/-- User 2 comes to the foreground, and the report of it ends in a listener's fault. The arbiter
has taken up user 2 all the same. -/
theorem in_step_when_delivered_failing :
    let opening := Session.Setup.opening ⟨1, true, true, false, true, false⟩ none
    let s := (Session.failing.serve (.addListener 0)).final opening
    let switched := { s with host := { s.host with
      device := s.host.device.switch ⟨2, true, true, true, true, false⟩ } }
    let reported := Session.failing.receiveReport.final switched
    Session.failing.receiveReport.fault? switched = some (.reported "no answer") ∧
      switched.memory.trackedUser = 1 ∧ reported.memory.trackedUser = 2 ∧
        reported.memory.records.peek 2 = some ⟨2, true, true, true, true, false⟩ := by
  intro opening s switched reported
  have hopening : opening.host.Sound := .of_unrigged (Device.filed_start _ _) rfl
  have hswitched : switched.host.Sound :=
    .of_unrigged (hopening.filed.switch ⟨2, true, true, true, true, false⟩) rfl
  have hstart : Session.boundary.Delayed Session.failing.callListener opening 0 :=
    .start hopening rfl
  have hreached : Session.boundary.Delayed Session.failing.callListener reported 0 :=
    .deliver (.change (hstart.serve (.addListener 0)) hswitched)
  obtain ⟨htracked, hknown⟩ := in_step_when_delivered Session.layered_failing hreached
  have hcurrent : (Session.boundary.ledger reported.host).currentUser = 2 := by decide +kernel
  have hrecord : (Session.boundary.ledger reported.host).recordOf 2 =
      ⟨2, true, true, true, true, false⟩ := by decide +kernel
  have hloaded : (reported.memory.records.peek 2).isSome = true := by decide +kernel
  obtain ⟨c, hpeek⟩ := Option.isSome_iff_exists.mp hloaded
  rw [hcurrent] at htracked hknown
  refine ⟨by decide +kernel, rfl, htracked, ?_⟩
  rw [hpeek, hknown c hpeek, hrecord]

end ZoneArbiter
