import ZoneArbiter.Proofs.Delay
import ZoneArbiter.Proofs.Scene.Calls

/-!
# ZoneArbiter.Proofs.Superseded

**Detection goes by the record that the arbiter holds of the current user, unless an update was
overtaken** (`detection_by_held_record`).

An update is granted a record, and carries it across the call that persists the change. The host
merges the change into the record that it has by then. If it has changed that record without a
report, the two merges may differ, and the report that it makes at once puts its own merge in the
place of the granted record. The update then goes on to detect by the record that it was granted:
the device is moved although the record held says that detection is off (`moved_while_off`).

That takes an outstanding report. A listener that calls the arbiter again brings it about without
one, between the moment at which a call takes its record and the detection at its end
(`moved_while_off_by_listener`). So reports and updates are taken with quiet listeners here. All
other calls have no listeners to call.

The moment of a move is the state in which the host refuses it, by a fault that names the zone
(`Marking`). A host may refuse whichever move it likes.
-/

namespace ZoneArbiter

open Arbiter (ListenerId Request)

/-- The update is overtaken: it is one of the current user, and the host merges the change into a
record with another mode than the arbiter does. -/
structure Books.Overtaken (β : Books) (user : Int) (change : ConfigurationChange) : Prop where
  current : user = β.ledger.currentUser
  altered : β.ledger.alters user change = true
  apart : ((β.ledger.recordOf user).merge change).mode ≠ ((β.kept user).merge change).mode

/-- As long as arbiter and host are in step, they merge alike. -/
theorem Books.InStep.not_overtaken {β : Books} (h : β.InStep) (user : Int)
    (change : ConfigurationChange) : ¬ β.Overtaken user change := by
  intro hovertaken
  obtain ⟨rfl, -, hapart⟩ := hovertaken
  rw [h.kept] at hapart
  exact hapart rfl

namespace Books

variable {β : Books} {user : Int} {change : ConfigurationChange} {new : Configuration}

@[simp] theorem currentUser_update :
    (β.update user change).ledger.currentUser = β.ledger.currentUser := by
  unfold update persist
  cases (β.kept user).grant? change with
  | none => rfl
  | some new =>
      dsimp only
      split <;> rfl

/-- An update that alters a record is reported, and the report puts the host's record in the place
of the one that was granted. -/
theorem known_update_of_alters (hgrant : (β.kept user).grant? change = some new)
    (halters : β.ledger.alters user change = true) :
    (β.update user change).known β.ledger.currentUser =
      some (β.ledger.store user change).inEffect := by
  unfold update persist
  rw [hgrant]
  dsimp only
  rw [if_pos (show ((β.load user).adopt new).ledger.alters user change = true from halters)]
  exact if_pos rfl

/-- Any other leaves the one that was granted. -/
theorem known_update_of_not_alters (hgrant : (β.kept user).grant? change = some new)
    (howner : new.user = user) (halters : ¬ β.ledger.alters user change = true) :
    (β.update user change).known user = some new := by
  unfold update persist
  rw [hgrant]
  dsimp only
  rw [if_neg (show ¬ ((β.load user).adopt new).ledger.alters user change = true from halters)]
  exact if_pos howner.symm

end Books

section Held

variable {ω α : Type} {host : Arbiter.Host ω} {tell : ListenerId → Effect ω Unit}
  {b : Boundary host} {k : Marking b} {s s' : System ω}
  {β : Books} {P : String → System ω → Prop} {e : Effect ω α} {f : Fault} {zone : String}

/-- The record that the arbiter holds of the current user names the mode on the grounds of which
the device is moved to the zone. -/
def Boundary.Held (b : Boundary host) (zone : String) (s : System ω) : Prop :=
  ∃ c, s.memory.records.peek (b.ledger s.host).currentUser = some c ∧
    Grounds s.memory none zone c.mode

theorem Boundary.held_of_books {user : Int} {c : Configuration} (hbooks : b.books s = β)
    (hcurrent : β.ledger.currentUser = user) (hknown : β.known user = some c)
    (hgrounds : Grounds s.memory none zone c.mode) : b.Held zone s := by
  subst hbooks hcurrent
  exact ⟨c, hknown, hgrounds⟩

/-- The effect stops in a move, so it does so as it was said to. -/
theorem Boundary.Holds.moved {K : Books → Prop} (h : b.Holds k K P e s)
    (hfault : e.fault? s = some f) (hzone : k.zoneOf f = some zone) :
    K (b.books (e.final s)) ∧ P zone (e.final s) := by
  obtain ⟨⟨-, hK⟩, hmoved⟩ := Effect.Ends.failed h hfault
  exact ⟨hK, hmoved zone hzone⟩

/-- Where an update moves the device, the record held afterwards names the mode, unless the update
was overtaken. -/
theorem Boundary.held_of_update {user : Int} {change : ConfigurationChange}
    (hfiled : (b.books s).Filed) (hbooks : b.books s' = (b.books s).update user change)
    (hmoves : (b.books s).UpdateMoves (· = (b.books s).update user change) user change zone
      s'.memory) :
    b.Held zone s' ∨ (b.books s).Overtaken user change ∧
      Grounds s'.memory none zone (((b.books s).kept user).merge change).mode := by
  obtain ⟨new, hgrant, hgrounds⟩ := hmoves
  have hnew : ((b.books s).kept user).merge change = new := Configuration.merge_of_grant hgrant
  by_cases halters : (b.books s).ledger.alters user change = true
  · have hknown := Books.known_update_of_alters hgrant halters
    obtain ⟨-, hgrounds⟩ | ⟨⟨_, rfl, hcurrent⟩, hgrounds⟩ := hgrounds
    · exact .inl (b.held_of_books hbooks Books.currentUser_update hknown hgrounds)
    · rw [Books.currentUser_update] at hcurrent
      have hmerged : ((b.books s).ledger.store user change).inEffect =
          ((b.books s).ledger.recordOf user).merge change := if_pos hcurrent.symm
      by_cases hmode : (((b.books s).ledger.recordOf user).merge change).mode = new.mode
      · rw [hmerged] at hknown
        rw [← hmode] at hgrounds
        exact .inl (b.held_of_books hbooks Books.currentUser_update hknown hgrounds)
      · rw [← hnew] at hmode hgrounds
        exact .inr ⟨⟨hcurrent, halters, hmode⟩, hgrounds⟩
  · obtain ⟨halters', -⟩ | ⟨⟨_, rfl, hcurrent⟩, hgrounds⟩ := hgrounds
    · exact absurd halters' halters
    · have howner : new.user = user := by rw [← hnew, Configuration.user_merge, hfiled.kept]
      have hknown := Books.known_update_of_not_alters hgrant howner halters
      exact .inl (b.held_of_books hbooks hcurrent.symm hknown hgrounds)

/-- Quiet listeners keep every property of the books. -/
theorem Boundary.hears_quiet (hquiet : ∀ id, b.Quiet k (tell id)) (K : Books → Prop) :
    b.Hears k K tell :=
  fun id _ hs hK => .of_quiet (hquiet id) hs hK

theorem Boundary.held_of_receiveReport (hquiet : ∀ id, b.Quiet k (tell id))
    (hs : b.sound s.host) (hfault : (Arbiter.on host tell).receiveReport.fault? s = some f)
    (hzone : k.zoneOf f = some zone) :
    b.Held zone ((Arbiter.on host tell).receiveReport.final s) := by
  have hholds := b.holds_receiveReport (b.hears_quiet hquiet (· = (b.books s).report)) hs rfl
  obtain ⟨hbooks, hgrounds⟩ := hholds.moved hfault hzone
  exact b.held_of_books hbooks rfl (if_pos rfl) hgrounds

theorem Boundary.held_of_serve (hquiet : ∀ id, b.Quiet k (tell id)) (hs : b.sound s.host)
    (hfiled : (b.books s).Filed) {r : Request}
    (hpick : ∀ user pick, r ≠ .manual user pick)
    (hfault : ((Arbiter.on host tell).serve r).fault? s = some f) (hzone : k.zoneOf f = some zone) :
    b.Held zone (((Arbiter.on host tell).serve r).final s) ∨
      ∃ user change, r = .update user change ∧ (b.books s).Overtaken user change ∧
        Grounds (((Arbiter.on host tell).serve r).final s).memory none zone
          (((b.books s).kept user).merge change).mode := by
  have hholds := b.holds_serve (b.hears_quiet hquiet (· = (b.books s).serve r)) r hs hfiled rfl
  obtain ⟨hbooks, hmoves⟩ := hholds.moved hfault hzone
  cases r with
  | update user change =>
      obtain hheld | hovertaken := b.held_of_update hfiled hbooks hmoves
      · exact .inl hheld
      · exact .inr ⟨user, change, rfl, hovertaken⟩
  | manual user pick => exact absurd rfl (hpick user pick)
  | telephony suggestion => exact .inl (b.held_of_books hbooks rfl (if_pos rfl) hmoves)
  | geo suggestion => exact .inl (b.held_of_books hbooks rfl (if_pos rfl) hmoves)
  | current | capabilities | latestTelephony | latestGeo | best | addListener | addAppendix
  | status => exact hmoves.elim

/-- Only updates call listeners. -/
theorem Arbiter.serve_eq_of_silent {r : Request} (hsilent : ∀ user change, r ≠ .update user change)
    (tell tell' : ListenerId → Effect ω Unit) :
    (Arbiter.on host tell').serve r = (Arbiter.on host tell).serve r := by
  cases r with
  | update user change => exact absurd rfl (hsilent user change)
  | _ => rfl

/-- **Detection goes by the record that is held**, whatever is outstanding: where a call stops in a
move that detection makes, the record that the arbiter holds of the current user names the mode on
the grounds of which it moves. The exception is an update that was overtaken, which moves on the
grounds of what it was granted. A report must be outstanding for that. -/
theorem detection_by_held_record {n : Nat} (hlayered : b.Layered tell)
    (h : b.Delayed tell s n) (hzone : k.zoneOf f = some zone) :
    (∀ r, (∀ user pick, r ≠ .manual user pick) → (∀ user change, r ≠ .update user change) →
      ((Arbiter.on host tell).serve r).fault? s = some f →
      b.Held zone (((Arbiter.on host tell).serve r).final s)) ∧
    ((∀ id, b.Quiet k (tell id)) →
      ((Arbiter.on host tell).receiveReport.fault? s = some f →
        b.Held zone ((Arbiter.on host tell).receiveReport.final s)) ∧
      ∀ user change, ((Arbiter.on host tell).serve (.update user change)).fault? s = some f →
        let s' := ((Arbiter.on host tell).serve (.update user change)).final s
        b.Held zone s' ∨ 0 < n ∧ (b.books s).Overtaken user change ∧
          Grounds s'.memory none zone (((b.books s).kept user).merge change).mode) := by
  obtain ⟨hs, hfiled, hstep⟩ := h.kept hlayered
  refine ⟨fun r hpick hsilent hfault => ?_, fun hquiet => ⟨fun hfault => ?_, ?_⟩⟩
  · -- No listener is called, so listeners might as well do nothing.
    have hsame : (Arbiter.on host fun _ => pure ()).serve r = (Arbiter.on host tell).serve r :=
      Arbiter.serve_eq_of_silent hsilent tell _
    rw [← hsame] at hfault ⊢
    have hidle (id : ListenerId) : b.Quiet k ((fun _ => pure () : _ → Effect ω Unit) id) :=
      fun _ hs => .pure hs ()
    obtain hheld | ⟨user, change, rfl, -⟩ :=
      Boundary.held_of_serve hidle hs hfiled
        hpick hfault hzone
    · exact hheld
    · exact absurd rfl (hsilent user change)
  · exact b.held_of_receiveReport hquiet hs hfault hzone
  · intro user change hfault s'
    obtain hheld | ⟨_, _, hr, hovertaken, hgrounds⟩ :=
      b.held_of_serve hquiet hs hfiled (by simp) hfault hzone
    · exact .inl hheld
    · obtain ⟨rfl, rfl⟩ := Request.update.inj hr
      have hlate : 0 < n := by
        refine Nat.pos_of_ne_zero fun hn => ?_
        exact (hstep hn).not_overtaken user change hovertaken
      exact .inr ⟨hlate, hovertaken, hgrounds⟩

end Held

/-! ### A device that cannot be moved -/

namespace Device

/-- A device in memory with nothing around it, which answers every move with the zone's name. -/
def unmovable : Arbiter.Host Device where
  currentUser d := .ok d.currentUser d
  configurationOf user d := .ok ((d.see user).recordOf user) (d.see user)
  zoneInitialized d := .ok d.zone.isSome d
  deviceZone d := .ok d.zone d
  setDeviceZone zone d := .error (.reported zone) d
  storeConfiguration user change d := .ok (d.store user change).1 (d.store user change).2
  finishStore d := .ok () d
  readClock d := .ok 0 d
  log _ d := d

/-- Its records are filed in order, and no call on them fails. -/
def boundary : Boundary unmovable where
  sound := Filed
  ledger := ledger
  own user h := h.user_recordOf user
  currentUser h := ⟨_, rfl, h, rfl⟩
  configurationOf := by
    intro d user h
    exact ⟨_, congrArg (EStateM.Result.ok · _) (recordOf_see _ _ _), h.see user, d.ledger_see user⟩
  storeConfiguration := by
    intro d user change h
    exact ⟨_, congrArg (EStateM.Result.ok · _) (d.store_due user change), h.store change,
      d.ledger_store user change⟩
  finishStore _ h := ⟨h, rfl⟩
  zoneInitialized _ h := ⟨h, rfl⟩
  deviceZone _ h := ⟨h, rfl⟩
  setDeviceZone _ _ h := ⟨h, rfl⟩
  readClock _ h := ⟨h, rfl⟩
  log _ h := ⟨h, rfl⟩

/-- What a refusal names is the zone. -/
def refusals : Marking boundary where
  zoneOf
    | .reported zone => some zone
    | .noDate _ => none
  setDeviceZone _ _ _ := fun _ hzone => (Option.some.inj hzone).symm
  finishStore _ _ := trivial
  zoneInitialized _ _ := trivial
  deviceZone _ _ := trivial
  readClock _ _ := trivial

end Device

/-- Detection was off when Paris was suggested. Once it is on, the report of that moves the device
there, or would. -/
theorem detection_by_held_record_reported :
    let a : Arbiter Device := .on Device.unmovable fun _ => pure ()
    let d := Device.start ⟨1, true, true, false, true, false⟩ none
    let s := (a.serve (.telephony
      ⟨0, some "Europe/Paris", some .networkCountryOnly, some .singleZone, []⟩)).final
        ⟨.fresh ⟨30, [], Nat.zero_le _⟩ 1, d⟩
    let changed := { s with host := (d.replace ⟨1, true, true, true, true, false⟩).2 }
    let reported := a.receiveReport.final changed
    a.receiveReport.fault? changed = some (.reported "Europe/Paris") ∧
      Device.boundary.Held "Europe/Paris" reported := by
  intro a d s changed reported
  have hd : d.Filed := Device.filed_start _ _
  have hidle (id : Arbiter.ListenerId) {k : Marking Device.boundary} :
      Device.boundary.Quiet k (a.callListener id) := fun _ hs => .pure hs ()
  have hreached : Device.boundary.Delayed a.callListener changed 1 :=
    .change ((Boundary.Delayed.start hd rfl).serve _) (hd.replace _)
  have hfault : a.receiveReport.fault? changed = some (.reported "Europe/Paris") := by
    decide +kernel
  have hzone : Device.refusals.zoneOf (.reported "Europe/Paris") = some "Europe/Paris" := rfl
  obtain ⟨-, hreports⟩ :=
    detection_by_held_record (.innermost fun id => hidle id) hreached hzone
  exact ⟨hfault, (hreports fun id => hidle id).1 hfault⟩

/-! ### Acting on what was superseded -/

open Session (World)

/-- A device of user 1, who has switched detection off, with its calls recorded. -/
def Session.recorded : System World where
  memory := .fresh ⟨30, [], Nat.zero_le _⟩ 1
  host := Setup.world
    { device := .start ⟨1, true, true, false, true, false⟩ none
      rig := some {} }

/-- Paris was suggested. Then the device has stopped to support detection, without a report of it,
and can no longer be moved. -/
def Session.withdrawn : System World :=
  after 0 Session.recorded
    [.telephony ⟨0, some "Europe/Paris", some .networkCountryOnly, some .singleZone, []⟩,
     .echo false, .replace ⟨1, true, false, false, true, false⟩, .echo true,
     .fault .setDeviceZone (some (.reported "stuck"))]

/-- Switching detection on moves the device to Paris, or would, although the record that arbiter and
device have by then says that detection is off. -/
theorem moved_while_off :
    let update := (Session.arbiter 0).updateConfiguration 1 ⟨some true, none⟩
    let s' := update.final Session.withdrawn
    update.fault? Session.withdrawn = some (.reported "stuck") ∧
      Session.written s'.host.trace = [some "Europe/Paris"] ∧
      s'.memory.records.peek 1 = some ⟨1, true, false, true, true, false⟩ ∧
      s'.host.device.recordOf 1 = ⟨1, true, false, true, true, false⟩ ∧
      (⟨1, true, false, true, true, false⟩ : Configuration).mode = .off :=
  ⟨by decide +kernel, by decide +kernel, by decide +kernel, by decide +kernel, rfl⟩

/-- Paris was suggested. Then a listener was registered that switches detection off once, and the
device can no longer be moved. -/
def Session.contradicted : System World :=
  after 1 Session.recorded
    [.telephony ⟨0, some "Europe/Paris", some .networkCountryOnly, some .singleZone, []⟩,
     .addListener "contrary" [.update 1 ⟨some false, none⟩] 1 none,
     .fault .setDeviceZone (some (.reported "stuck"))]

/-- Without any report outstanding, the same can come about through a listener. -/
theorem moved_while_off_by_listener :
    let update := (Session.arbiter 1).updateConfiguration 1 ⟨some true, none⟩
    let s' := update.final Session.contradicted
    update.fault? Session.contradicted = some (.reported "stuck") ∧
      Session.written s'.host.trace = [some "Europe/Paris"] ∧
      s'.memory.records.peek 1 = some ⟨1, true, true, false, true, false⟩ ∧
      (⟨1, true, true, false, true, false⟩ : Configuration).mode = .off :=
  ⟨by decide +kernel, by decide +kernel, by decide +kernel, rfl⟩

end ZoneArbiter
