import ZoneArbiter.Arbiter.Overview
import ZoneArbiter.Proofs.Boundary

/-!
# ZoneArbiter.Proofs.Boundary.Books

**What every call of the arbiter does to the records on both sides.** The books are the host's
ledger together with the arbiter's own records and the user that it tracks. A call takes the
books to books that can be told in advance (`Books.report`, `Books.update`, …), and it makes
no difference whether the call answers or fails: the books are settled before anything is
called that can fail.

Listeners are called in the middle, so what they do to the books has to be said. A property of
books that they keep (`Hears`) holds after the call if it holds of the books that the call is
to lead to. Where listeners leave the books alone, that property may be equality.

Each lemma also says on which grounds the device is moved: `Grounds` for the mode of the
record that the call goes by at that moment.
-/

namespace ZoneArbiter

open Arbiter (ListenerId)

/-- The records on both sides: the host's ledger, and what the arbiter knows. -/
@[ext] structure Books where
  ledger : Ledger
  trackedUser : Int
  known : Int → Option Configuration

namespace Books

variable (β : Books) (user : Int) (change : ConfigurationChange)

/-- The record that the arbiter goes by: its own, or else the one that it would load. -/
def kept : Configuration := (β.known user).getD (β.ledger.recordOf user)

/-- The books once the arbiter has put a record in the place of its user's. -/
def adopt (c : Configuration) : Books :=
  { β with known := fun v => if v = c.user then some c else β.known v }

/-- The books once the arbiter knows a user's record. -/
def load : Books := { β with known := fun v => if v = user then some (β.kept user) else β.known v }

/-- The books once the arbiter has taken up who is current, with that user's record. -/
def report : Books where
  ledger := β.ledger
  trackedUser := β.ledger.currentUser
  known v := if v = β.ledger.currentUser then some β.ledger.inEffect else β.known v

/-- The books once the arbiter has taken note of who is current. -/
def track : Books := { β with trackedUser := β.ledger.currentUser }

/-- The books once settings were persisted, and the report of it was handled if one is made. -/
def persist : Books :=
  let stored := { β with ledger := β.ledger.store user change }
  if β.ledger.alters user change then stored.report else stored

/-- The books after an update: the user's record is loaded, and if the change is granted, it is
replaced and persisted. -/
def update : Books :=
  match (β.kept user).grant? change with
  | none => β.load user
  | some new => ((β.load user).adopt new).persist user change

variable {β}

/-- A record that is known already is taken up by taking note of who is current. -/
theorem track_of_known (h : β.known β.ledger.currentUser = some β.ledger.inEffect) :
    β.track = β.report := by
  refine Books.ext rfl rfl (funext fun v => ?_)
  simp only [track, report]
  split
  · rename_i hv
    rw [hv, h]
  · rfl

/-- Any other is put in its place. -/
theorem adopt_track (h : β.ledger.inEffect.user = β.ledger.currentUser) :
    β.track.adopt β.ledger.inEffect = β.report := by
  simp only [track, adopt, report, h]

end Books

section Logic

variable {ω α γ : Type} {host : Arbiter.Host ω} (b : Boundary host) (k : Marking b)

/-- The books of a system. -/
def Boundary.books (s : System ω) : Books where
  ledger := b.ledger s.host
  trackedUser := s.memory.trackedUser
  known := s.memory.records.peek

/-- However the effect ends, it does so in a sound state with books in `K`, and where it stops
in a move of the device, then with `P`. -/
def Boundary.Holds (K : Books → Prop) (P : String → System ω → Prop) (e : Effect ω α)
    (s : System ω) : Prop :=
  Effect.Ends e s (fun _ s' => b.sound s'.host ∧ K (b.books s')) fun f s' =>
    (b.sound s'.host ∧ K (b.books s')) ∧ ∀ zone, k.zoneOf f = some zone → P zone s'

/-- Calling a listener keeps `K`, and its faults name no zone. -/
def Boundary.Hears (K : Books → Prop) (tell : ListenerId → Effect ω Unit) : Prop :=
  ∀ id s, b.sound s.host → K (b.books s) → b.Holds k K (fun _ _ => False) (tell id) s

variable {b k} {s s' : System ω} {K : Books → Prop} {P P' : String → System ω → Prop}
  {e : Effect ω α} {f : α → Effect ω γ}

/-- Books are kept on the ledger, the records and the tracked user, none of which stirs. -/
theorem Boundary.Still.books (h : b.Still s s') : b.books s' = b.books s := by
  obtain ⟨changes, hmemory⟩ := h.memory
  rw [Boundary.books, Boundary.books, h.ledger, hmemory]

namespace Boundary.Holds

theorem weaken (h : b.Holds k K P e s) (hP : ∀ zone s', P zone s' → P' zone s') :
    b.Holds k K P' e s :=
  h.mono_error fun _ s' h => ⟨h.1, fun zone hzone => hP zone s' (h.2 zone hzone)⟩

theorem pure (hs : b.sound s.host) (hK : K (b.books s)) (a : α) :
    b.Holds k K P (Pure.pure a) s :=
  Effect.Ends.pure ⟨hs, hK⟩

/-- What follows may count on books that are kept, and on nothing else. -/
theorem bind (h : b.Holds k K P e s)
    (hf : ∀ a s', b.sound s'.host → K (b.books s') → b.Holds k K P (f a) s') :
    b.Holds k K P (e >>= f) s :=
  Effect.Ends.bind h fun a s' h' => hf a s' h'.1 h'.2

theorem memory {f : Arbiter.Memory → Effect ω γ} (h : b.Holds k K P (f s.memory) s) :
    b.Holds k K P (Effect.memory >>= f) s := h

theorem remember {g : Arbiter.Memory → Arbiter.Memory} {f : Unit → Effect ω γ}
    (h : b.Holds k K P (f ()) { s with memory := g s.memory }) :
    b.Holds k K P (Effect.remember g >>= f) s := h

/-- To replace a record is an entry in the books. -/
theorem adopt {c : Configuration} {f : Unit → Effect ω γ} (hs : b.sound s.host)
    (h : ∀ s', b.sound s'.host → b.books s' = (b.books s).adopt c → b.Holds k K P (f ()) s') :
    b.Holds k K P
      (Effect.remember (fun m => { m with records := m.records.replace c }) >>= f) s :=
  h _ hs (Books.ext rfl rfl (funext fun v => Records.peek_replace _ c v))

/-- To track the current user is an entry in the books. -/
theorem track {f : Unit → Effect ω γ} (hs : b.sound s.host)
    (h : ∀ s', b.sound s'.host → b.books s' = (b.books s).track → b.Holds k K P (f ()) s') :
    b.Holds k K P
      (Effect.remember (fun m => { m with trackedUser := (b.books s).ledger.currentUser }) >>= f)
      s :=
  h _ hs rfl

/-- What cannot fail names no zone, so that it is enough to know how it answers. -/
theorem after {Q : α → System ω → Prop} (h : Effect.Ends e s Q fun _ _ => False)
    (hf : ∀ a s', Q a s' → b.Holds k K P (f a) s') : b.Holds k K P (e >>= f) s :=
  Effect.Ends.bind (h.mono_error fun _ _ h => h.elim) hf

/-- What leaves everything still keeps every property of the books. -/
theorem of_touches {p : String → Prop} (h : b.Touches k p e s) (hK : K (b.books s))
    (hP : ∀ zone s', b.Still s s' → p zone → P zone s') : b.Holds k K P e s :=
  h.mono (fun _ _ hstill => ⟨hstill.sound, hstill.books ▸ hK⟩) fun _ s' h' =>
    ⟨⟨h'.1.sound, h'.1.books ▸ hK⟩, fun zone hzone => hP zone s' h'.1 (h'.2 zone hzone)⟩

theorem of_quiet (h : b.Quiet k e) (hs : b.sound s.host) (hK : K (b.books s)) :
    b.Holds k K P e s :=
  of_touches (h s hs) hK fun _ _ _ hfalse => hfalse.elim

/-- A quiet line under a condition, and what follows it either way. -/
theorem when {p : Prop} [Decidable p] {line : Effect ω Unit} {rest : Unit → Effect ω γ}
    (hline : b.Quiet k line) (hs : b.sound s.host) (hK : K (b.books s))
    (hrest : ∀ s', b.sound s'.host → b.books s' = b.books s → b.Holds k K P (rest ()) s') :
    b.Holds k K P (if p then line >>= rest else rest ()) s := by
  split
  · have hfirst := of_touches (P := P) (K := fun β => K β ∧ β = b.books s) (hline s hs)
      ⟨hK, rfl⟩ fun _ _ _ hfalse => hfalse.elim
    refine Effect.Ends.bind (hfirst.mono_error fun _ _ h => ?_) fun _ s' h => ?_
    · exact ⟨⟨h.1.1, h.1.2.1⟩, h.2⟩
    · exact hrest s' h.1 h.2.2
  · exact hrest s hs rfl

end Boundary.Holds

end Logic

/-! ### Reading records -/

section Calls

variable {ω α : Type} {host : Arbiter.Host ω} {tell : ListenerId → Effect ω Unit}
  {b : Boundary host} {k : Marking b}
  {s s' : System ω} {K : Books → Prop} {P : String → System ω → Prop}

/-- The host tells who is current in the books. -/
theorem Boundary.currentUser_ends (hs : b.sound s.host) :
    Effect.Ends (Arbiter.on host tell).currentUser s
      (fun user s' => user = (b.books s).ledger.currentUser ∧ b.Still s s') fun _ _ => False := by
  obtain ⟨w, hrun, hw⟩ := b.currentUser hs
  exact Effect.Ends.of_ok (Effect.onHost_of_ok hrun) ⟨rfl, .of_host hw⟩

/-- The host tells the record in the books. -/
theorem Boundary.configurationOf_ends (user : Int) (hs : b.sound s.host) :
    Effect.Ends (Effect.onHost (host.configurationOf user)) s
      (fun c s' => c = (b.books s).ledger.recordOf user ∧ b.Still s s') fun _ _ => False := by
  obtain ⟨w, hrun, hw⟩ := b.configurationOf user hs
  exact Effect.Ends.of_ok (Effect.onHost_of_ok hrun) ⟨rfl, .of_host hw⟩

/-- Asking for a record answers with the one that the arbiter goes by, and loads it. -/
theorem Boundary.recordOf_ends (user : Int) (hs : b.sound s.host) :
    Effect.Ends ((Arbiter.on host tell).recordOf user) s
      (fun c s' => c = (b.books s).kept user ∧ b.sound s'.host ∧
        b.books s' = (b.books s).load user) fun _ _ => False := by
  unfold Books.load
  cases hpeek : s.memory.records.peek user with
  | some c =>
      have hkept : (b.books s).kept user = c := by simp [Books.kept, books, hpeek]
      refine Effect.Ends.of_ok (Arbiter.recordOf_of_peek hpeek)
        ⟨hkept.symm, hs, Books.ext rfl rfl ?_⟩
      funext v
      dsimp only
      split
      · rename_i hv
        rw [hv, hkept]
        exact hpeek
      · rfl
  | none =>
      have hkept : (b.books s).kept user = (b.books s).ledger.recordOf user := by
        simp [Books.kept, books, hpeek]
      obtain ⟨w, hrun, hsound, hledger⟩ := b.configurationOf user hs
      have hload := (Arbiter.recordOf_of_peek_none (a := .on host tell) hpeek).trans
        (Effect.bind_of_ok (Effect.onHost_of_ok hrun))
      refine Effect.Ends.of_ok hload ⟨hkept.symm, hsound, Books.ext hledger rfl ?_⟩
      funext v
      rw [hkept]
      exact Records.peek_keep _ user v _

/-- The record in effect is the one kept of the current user, loaded now if it was not kept. -/
theorem Boundary.currentRecord_ends (hs : b.sound s.host) :
    Effect.Ends (Arbiter.on host tell).currentRecord s
      (fun c s' => c = (b.books s).kept (b.books s).ledger.currentUser ∧ b.sound s'.host ∧
        b.books s' = (b.books s).load (b.books s).ledger.currentUser) fun _ _ => False := by
  refine (b.currentUser_ends hs).bind ?_
  rintro user s' ⟨rfl, hstill⟩
  rw [← hstill.books]
  exact b.recordOf_ends _ hstill.sound

/-! ### What follows on a change -/

variable (hears : b.Hears k K tell)

include hears in
/-- Listeners that keep the books keep them one after another, and their faults name no move. -/
theorem Boundary.holds_callListeners (hs : b.sound s.host) (hK : K (b.books s)) :
    b.Holds k K (fun _ _ => False) (Arbiter.on host tell).callListeners s := by
  have hall (ids : List ListenerId) {s : System ω} (hs : b.sound s.host) (hK : K (b.books s)) :
      b.Holds k K (fun _ _ => False) (ids.forM tell) s := by
    induction ids generalizing s with
    | nil => exact .pure hs hK ()
    | cons id rest ih => exact (hears id s hs hK).bind fun _ s' hs' hK' => ih hs' hK'
  exact .memory (hall _ hs hK)

theorem Boundary.holds_forgetLocation (hs : b.sound s.host) (hK : K (b.books s)) :
    b.Holds k K P (Arbiter.on host tell).forgetLocation s := by
  refine .memory (.when (b.quiet_note _) hs hK fun s' hs' hbooks => ?_)
  exact Effect.Ends.of_ok rfl ⟨hs', hbooks.symm ▸ hK⟩

include hears in
/-- What follows on a change of a configuration leaves the books to the listeners. The device is
moved only if the configuration is the current user's, on the grounds that it names. -/
theorem Boundary.holds_configurationChanged (previous : Option Configuration) (c : Configuration)
    (reason : Reason) (hs : b.sound s.host) (hK : K (b.books s)) :
    b.Holds k K (fun zone s' => c.user = (b.books s).ledger.currentUser ∧
      Grounds s'.memory none zone c.mode)
      ((Arbiter.on host tell).configurationChanged previous c reason) s := by
  unfold Arbiter.configurationChanged
  refine .when (b.quiet_note _) hs hK fun s₁ hs₁ hbooks₁ => .after (b.currentUser_ends hs₁) ?_
  rintro _ s₂ ⟨rfl, h₂⟩
  rw [hbooks₁]
  have hK₂ : K (b.books s₂) := by rwa [h₂.books, hbooks₁]
  -- Who is current was asked before: what listeners do afterwards makes no difference to it.
  have hrest {s' : System ω} (hs' : b.sound s'.host) (hK' : K (b.books s')) :
      b.Holds k K (fun zone s' => c.user = (b.books s).ledger.currentUser ∧
        Grounds s'.memory none zone c.mode)
        ((Arbiter.on host tell).callListeners >>= fun _ =>
          if c.user = (b.books s).ledger.currentUser then (Arbiter.on host tell).detect c reason
          else pure ()) s' := by
    refine .bind ((b.holds_callListeners hears hs' hK').weaken fun _ _ h => h.elim)
      fun _ s₃ hs₃ hK₃ => ?_
    split
    · rename_i hcurrent
      exact .of_touches (b.touches_detect c reason hs₃) hK₃ fun zone s₄ hstill hgrounds =>
        ⟨hcurrent, hstill.grounds hgrounds⟩
    · exact .pure hs₃ hK₃ ()
  dsimp only
  split
  · exact .bind (b.holds_forgetLocation h₂.sound hK₂) fun _ s₃ hs₃ hK₃ => hrest hs₃ hK₃
  · exact hrest h₂.sound hK₂

/-! ### Reports and updates -/

include hears in
/-- **Reports.** The arbiter takes up who is current, with that user's record, and goes by that
record from then on. -/
theorem Boundary.holds_receiveReport (hs : b.sound s.host) (hK : K (b.books s).report) :
    b.Holds k K (fun zone s' => Grounds s'.memory none zone (b.books s).ledger.inEffect.mode)
      (Arbiter.on host tell).receiveReport s := by
  unfold Arbiter.receiveReport
  refine .after (b.currentUser_ends hs) ?_
  rintro _ s₁ ⟨rfl, h₁⟩
  refine .after (b.configurationOf_ends _ h₁.sound) ?_
  rintro c s₂ ⟨hc, h₂⟩
  have hbooks : b.books s₂ = b.books s := h₂.books.trans h₁.books
  replace hc : c = (b.books s).ledger.inEffect := by rw [hc, h₁.books]; rfl
  have howner : (b.books s).ledger.inEffect.user = (b.books s).ledger.currentUser := b.own _ hs
  rw [← hbooks] at hK hc howner ⊢
  subst hc
  refine .memory (.track h₂.sound fun s₃ hs₃ htracked => ?_)
  split
  · rename_i hknown
    rw [← Books.track_of_known hknown.1, ← htracked] at hK
    exact .pure hs₃ hK ()
  · refine .adopt hs₃ fun s₄ hs₄ htaken => ?_
    rw [← Books.adopt_track howner, ← htracked, ← htaken] at hK
    split
    · exact .of_quiet (b.quiet_note _) hs₄ hK
    · refine .bind (.of_quiet (b.quiet_note _) hs₄ hK) fun _ s₅ hs₅ hK₅ => ?_
      exact (b.holds_configurationChanged hears _ _ _ hs₅ hK₅).weaken fun _ _ h => h.2

include hears in
/-- To persist settings is to store them and, if that alters the record, to receive a report. -/
theorem Boundary.holds_persist (user : Int) (change : ConfigurationChange) (hs : b.sound s.host)
    (hK : K ((b.books s).persist user change)) :
    b.Holds k K (fun zone s' => (b.books s).ledger.alters user change = true ∧
      Grounds s'.memory none zone ((b.books s).ledger.store user change).inEffect.mode)
      ((Arbiter.on host tell).persist user change) s := by
  obtain ⟨w, hrun, hsound, hledger⟩ := b.storeConfiguration user change hs
  have hstored : b.books { s with host := w } =
      { b.books s with ledger := (b.books s).ledger.store user change } :=
    Books.ext hledger rfl rfl
  have hfinish {s' : System ω} (hs' : b.sound s'.host) (hK' : K (b.books s')) {P} :
      b.Holds k K P (Effect.onHost host.finishStore) s' :=
    .of_quiet (quiet_onHost b.finishStore k.finishStore) hs' hK'
  unfold Arbiter.persist
  rw [Boundary.Holds, Effect.Ends, Effect.bind_of_ok (Effect.onHost_of_ok hrun)]
  unfold Books.persist at hK
  dsimp only at hK
  rw [← hstored] at hK
  by_cases hdue : (b.books s).ledger.alters user change = true
  · rw [if_pos hdue] at hK
    rw [show (b.ledger s.host).alters user change = true from hdue, if_pos rfl]
    have hreport := b.holds_receiveReport hears hsound hK
    rw [hstored] at hreport
    exact (hreport.weaken fun _ _ h => ⟨hdue, h⟩).bind fun _ _ hs' hK' => hfinish hs' hK'
  · rw [if_neg hdue] at hK
    rw [show (b.ledger s.host).alters user change = false from Bool.eq_false_iff.mpr hdue,
      if_neg Bool.false_ne_true]
    exact hfinish hsound hK

/-- Where an update moves the device, it was granted a record. Either the report of what was
persisted moves it, on the grounds of the record that was persisted, or the update itself does, for
the current user and on the grounds of the record that it was granted. -/
def Books.UpdateMoves (β : Books) (K : Books → Prop) (user : Int) (change : ConfigurationChange)
    (zone : String) (m : Arbiter.Memory) : Prop :=
  ∃ new, (β.kept user).grant? change = some new ∧
    ((β.ledger.alters user change = true ∧
        Grounds m none zone (β.ledger.store user change).inEffect.mode) ∨
      ((∃ β', K β' ∧ user = β'.ledger.currentUser) ∧ Grounds m none zone new.mode))

include hears in
/-- **Updates.** The user's record is loaded, and if the change is granted, it is replaced and
persisted. -/
theorem Boundary.holds_update (user : Int) (change : ConfigurationChange)
    (hown : ((b.books s).kept user).user = user) (hs : b.sound s.host)
    (hK : K ((b.books s).update user change)) :
    b.Holds k K (fun zone s' => (b.books s).UpdateMoves K user change zone s'.memory)
      ((Arbiter.on host tell).updateConfiguration user change) s := by
  unfold Arbiter.updateConfiguration
  refine .after (b.recordOf_ends user hs) ?_
  rintro _ s₁ ⟨rfl, hs₁, hbooks₁⟩
  unfold Books.update at hK
  cases hgrant : ((b.books s).kept user).grant? change with
  | none =>
      rw [hgrant] at hK
      exact .bind (.of_quiet (b.quiet_note _) hs₁ (hbooks₁.symm ▸ hK))
        fun _ _ hs' hK' => .pure hs' hK' false
  | some new =>
      rw [hgrant] at hK
      dsimp only at hK
      have howner : new.user = user := by
        rw [← Configuration.merge_of_grant hgrant, Configuration.user_merge, hown]
      refine .adopt hs₁ fun s₂ hs₂ hbooks₂ => ?_
      rw [hbooks₁] at hbooks₂
      rw [← hbooks₂] at hK
      have hpersist := b.holds_persist hears user change hs₂ hK
      rw [hbooks₂] at hpersist
      refine .bind (hpersist.weaken fun _ _ h => ⟨new, hgrant, .inl h⟩) fun _ s₃ hs₃ hK₃ => ?_
      split
      · refine .bind (.of_quiet (b.quiet_note _) hs₃ hK₃) fun _ s₄ hs₄ hK₄ => ?_
        have hchanged := b.holds_configurationChanged hears (some ((b.books s).kept user)) new
          .configurationUpdate hs₄ hK₄
        rw [howner] at hchanged
        refine .bind (hchanged.weaken fun zone s' h => ⟨new, hgrant, .inr ⟨⟨_, hK₄, h.1⟩, h.2⟩⟩)
          fun _ _ hs' hK' => .pure hs' hK' true
      · exact .pure hs₃ hK₃ true

/-! ### Suggestions and queries -/

/-- A pick goes where it says or nowhere. -/
theorem Boundary.holds_suggestManual (user : Int) (pick : ManualSuggestion) (hs : b.sound s.host)
    (hK : K ((b.books s).load user)) :
    b.Holds k K (fun zone _ => zone = pick.zone) ((Arbiter.on host tell).suggestManual user pick)
      s := by
  unfold Arbiter.suggestManual
  refine .after (b.recordOf_ends user hs) ?_
  rintro _ s₁ ⟨rfl, hs₁, hbooks₁⟩
  rw [← hbooks₁] at hK
  dsimp only
  split
  · exact .bind (.of_touches (b.touches_moveTo _ _ hs₁) hK fun _ _ _ hzone => hzone)
      fun _ _ hs' hK' => .pure hs' hK' true
  · exact .bind (.of_quiet (b.quiet_note _) hs₁ hK) fun _ _ hs' hK' => .pure hs' hK' false

/-- A suggestion of telephony leads to a zone on the grounds of the record that is kept. -/
theorem Boundary.holds_suggestTelephony (suggestion : TelephonySuggestion) (hs : b.sound s.host)
    (hK : K ((b.books s).load (b.books s).ledger.currentUser)) :
    b.Holds k K (fun zone s' => Grounds s'.memory none zone
      ((b.books s).kept (b.books s).ledger.currentUser).mode)
      ((Arbiter.on host tell).suggestTelephony suggestion) s := by
  unfold Arbiter.suggestTelephony
  refine .after (b.notes _ hs) fun _ s₁ h₁ => .remember (.after (b.notes [_] h₁.sound) ?_)
  intro _ s₂ h₂
  have hbooks₂ : b.books s₂ = b.books s := h₂.books.trans h₁.books
  refine .after (b.currentRecord_ends h₂.sound) ?_
  rintro _ s₃ ⟨rfl, hs₃, hbooks₃⟩
  rw [hbooks₂] at hbooks₃ ⊢
  exact .of_touches (b.touches_detect _ _ hs₃) (hbooks₃.symm ▸ hK) fun _ _ hstill h =>
    hstill.grounds h

/-- A geolocation suggestion leads to a zone on the grounds of the record that is kept. -/
theorem Boundary.holds_suggestGeo (suggestion : GeoSuggestion) (hs : b.sound s.host)
    (hK : K ((b.books s).load (b.books s).ledger.currentUser)) :
    b.Holds k K (fun zone s' => Grounds s'.memory none zone
      ((b.books s).kept (b.books s).ledger.currentUser).mode)
      ((Arbiter.on host tell).suggestGeo suggestion) s := by
  unfold Arbiter.suggestGeo
  refine .after (b.currentRecord_ends hs) ?_
  rintro _ s₁ ⟨rfl, hs₁, hbooks₁⟩
  rw [← hbooks₁] at hK
  split
  · refine .remember (.of_touches (b.touches_detect _ _ hs₁) hK fun _ _ hstill h => ?_)
    exact hstill.grounds h
  · exact .of_quiet (b.quiet_note _) hs₁ hK

theorem Boundary.holds_latestTelephony (slot : Int) (hs : b.sound s.host) (hK : K (b.books s)) :
    b.Holds k K P ((Arbiter.on host tell).latestTelephony slot) s := by
  refine .memory (.after (b.notes _ hs) fun _ s' h => ?_)
  exact .pure h.sound (h.books.symm ▸ hK) _

end Calls

/-! ### The status page -/

section Overview

open Arbiter (Writing)

variable {ω α γ : Type} {host : Arbiter.Host ω} {tell : ListenerId → Effect ω Unit}
  {b : Boundary host} {k : Marking b} {s : System ω}
  {K : Books → Prop}

/-- However the page is written, the system is sound and has books in `K`. -/
def Boundary.Writes (b : Boundary host) (K : Books → Prop) (writing : Writing ω α)
    (s : System ω) : Prop :=
  ∀ page, match writing (s, page) with
    | .ok _ (s', _) | .error _ (s', _) => b.sound s'.host ∧ K (b.books s')

/-- What is asked for a page may load a record; the page goes on from there. -/
theorem Boundary.Writes.act {e : Effect ω α} {f : α → Writing ω γ} {Q : α → System ω → Prop}
    (h : Effect.Ends e s Q fun _ s' => b.sound s'.host ∧ K (b.books s'))
    (hf : ∀ x s', Q x s' → b.Writes K (f x) s') : b.Writes K (Writing.act e >>= f) s := by
  intro page
  show match EStateM.bind (Writing.act e) f (s, page) with
    | .ok _ (s', _) | .error _ (s', _) => b.sound s'.host ∧ K (b.books s')
  unfold Effect.Ends at h
  rw [EStateM.bind, Writing.act]
  cases hrun : e s with
  | ok x s' =>
      rw [hrun] at h
      exact hf x s' h page
  | error fault s' =>
      rw [hrun] at h
      exact h

theorem Boundary.Writes.put {g : Status.Page → Status.Page} {f : Unit → Writing ω α}
    (h : b.Writes K (f ()) s) : b.Writes K (Writing.put g >>= f) s :=
  fun page => h (g page)

/-- What other components add is written to the page alone. -/
theorem Boundary.writes_appendices (appendices : List Status.Appendix) (args : List String)
    (hs : b.sound s.host) (hK : K (b.books s)) :
    b.Writes K (appendices.forM fun appendix => Writing.onPage (appendix.run args)) s := by
  intro page
  obtain ⟨page', hrun | ⟨f, hrun⟩⟩ := Writing.run_appendices appendices args s page <;>
    rw [hrun] <;> exact ⟨hs, hK⟩

/-- A status page loads the record of the current user and stirs nothing else. -/
theorem Boundary.holds_overview (args : List String) (page : Status.Page) (hs : b.sound s.host)
    (hK : K ((b.books s).load (b.books s).ledger.currentUser)) :
    b.Holds k K (fun _ _ => False) ((Arbiter.on host tell).overview args page) s := by
  have hquiet {α : Type} {e : Effect ω α} (he : b.Quiet (Marking.none b) e) {s : System ω}
      (h : b.sound s.host ∧ K (b.books s)) :
      Effect.Ends e s (fun _ s' => b.sound s'.host ∧ K (b.books s'))
        fun _ s' => b.sound s'.host ∧ K (b.books s') :=
    (he s h.1).mono (fun _ _ h' => ⟨h'.sound, h'.books ▸ h.2⟩)
      fun _ _ h' => ⟨h'.1.sound, h'.1.books ▸ h.2⟩
  have hmemory : b.Quiet (Marking.none b) (Effect.memory : Effect ω Arbiter.Memory) :=
    fun s hs => show b.Still s s from .refl hs
  have hload : Effect.Ends (Arbiter.on host tell).currentRecord s
      (fun _ s' => b.sound s'.host ∧ K (b.books s'))
      fun _ s' => b.sound s'.host ∧ K (b.books s') :=
    (b.currentRecord_ends hs).mono (fun _ _ h => ⟨h.2.1, h.2.2.symm ▸ hK⟩) fun _ _ h => h.elim
  have hwrites : b.Writes K ((Arbiter.on host tell).writeStatus args) s := by
    unfold Arbiter.writeStatus
    refine .act hload fun _ s₁ h₁ => .act (hquiet hmemory h₁) fun _ s₂ h₂ => .put ?_
    refine .act (hquiet (quiet_onHost b.zoneInitialized (Marking.none b).zoneInitialized) h₂)
      fun _ s₃ h₃ => .put ?_
    refine .act (hquiet b.quiet_currentZone h₃) fun _ s₄ h₄ => .put ?_
    refine .act (hquiet hmemory h₄) fun _ s₅ h₅ => .put (.put (.put (.put ?_)))
    exact b.writes_appendices _ args h₅.1 h₅.2
  have hpage := hwrites page
  unfold Arbiter.overview Boundary.Holds Effect.Ends
  dsimp only
  cases hrun : (Arbiter.on host tell).writeStatus args (s, page) with
  | ok _ written =>
      rw [hrun] at hpage
      exact hpage
  | error fault written =>
      rw [hrun] at hpage
      exact hpage

end Overview

end ZoneArbiter
