import ZoneArbiter.Arbiter.Change
import ZoneArbiter.Arbiter.Overview
import ZoneArbiter.Arbiter.Suggest
import ZoneArbiter.Proofs.DebugLines.Plain
import ZoneArbiter.Proofs.Transcript

/-!
# ZoneArbiter.Proofs.DebugLines.Mirror — effects that differ in debug lines alone

Two systems are alike (`System.Alike`) if they differ in debug lines and times alone: the arbiters
remember the same without them, and the same contacts are written down. Two effects **mirror** each
other (`Effect.Mirrors`) if from alike systems they end in the same way in alike systems: both
answer, with answers that correspond, or both fail, with the same fault.

Debug lines are also logged, and a host may keep its log. So of the host's states it is only said
that they correspond, by a relation that no call of the host can tell apart (`Host.Deaf`): the same
call, from states that correspond, ends in the same way, in states that correspond. The clock may
show different times.
-/

namespace ZoneArbiter

open Arbiter (Host ListenerId Memory Writing)
open Effect

/-! ### Ending in the same way -/

section SameEnd

variable {σ τ α β γ δ : Type} {S : σ → τ → Prop} {Q : α → β → Prop} {R : γ → δ → Prop}

/-- Both have answered, with answers that correspond, or both have failed, with the same fault, and
they have ended in states that correspond. -/
def SameEnd (S : σ → τ → Prop) (Q : α → β → Prop) :
    EStateM.Result Fault σ α → EStateM.Result Fault τ β → Prop
  | .ok x s, .ok y t => Q x y ∧ S s t
  | .error f s, .error g t => f = g ∧ S s t
  | _, _ => False

/-- Both answer, or both fail with one fault. -/
theorem SameEnd.cases {r : EStateM.Result Fault σ α} {r' : EStateM.Result Fault τ β}
    (h : SameEnd S Q r r') :
    (∃ x y s t, r = .ok x s ∧ r' = .ok y t ∧ Q x y ∧ S s t) ∨
      ∃ fault s t, r = .error fault s ∧ r' = .error fault t ∧ S s t := by
  cases r <;> cases r'
  · exact .inl ⟨_, _, _, _, rfl, rfl, h⟩
  · exact h.elim
  · exact h.elim
  · obtain ⟨rfl, hstates⟩ := h
    exact .inr ⟨_, _, _, rfl, rfl, hstates⟩

/-- What follows goes on from answers and states that are related. -/
theorem SameEnd.bind {e : EStateM Fault σ α} {e' : EStateM Fault τ β} {f : α → EStateM Fault σ γ}
    {f' : β → EStateM Fault τ δ} {s : σ} {t : τ} (h : SameEnd S Q (e s) (e' t))
    (hf : ∀ x y s t, Q x y → S s t → SameEnd S R (f x s) (f' y t)) :
    SameEnd S R ((e >>= f) s) ((e' >>= f') t) := by
  show SameEnd S R (EStateM.bind e f s) (EStateM.bind e' f' t)
  rw [EStateM.bind, EStateM.bind]
  obtain ⟨x, y, s', t', hrun, hrun', hQ, hS⟩ | ⟨fault, s', t', hrun, hrun', hS⟩ := h.cases
  · rw [hrun, hrun']
    exact hf x y s' t' hQ hS
  · rw [hrun, hrun']
    exact ⟨rfl, hS⟩

/-- The one ends like the other: with an answer that corresponds, or with the same fault. -/
inductive Likewise (Q : α → β → Prop) : Except Fault α → Except Fault β → Prop
  | answered {x : α} {y : β} (h : Q x y) : Likewise Q (.ok x) (.ok y)
  | failed (fault : Fault) : Likewise Q (.error fault) (.error fault)

end SameEnd

/-! ### Hosts that do not hear what they log -/

/-- The call cannot tell states apart that correspond. -/
def Unaware {ω α : Type} (W : ω → ω → Prop) (call : EStateM Fault ω α) : Prop :=
  ∀ ⦃w v⦄, W w v → SameEnd W Eq (call w) (call v)

/-- The host takes down lines of the log without noticing: whatever it logs, its states go on to
correspond, and its calls cannot tell them apart. What the clock shows is left open. -/
structure Arbiter.Host.Deaf {ω : Type} (host : Host ω) (W : ω → ω → Prop) : Prop where
  refl : ∀ w, W w w
  log : ∀ {w v} (n n' : Notice), W w v → W (host.log n w) (host.log n' v)
  currentUser : Unaware W host.currentUser
  configurationOf : ∀ user, Unaware W (host.configurationOf user)
  zoneInitialized : Unaware W host.zoneInitialized
  deviceZone : Unaware W host.deviceZone
  setDeviceZone : ∀ zone, Unaware W (host.setDeviceZone zone)
  storeConfiguration : ∀ user change, Unaware W (host.storeConfiguration user change)
  finishStore : Unaware W host.finishStore
  readClock : ∀ {w v}, W w v → SameEnd W (fun _ _ => True) (host.readClock w) (host.readClock v)

/-! ### Alike systems -/

/-- The contact, whatever the time. -/
def Contact.undated : Contact → Contact
  | .readClock ended => .readClock (ended.map fun _ => 0)
  | contact => contact

/-- The contacts so far, whatever the times. -/
def Transcribed.undated {ω : Type} (t : Transcribed ω) : List Contact :=
  t.contacts.map Contact.undated

/-- The systems differ in debug lines and times alone, and in what was made of them in the log. -/
structure System.Alike {ω : Type} (W : ω → ω → Prop) (s s' : System (Transcribed ω)) : Prop where
  memory : s.memory.plain = s'.memory.plain
  contacts : s.host.undated = s'.host.undated
  world : W s.host.world s'.host.world

/-- One more contact. -/
theorem Transcribed.undated_append {ω : Type} {t t' : Transcribed ω} {w w' : ω}
    {contact contact' : Contact} (h : t.undated = t'.undated)
    (hcontact : contact.undated = contact'.undated) :
    Transcribed.undated ⟨w, t.contacts ++ [contact]⟩ =
      Transcribed.undated ⟨w', t'.contacts ++ [contact']⟩ := by
  unfold Transcribed.undated at *
  rw [List.map_append, List.map_append, h, List.map_singleton, List.map_singleton, hcontact]

section Mirrors

variable {ω α β γ δ : Type} {W : ω → ω → Prop} {Q : α → β → Prop} {R : γ → δ → Prop}

/-- From alike systems the two effects end in the same way, in alike systems. -/
def Effect.Mirrors (W : ω → ω → Prop) (Q : α → β → Prop) (e : Effect (Transcribed ω) α)
    (e' : Effect (Transcribed ω) β) : Prop :=
  ∀ ⦃s s'⦄, System.Alike W s s' → SameEnd (System.Alike W) Q (e s) (e' s')

namespace Effect.Mirrors

variable {e : Effect (Transcribed ω) α} {e' : Effect (Transcribed ω) β}
  {f : α → Effect (Transcribed ω) γ} {f' : β → Effect (Transcribed ω) δ}

theorem pure {x : α} {x' : β} (h : Q x x') : Mirrors W Q (Pure.pure x) (Pure.pure x') :=
  fun _ _ hs => ⟨h, hs⟩

theorem fail (fault : Fault) : Mirrors W Q (throw fault) (throw fault) :=
  fun _ _ hs => ⟨rfl, hs⟩

/-- Mirrors go on as mirrors, whatever related answers they have given. -/
theorem bind (h : Mirrors W Q e e') (hf : ∀ x x', Q x x' → Mirrors W R (f x) (f' x')) :
    Mirrors W R (e >>= f) (e' >>= f') :=
  fun _ _ hs => (h hs).bind fun x x' _ _ hQ ht => hf x x' hQ ht

/-- Effects with the same answer, in sequence. -/
theorem next {e e' : Effect (Transcribed ω) α} {f : α → Effect (Transcribed ω) γ}
    {f' : α → Effect (Transcribed ω) δ} (h : Mirrors W Eq e e')
    (hf : ∀ x, Mirrors W R (f x) (f' x)) : Mirrors W R (e >>= f) (e' >>= f') :=
  h.bind fun x _ hx => hx ▸ hf x

theorem readMemory : Mirrors W (fun m m' : Memory => m.plain = m'.plain)
    (Effect.memory : Effect (Transcribed ω) Memory) Effect.memory :=
  fun _ _ hs => ⟨hs.memory, hs⟩

/-- What is read agrees but for debug lines, and what follows must not tell the difference. -/
theorem memory {f : Memory → Effect (Transcribed ω) γ} {f' : Memory → Effect (Transcribed ω) δ}
    (hf : ∀ m m', m.plain = m'.plain → Mirrors W R (f m) (f' m')) :
    Mirrors W R (Effect.memory >>= f) (Effect.memory >>= f') :=
  readMemory.bind hf

/-- Remembering mirrors if the same is remembered without debug lines. -/
theorem remember {g g' : Memory → Memory} (h : ∀ m m', m.plain = m'.plain →
    (g m).plain = (g' m').plain) :
    Mirrors W Eq (Effect.remember g : Effect (Transcribed ω) Unit) (Effect.remember g') :=
  fun _ _ hs => ⟨rfl, h _ _ hs.memory, hs.contacts, hs.world⟩

/-- A call of the host, written down so that it makes no difference what it answers. -/
theorem written {Q : α → α → Prop} {call : EStateM Fault ω α} {contact : Except Fault α → Contact}
    (h : ∀ {w v}, W w v → SameEnd W Q (call w) (call v))
    (hcontact : ∀ x y, Q x y → (contact (.ok x)).undated = (contact (.ok y)).undated) :
    Mirrors W Q (Transcribed.call call contact)
      (Transcribed.call call contact) := by
  intro s s' hs
  rw [Effect.call_eq, Effect.call_eq]
  obtain ⟨x, y, w, v, hrun, hrun', hQ, hworld⟩ | ⟨fault, w, v, hrun, hrun', hworld⟩ :=
    (h hs.world).cases
  · rw [hrun, hrun']
    exact ⟨hQ, hs.memory, Transcribed.undated_append hs.contacts (hcontact x y hQ), hworld⟩
  · rw [hrun, hrun']
    exact ⟨rfl, hs.memory, Transcribed.undated_append hs.contacts rfl, hworld⟩

/-- A call of the host with the same answer. -/
theorem call {call : EStateM Fault ω α} (h : Unaware W call) (contact : Except Fault α → Contact) :
    Mirrors W Eq (Transcribed.call call contact)
      (Transcribed.call call contact) :=
  written (@h) fun _ _ hQ => hQ ▸ rfl

/-- A fault that is caught ends nothing. -/
theorem attempt (h : Mirrors W Q e e') :
    Mirrors W (Likewise Q) (Effect.attempt e) (Effect.attempt e') := by
  intro s s' hs
  unfold Effect.attempt
  obtain ⟨x, x', t, t', hrun, hrun', hQ, ht⟩ | ⟨fault, t, t', hrun, hrun', ht⟩ := (h hs).cases
  · rw [hrun, hrun']
    exact ⟨.answered hQ, ht⟩
  · rw [hrun, hrun']
    exact ⟨.failed fault, ht⟩

theorem forM {ι : Type} {f f' : ι → Effect (Transcribed ω) Unit}
    (h : ∀ i, Mirrors W Eq (f i) (f' i)) (items : List ι) :
    Mirrors W Eq (items.forM f) (items.forM f') := by
  induction items with
  | nil => exact .pure rfl
  | cons item rest ih => exact (h item).next fun _ => ih

end Effect.Mirrors

end Mirrors

/-! ### Pages -/

section Pages

variable {ω α β γ δ : Type} {W : ω → ω → Prop}

/-- However the pages were written so far, from alike systems the two go on to end in the same way,
in alike systems. Nothing is said of the pages. -/
def Arbiter.Writing.Mirrors (W : ω → ω → Prop) (writing : Writing (Transcribed ω) α)
    (writing' : Writing (Transcribed ω) β) : Prop :=
  ∀ ⦃s s'⦄ page page', System.Alike W s s' →
    SameEnd (fun t t' => System.Alike W t.1 t'.1) (fun _ _ => True) (writing (s, page))
      (writing' (s', page'))

namespace Arbiter.Writing.Mirrors

/-- What is asked for a page mirrors, and the pages may differ. -/
theorem act {Q : α → β → Prop} {e : Effect (Transcribed ω) α} {e' : Effect (Transcribed ω) β}
    {f : α → Writing (Transcribed ω) γ} {f' : β → Writing (Transcribed ω) δ}
    (h : Effect.Mirrors W Q e e') (hf : ∀ x x', Q x x' → Writing.Mirrors W (f x) (f' x')) :
    Writing.Mirrors W (Writing.act e >>= f) (Writing.act e' >>= f') := by
  intro s s' page page' hs
  have hact : SameEnd (fun t t' => System.Alike W t.1 t'.1) Q (Writing.act e (s, page))
      (Writing.act e' (s', page')) := by
    unfold Writing.act
    obtain ⟨x, x', t, t', hrun, hrun', hQ, halike⟩ | ⟨fault, t, t', hrun, hrun', halike⟩ :=
      (h hs).cases
    · dsimp only
      rw [hrun, hrun']
      exact ⟨hQ, halike⟩
    · dsimp only
      rw [hrun, hrun']
      exact ⟨rfl, halike⟩
  exact hact.bind fun x x' t t' hQ ht => hf x x' hQ t.2 t'.2 ht

theorem put (g g' : Status.Page → Status.Page) {f : Unit → Writing (Transcribed ω) α}
    {f' : Unit → Writing (Transcribed ω) β} (h : Writing.Mirrors W (f ()) (f' ())) :
    Writing.Mirrors W (Writing.put g >>= f) (Writing.put g' >>= f') :=
  fun _ _ page page' hs => h (g page) (g' page') hs

/-- Whether an appendix fails does not depend on the page. -/
theorem appendices (appendices : List Status.Appendix) (args : List String) :
    Writing.Mirrors W
      (appendices.forM fun appendix =>
        (Writing.onPage (appendix.run args) : Writing (Transcribed ω) Unit))
      (appendices.forM fun appendix => Writing.onPage (appendix.run args)) := by
  induction appendices with
  | nil => exact fun _ _ _ _ hs => ⟨trivial, hs⟩
  | cons appendix rest ih =>
      intro s s' page page' hs
      have hwritten : SameEnd (fun t t' => System.Alike W t.1 t'.1) Eq
          ((Writing.onPage (appendix.run args) : Writing (Transcribed ω) Unit) (s, page))
          ((Writing.onPage (appendix.run args) : Writing (Transcribed ω) Unit) (s', page')) := by
        obtain ⟨name, shift, lines, fault⟩ := appendix
        cases fault <;> exact ⟨rfl, hs⟩
      exact hwritten.bind fun _ _ t t' _ ht => ih t.2 t'.2 ht

end Arbiter.Writing.Mirrors

end Pages

/-! ### The parts of the arbiter -/

section Arbiter

variable {ω : Type} {W : ω → ω → Prop} {host : Host ω}
  {tell tell' : ListenerId → Effect (Transcribed ω) Unit}

/-- As many listeners are called on both sides, in the same order. -/
theorem Arbiter.mirrors_callListeners (htell : ∀ id, Mirrors W Eq (tell id) (tell' id)) :
    Mirrors W Eq (Arbiter.transcribed host tell).callListeners
      (Arbiter.transcribed host tell').callListeners := by
  refine .memory fun m m' hm => ?_
  have hlisteners : m.plain.listeners = m'.plain.listeners := congrArg Memory.listeners hm
  rw [show m'.listeners = m.listeners from hlisteners.symm]
  refine .forM (fun id => ?_) m.listeners
  have hcalled : Mirrors W Eq (Effect.jot (.listener id) : Effect (Transcribed ω) Unit)
      (Effect.jot (.listener id)) :=
    fun _ _ hs => ⟨rfl, hs.memory, Transcribed.undated_append hs.contacts rfl, hs.world⟩
  exact hcalled.next fun _ => htell id

namespace Arbiter.Host.Deaf

variable (hdeaf : host.Deaf W)
include hdeaf

/-- Notes mirror each other whatever they say. -/
theorem note (n n' : Notice) : Mirrors W Eq ((Arbiter.transcribed host tell).note n)
    ((Arbiter.transcribed host tell').note n') :=
  fun _ _ hs => ⟨rfl, hs.memory, hs.contacts, hdeaf.log n n' hs.world⟩

theorem mirrors_currentUser : Mirrors W Eq (Arbiter.transcribed host tell).currentUser
    (Arbiter.transcribed host tell').currentUser :=
  .call hdeaf.currentUser _

/-- The clock may show different times. -/
theorem mirrors_readClock : Mirrors W (fun _ _ => True) (Arbiter.transcribed host tell).readClock
    (Arbiter.transcribed host tell').readClock :=
  .written hdeaf.readClock fun _ _ _ => rfl

theorem mirrors_recordOf (user : Int) : Mirrors W Eq ((Arbiter.transcribed host tell).recordOf user)
    ((Arbiter.transcribed host tell').recordOf user) := by
  have hknown : Mirrors W Eq (Arbiter.knownRecords : Effect (Transcribed ω) Records)
      Arbiter.knownRecords := by
    refine .memory fun m m' hm => .pure ?_
    have hrecords : m.plain.records = m'.plain.records := congrArg Memory.records hm
    exact hrecords
  have hkept (f : Records → Records) : Mirrors W Eq
      (Arbiter.reviseRecords f : Effect (Transcribed ω) Unit) (Arbiter.reviseRecords f) :=
    .remember fun m m' hm => congrArg (fun m : Memory => { m with records := f m.records }) hm
  unfold Arbiter.recordOf Records.get
  refine hknown.next fun r => ?_
  split
  · exact .pure rfl
  · refine (Effect.Mirrors.call (hdeaf.configurationOf user) _).next fun c => ?_
    exact (hkept _).next fun _ => .pure rfl

theorem mirrors_currentRecord : Mirrors W Eq (Arbiter.transcribed host tell).currentRecord
    (Arbiter.transcribed host tell').currentRecord :=
  hdeaf.mirrors_currentUser.next hdeaf.mirrors_recordOf

theorem mirrors_currentZone : Mirrors W Eq (Arbiter.transcribed host tell).currentZone
    (Arbiter.transcribed host tell').currentZone := by
  refine (Effect.Mirrors.call hdeaf.zoneInitialized _).next fun initialized => ?_
  split
  · exact .call hdeaf.deviceZone _
  · exact .pure rfl

/-! ### Detection -/

/-- The two moves may be made at different times, and their entries agree but for that. -/
theorem mirrors_moveTo (zone : String) (cause : Cause) :
    Mirrors W Eq ((Arbiter.transcribed host tell).moveTo zone cause)
      ((Arbiter.transcribed host tell').moveTo zone cause) := by
  refine hdeaf.mirrors_currentZone.next fun previous => ?_
  split
  · exact hdeaf.note _ _
  · refine (Effect.Mirrors.call (hdeaf.setDeviceZone zone) _).next fun _ =>
      hdeaf.mirrors_readClock.bind fun changedAt changedAt' _ =>
        (Effect.Mirrors.remember fun m m' hm => ?_).next fun _ => hdeaf.note _ _
    let change (changedAt : Int) : ZoneChange := { zone, previous, cause, changedAt }
    show ({ m.plain with changes := (m.changes.record (change changedAt)).undated } : Memory) =
      { m'.plain with changes := (m'.changes.record (change changedAt')).undated }
    rw [ChangeLog.undated_record, ChangeLog.undated_record]
    exact congrArg (fun m : Memory =>
      { m with changes := m.changes.record (change changedAt).undated }) hm

/-- Telephony is followed by the best suggestion, of which debug lines are no part. -/
theorem mirrors_detectByTelephony (reason : Reason) :
    Mirrors W Eq ((Arbiter.transcribed host tell).detectByTelephony reason)
      ((Arbiter.transcribed host tell').detectByTelephony reason) := by
  refine .memory fun m m' hm => ?_
  have hbest : m.telephony.best?.map Telephony.Qualified.plain =
      m'.telephony.best?.map Telephony.Qualified.plain := by
    rw [← Telephony.Table.best?_plain, ← Telephony.Table.best?_plain]
    exact congrArg (fun m : Memory => m.telephony.best?) hm
  cases hfound : m.telephony.best? <;> cases hfound' : m'.telephony.best? <;>
    rw [hfound, hfound'] at hbest
  · exact hdeaf.note _ _
  · cases hbest
  · cases hbest
  · rename_i best best'
    have hplain : best.plain = best'.plain := Option.some.inj hbest
    have hzone : best'.suggestion.zone = best.suggestion.zone :=
      (congrArg (·.suggestion.zone) hplain).symm
    have hslot : best'.suggestion.slot = best.suggestion.slot :=
      (congrArg (·.suggestion.slot) hplain).symm
    have hscore : best'.score = best.score := (congrArg (·.score) hplain).symm
    dsimp only
    rw [hzone, hslot, hscore]
    cases best.suggestion.zone with
    | none => exact hdeaf.note _ _
    | some zone =>
        refine (Effect.Mirrors.call hdeaf.zoneInitialized _).next fun initialized => ?_
        split
        · exact hdeaf.note _ _
        · exact hdeaf.mirrors_moveTo _ _

/-- Geolocation is followed by the candidates. -/
theorem mirrors_detectByLocation (reason : Reason) :
    Mirrors W Eq ((Arbiter.transcribed host tell).detectByLocation reason)
      ((Arbiter.transcribed host tell').detectByLocation reason) := by
  refine .memory fun m m' hm => ?_
  have hlatest : m.geolocation.map GeoSuggestion.plain = m'.geolocation.map GeoSuggestion.plain :=
    congrArg Memory.geolocation hm
  cases hfound : m.geolocation <;> cases hfound' : m'.geolocation <;>
    rw [hfound, hfound'] at hlatest
  · exact hdeaf.note _ _
  · cases hlatest
  · cases hlatest
  · rename_i s s'
    have hzones : s'.zones = s.zones := (congrArg (·.zones) (Option.some.inj hlatest)).symm
    dsimp only
    rw [hzones]
    refine hdeaf.mirrors_currentZone.next fun current => ?_
    cases Geolocation.selectZone s.zones current with
    | none => exact hdeaf.note _ _
    | some zone => exact hdeaf.mirrors_moveTo _ _

theorem mirrors_detect (c : Configuration) (reason : Reason) :
    Mirrors W Eq ((Arbiter.transcribed host tell).detect c reason)
      ((Arbiter.transcribed host tell').detect c reason) := by
  unfold Arbiter.detect
  cases c.mode with
  | off => exact .pure rfl
  | autoTelephony => exact hdeaf.mirrors_detectByTelephony reason
  | autoGeo => exact hdeaf.mirrors_detectByLocation reason

/-! ### Changes of configurations -/

theorem mirrors_forgetLocation : Mirrors W Eq (Arbiter.transcribed host tell).forgetLocation
    (Arbiter.transcribed host tell').forgetLocation := by
  have hforget : Mirrors W Eq
      (Effect.remember fun m => { m with geolocation := none } : Effect (Transcribed ω) Unit)
      (Effect.remember fun m => { m with geolocation := none }) :=
    .remember fun m m' hm => congrArg (fun m : Memory => { m with geolocation := none }) hm
  refine .memory fun m m' hm => ?_
  have hlatest : m.geolocation.isSome = m'.geolocation.isSome := by
    have := congrArg (fun m : Memory => m.geolocation.isSome) hm
    simpa [Memory.plain] using this
  rw [hlatest]
  split
  · exact (hdeaf.note _ _).next fun _ => hforget
  · exact hforget

section Listeners

variable (htell : ∀ id, Mirrors W Eq (tell id) (tell' id))
include htell

/-- A change is followed up by the same listeners and the same detection. -/
theorem mirrors_configurationChanged (previous : Option Configuration) (c : Configuration)
    (reason : Reason) :
    Mirrors W Eq ((Arbiter.transcribed host tell).configurationChanged previous c reason)
      ((Arbiter.transcribed host tell').configurationChanged previous c reason) := by
  have hdetect (current : Int) : Mirrors W Eq
      (do
        (Arbiter.transcribed host tell).callListeners
        if c.user = current then (Arbiter.transcribed host tell).detect c reason)
      (do
        (Arbiter.transcribed host tell').callListeners
        if c.user = current then (Arbiter.transcribed host tell').detect c reason) := by
    refine (Arbiter.mirrors_callListeners htell).next fun _ => ?_
    split
    · exact hdeaf.mirrors_detect c reason
    · exact .pure rfl
  have hrest : Mirrors W Eq
      ((Arbiter.transcribed host tell).currentUser >>= fun current => do
        if c.user = current ∧ c.geoBehavior = false then
          (Arbiter.transcribed host tell).forgetLocation
        (Arbiter.transcribed host tell).callListeners
        if c.user = current then (Arbiter.transcribed host tell).detect c reason)
      ((Arbiter.transcribed host tell').currentUser >>= fun current => do
        if c.user = current ∧ c.geoBehavior = false then
          (Arbiter.transcribed host tell').forgetLocation
        (Arbiter.transcribed host tell').callListeners
        if c.user = current then (Arbiter.transcribed host tell').detect c reason) := by
    refine hdeaf.mirrors_currentUser.next fun current => ?_
    dsimp only
    split
    · exact hdeaf.mirrors_forgetLocation.next fun _ => hdetect current
    · exact hdetect current
  unfold Arbiter.configurationChanged
  split
  · exact (hdeaf.note _ _).next fun _ => hrest
  · exact hrest

theorem mirrors_receiveReport : Mirrors W Eq (Arbiter.transcribed host tell).receiveReport
    (Arbiter.transcribed host tell').receiveReport := by
  refine hdeaf.mirrors_currentUser.next fun user =>
    (Effect.Mirrors.call (hdeaf.configurationOf user) _).next fun c => .memory fun m m' hm => ?_
  have hrecords : m.plain.records = m'.plain.records := congrArg Memory.records hm
  have htracked : m.plain.trackedUser = m'.plain.trackedUser := congrArg Memory.trackedUser hm
  rw [show m'.records = m.records from hrecords.symm,
    show m'.trackedUser = m.trackedUser from htracked.symm]
  refine (Effect.Mirrors.remember fun m m' hm =>
    congrArg (fun m : Memory => { m with trackedUser := user }) hm).next fun _ => ?_
  split
  · exact .pure rfl
  · refine (Effect.Mirrors.remember fun m m' hm =>
      congrArg (fun m : Memory => { m with records := m.records.replace c }) hm).next fun _ => ?_
    split
    · exact hdeaf.note _ _
    · exact (hdeaf.note _ _).next fun _ => hdeaf.mirrors_configurationChanged htell _ _ _

theorem mirrors_persist (user : Int) (change : ConfigurationChange) :
    Mirrors W Eq ((Arbiter.transcribed host tell).persist user change)
      ((Arbiter.transcribed host tell').persist user change) := by
  refine (Effect.Mirrors.call (hdeaf.storeConfiguration user change) _).next fun due => ?_
  split
  · exact (hdeaf.mirrors_receiveReport htell).next fun _ => .call hdeaf.finishStore _
  · exact .call hdeaf.finishStore _

theorem mirrors_updateConfiguration (user : Int) (change : ConfigurationChange) :
    Mirrors W Eq ((Arbiter.transcribed host tell).updateConfiguration user change)
      ((Arbiter.transcribed host tell').updateConfiguration user change) := by
  refine (hdeaf.mirrors_recordOf user).next fun old => ?_
  cases old.grant? change with
  | none => exact (hdeaf.note _ _).next fun _ => .pure rfl
  | some new =>
      refine (Effect.Mirrors.remember fun m m' hm =>
        congrArg (fun m : Memory => { m with records := m.records.replace new }) hm).next fun _ =>
          (hdeaf.mirrors_persist htell user change).next fun _ => ?_
      split
      · exact (hdeaf.note _ _).next fun _ =>
          (hdeaf.mirrors_configurationChanged htell _ _ _).next fun _ => .pure rfl
      · exact .pure rfl

end Listeners

/-! ### Suggestions -/

theorem mirrors_suggestManual (user : Int) (pick : ManualSuggestion) :
    Mirrors W Eq ((Arbiter.transcribed host tell).suggestManual user pick)
      ((Arbiter.transcribed host tell').suggestManual user pick) := by
  refine (hdeaf.mirrors_recordOf user).next fun c => ?_
  dsimp only
  split
  · exact (hdeaf.mirrors_moveTo _ _).next fun _ => .pure rfl
  · exact (hdeaf.note _ _).next fun _ => .pure rfl

/-- A suggestion is recorded with its debug lines, which are all that the tables differ in. -/
theorem mirrors_suggestTelephony {s s' : TelephonySuggestion} (h : s.plain = s'.plain) :
    Mirrors W Eq ((Arbiter.transcribed host tell).suggestTelephony s)
      ((Arbiter.transcribed host tell').suggestTelephony s') := by
  have hslot : s'.slot = s.slot := (congrArg (·.slot) h).symm
  have hlacks : Telephony.lacksQuality s' = Telephony.lacksQuality s :=
    (congrArg Telephony.lacksQuality h).symm
  have hscoring : Mirrors W Eq ((Notice.ofScoring s).forM (Arbiter.transcribed host tell).note)
      ((Notice.ofScoring s').forM (Arbiter.transcribed host tell').note) := by
    unfold Notice.ofScoring
    rw [hlacks]
    split
    · exact (hdeaf.note _ _).next fun _ => .pure rfl
    · exact .pure rfl
  refine hscoring.next fun _ => (Effect.Mirrors.remember fun m m' hm => ?_).next fun _ =>
    (hdeaf.note _ _).next fun _ => hdeaf.mirrors_currentRecord.next fun c => ?_
  · show ({ m.plain with telephony := (m.telephony.record s).plain } : Memory) =
      { m'.plain with telephony := (m'.telephony.record s').plain }
    rw [Telephony.Table.plain_record, Telephony.Table.plain_record, ← h]
    exact congrArg (fun m : Memory => { m with telephony := m.telephony.record s.plain }) hm
  · rw [hslot]
    exact hdeaf.mirrors_detect c _

/-- A geolocation suggestion is held with its debug lines. -/
theorem mirrors_suggestGeo {s s' : GeoSuggestion} (h : s.plain = s'.plain) :
    Mirrors W Eq ((Arbiter.transcribed host tell).suggestGeo s)
      ((Arbiter.transcribed host tell').suggestGeo s') := by
  refine hdeaf.mirrors_currentRecord.next fun c => ?_
  split
  · refine (Effect.Mirrors.remember fun m m' hm => ?_).next fun _ => hdeaf.mirrors_detect c _
    show ({ m.plain with geolocation := some s.plain } : Memory) =
      { m'.plain with geolocation := some s'.plain }
    rw [← h]
    exact congrArg (fun m : Memory => { m with geolocation := some s.plain }) hm
  · exact hdeaf.note _ _

/-! ### Queries and the status page -/

/-- What is answered about a slot has the debug lines of its own side. -/
theorem mirrors_latestTelephony (slot : Int) :
    Mirrors W (fun found found' => found.map Telephony.Qualified.plain =
        found'.map Telephony.Qualified.plain)
      ((Arbiter.transcribed host tell).latestTelephony slot)
      ((Arbiter.transcribed host tell').latestTelephony slot) := by
  refine .memory fun m m' hm => ?_
  have hfound : (m.telephony.get? slot).map Telephony.Qualified.plain =
      (m'.telephony.get? slot).map Telephony.Qualified.plain := by
    rw [← Telephony.Table.get?_plain, ← Telephony.Table.get?_plain]
    exact congrArg (fun m : Memory => m.telephony.get? slot) hm
  have hmissing : (m'.telephony.get? slot).isNone = (m.telephony.get? slot).isNone := by
    simpa using (congrArg Option.isNone hfound).symm
  have hlookup : Mirrors W Eq
      ((Notice.ofLookup slot (m.telephony.get? slot)).forM (Arbiter.transcribed host tell).note)
      ((Notice.ofLookup slot (m'.telephony.get? slot)).forM
        (Arbiter.transcribed host tell').note) := by
    unfold Notice.ofLookup
    rw [hmissing]
    split
    · exact (hdeaf.note _ _).next fun _ => .pure rfl
    · exact .pure rfl
  exact hlookup.next fun _ => .pure hfound

/-- A status page ends the same way, whatever it shows. -/
theorem mirrors_overview (args : List String) (page : Status.Page) :
    Mirrors W (fun written written' => written.2 = written'.2)
      ((Arbiter.transcribed host tell).overview args page)
      ((Arbiter.transcribed host tell').overview args page) := by
  have hwrites : Writing.Mirrors W ((Arbiter.transcribed host tell).writeStatus args)
      ((Arbiter.transcribed host tell').writeStatus args) := by
    refine .act hdeaf.mirrors_currentRecord fun _ _ _ => .act .readMemory fun _ _ _ => .put _ _ <|
      .act (Effect.Mirrors.call hdeaf.zoneInitialized _) fun _ _ _ => .put _ _ <|
        .act hdeaf.mirrors_currentZone fun _ _ _ => .put _ _ <|
          .act .readMemory fun m m' hm => .put _ _ <| .put _ _ <| .put _ _ <| .put _ _ ?_
    have hadded : m.plain.appendices = m'.plain.appendices := congrArg Memory.appendices hm
    rw [show m'.appendices = m.appendices from hadded.symm]
    exact .appendices m.appendices args
  intro s s' hs
  have hpages := hwrites page page hs
  unfold Arbiter.overview
  obtain ⟨_, _, t, t', hrun, hrun', -, ht⟩ | ⟨fault, t, t', hrun, hrun', ht⟩ := hpages.cases
  all_goals
    rw [hrun, hrun']
    exact ⟨rfl, ht⟩

end Arbiter.Host.Deaf

end Arbiter

end ZoneArbiter
