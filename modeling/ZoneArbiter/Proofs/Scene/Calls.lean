import ZoneArbiter.Proofs.Coherence

/-!
# ZoneArbiter.Proofs.Scene.Calls

**Whom a scene calls on its way.** `sc.Calls rounds writes sc'` says that between `sc`
and `sc'` every registered listener was called `rounds` times over, in the order of
registration, and that the device was told to go to `writes`. Calls add up along
`Calls.trans`, so what an operation calls is put together from the few places where
anything is called at all: `Scene.tell` calls the listeners, and `Scene.moveTo` writes
the zone.

A report calls the listeners once if it finds news, and else nobody
(`Calls.report_of_news`, `Calls.report_of_none`). That is why the report which the
device makes of the arbiter's own change is not heard.
-/

namespace ZoneArbiter

open Session (Event)

/-- The listener that an event calls, if it calls one. -/
def Session.Event.listener? : Event → Option String
  | .listenerCalled name => some name
  | _ => none

/-- The zone that an event tells the device to go to, if it tells it so. -/
def Session.Event.written? : Event → Option (Option String)
  | .zoneWrite zone => some zone
  | _ => none

/-- The listeners called, in order. -/
def Session.told (events : List Event) : List String := events.filterMap Event.listener?

/-- The zones that the device was told to go to, in order. -/
def Session.written (events : List Event) : List (Option String) :=
  events.filterMap Event.written?

/-- Who was called does not depend on what was logged. -/
theorem Session.told_filter_isCall (events : List Event) :
    Session.told (events.filter Event.isCall) = Session.told events := by
  rw [told, told, List.filterMap_filter]
  congr 1
  funext e
  cases e <;> rfl

theorem Session.written_filter_isCall (events : List Event) :
    Session.written (events.filter Event.isCall) = Session.written events := by
  rw [written, written, List.filterMap_filter]
  congr 1
  funext e
  cases e <;> rfl

namespace Scene

/-- The listeners called so far. -/
def told (sc : Scene) : List String := Session.told sc.calls

/-- The zones that the device was told to go to so far. -/
def written (sc : Scene) : List (Option String) := Session.written sc.calls

/-- The names of the registered listeners, in the order of registration. -/
def roll (sc : Scene) : List String := sc.memory.listeners.filterMap (sc.names[·]?)

/-- The move that it takes to bring the device to a zone: none if it is there. -/
def hop (sc : Scene) (zone : String) : Option String :=
  if sc.device.zone = some zone then none else some zone

/-- The move that detection makes. -/
def detectHop (sc : Scene) (c : Configuration) (reason : Reason) : Option String :=
  (sc.proposal c reason).bind fun proposed => sc.hop proposed.1

/-- What is recorded of a move. -/
def noted (sc : Scene) (move : Option String) : List (Option String) :=
  if sc.recorded then move.toList.map some else []

/-- From `sc` to `sc'` every listener was called `rounds` times over and the device was
told to go to `writes`; who listens, and whether calls of the device are recorded, is
the same. -/
structure Calls (sc : Scene) (rounds : Nat) (writes : List (Option String)) (sc' : Scene) :
    Prop where
  recorded : sc'.recorded = sc.recorded
  names : sc'.names = sc.names
  listeners : sc'.memory.listeners = sc.memory.listeners
  told : sc'.told = sc.told ++ (List.replicate rounds sc.roll).flatten
  written : sc'.written = sc.written ++ writes

namespace Calls

variable {sc sc' sc'' : Scene} {m n : Nat} {before after : List (Option String)}

theorem roll_eq (h : sc.Calls n before sc') : sc'.roll = sc.roll := by
  rw [roll, roll, h.listeners, h.names]

theorem written_eq (h : sc.Calls n [] sc') : sc'.written = sc.written :=
  h.written.trans (List.append_nil _)

/-- Where nothing is recorded, nobody was called. -/
theorem of_calls (hcalls : sc'.calls = sc.calls) (hrecorded : sc'.recorded = sc.recorded)
    (hnames : sc'.names = sc.names) (hlisteners : sc'.memory.listeners = sc.memory.listeners) :
    sc.Calls 0 [] sc' := by
  refine ⟨hrecorded, hnames, hlisteners, ?_, ?_⟩
  · simp [Scene.told, hcalls]
  · simp [Scene.written, hcalls]

theorem refl (sc : Scene) : sc.Calls 0 [] sc := of_calls rfl rfl rfl rfl

/-- Calls add up, and so do the zones that were written. -/
theorem trans (h : sc.Calls m before sc') (h' : sc'.Calls n after sc'') :
    sc.Calls (m + n) (before ++ after) sc'' where
  recorded := h'.recorded.trans h.recorded
  names := h'.names.trans h.names
  listeners := h'.listeners.trans h.listeners
  told := by
    rw [h'.told, h.told, h.roll_eq, List.append_assoc, ← List.flatten_append,
      List.replicate_append_replicate]
  written := by rw [h'.written, h.written, List.append_assoc]

theorem quietly (h : sc.Calls 0 [] sc') (h' : sc'.Calls n after sc'') : sc.Calls n after sc'' := by
  simpa using h.trans h'

theorem thenQuiet (h : sc.Calls n before sc') (h' : sc'.Calls 0 [] sc'') :
    sc.Calls n before sc'' := by
  simpa using h.trans h'

/-! ### The operations that call nobody -/

theorem load (sc : Scene) (user : Int) : sc.Calls 0 [] (sc.load user) := by
  unfold Scene.load
  split
  · exact refl sc
  · exact of_calls rfl rfl rfl rfl

theorem adopt (sc : Scene) (c : Configuration) : sc.Calls 0 [] (sc.adopt c) :=
  of_calls rfl rfl rfl rfl

theorem track (sc : Scene) : sc.Calls 0 [] sc.track := of_calls rfl rfl rfl rfl

theorem forget (sc : Scene) : sc.Calls 0 [] sc.forget := of_calls rfl rfl rfl rfl

theorem onDevice (sc : Scene) (f : Device → Device) : sc.Calls 0 [] (sc.onDevice f) :=
  of_calls rfl rfl rfl rfl

/-- A call of the device is no call of a listener. -/
theorem deviceCall (sc : Scene) {e : Event} (he : e.listener? = none) :
    sc.Calls 0 (if sc.recorded then e.written?.toList else []) (sc.deviceCall e) := by
  unfold Scene.deviceCall
  split
  · refine ⟨rfl, rfl, rfl, ?_, ?_⟩
    · simp [Scene.told, Session.told, call, he]
    · cases hwritten : e.written? <;> simp [Scene.written, Session.written, call, hwritten]
  · exact refl sc

/-- Persisting settings is a call of the device, but not one that moves it. -/
theorem store (sc : Scene) (user : Int) (change : ConfigurationChange) :
    sc.Calls 0 [] ((sc.deviceCall (.storeCall user change)).onDevice fun d =>
      (d.store user change).2) := by
  have hcall := deviceCall sc (e := .storeCall user change) rfl
  rw [show (if sc.recorded then (Event.storeCall user change).written?.toList else []) = [] by
    split <;> rfl] at hcall
  exact hcall.thenQuiet (onDevice _ _)

/-! ### The operations that call somebody -/

/-- Telling calls every listener once. -/
theorem tell (sc : Scene) : sc.Calls 1 [] sc.tell := by
  have hevents (names : List String) :
      (names.map Event.listenerCalled).filterMap Event.listener? = names ∧
        (names.map Event.listenerCalled).filterMap Event.written? = [] := by
    induction names with
    | nil => exact ⟨rfl, rfl⟩
    | cons name rest ih => simpa [Event.listener?, Event.written?] using ih
  refine ⟨rfl, rfl, rfl, ?_, ?_⟩
  · simp [Scene.told, Session.told, Scene.tell, call, hevents, Scene.roll]
  · simp [Scene.written, Session.written, Scene.tell, call, hevents]

/-- A move writes the zone unless the device is there. -/
theorem moveTo (sc : Scene) (zone : String) (cause : Cause) :
    sc.Calls 0 (sc.noted (sc.hop zone)) (sc.moveTo zone cause) := by
  unfold Scene.moveTo hop noted
  by_cases hzone : sc.device.zone = some zone
  · rw [if_pos hzone, if_pos hzone]
    simpa using refl sc
  · rw [if_neg hzone, if_neg hzone]
    exact (deviceCall sc (e := .zoneWrite (some zone)) rfl).thenQuiet (of_calls rfl rfl rfl rfl)

theorem setZone (sc : Scene) (zone : Option String) :
    sc.Calls 0 (if sc.recorded then [zone] else [])
      ((sc.deviceCall (.zoneWrite zone)).onDevice (·.setZone zone)) :=
  (deviceCall sc (e := .zoneWrite zone) rfl).thenQuiet (onDevice _ _)

/-- Detection calls no listener, and writes the zone that it goes to. -/
theorem detect (sc : Scene) (c : Configuration) (reason : Reason) :
    sc.Calls 0 (sc.noted (sc.detectHop c reason)) (sc.detect c reason) := by
  unfold Scene.detect detectHop
  cases sc.proposal c reason with
  | none => simpa [noted] using refl sc
  | some proposed => exact moveTo sc proposed.1 proposed.2

/-- A change of the record in effect calls every listener once. -/
theorem changed (sc : Scene) (c : Configuration) : sc.Calls 1 [] (sc.changed c) := by
  unfold Scene.changed
  split
  · exact tell sc
  · exact (forget sc).quietly (tell _)

/-! ### Reports -/

/-- A report that finds nothing new, or a first record, calls nobody. -/
theorem report_of_none (hfiled : sc.device.Filed)
    (htracked : sc.memory.trackedUser = sc.device.currentUser)
    (hknown : ∀ known, sc.memory.records.peek sc.device.currentUser = some known →
      known = sc.device.inEffect) : sc.Calls 0 [] sc.report := by
  cases hpeek : sc.memory.records.peek sc.device.currentUser with
  | none =>
      rw [report_of_first hfiled htracked hpeek]
      exact adopt sc _
  | some known =>
      rw [report_of_known hfiled htracked (hknown known hpeek ▸ hpeek)]
      exact refl sc

/-- A report that finds news calls every listener once before detection. -/
theorem report_of_news (sc : Scene) :
    sc.Calls 1 [] ((sc.track.adopt sc.device.inEffect).changed sc.device.inEffect) :=
  ((track sc).quietly (adopt _ _)).quietly (changed _ _)

end Calls

end Scene

end ZoneArbiter
