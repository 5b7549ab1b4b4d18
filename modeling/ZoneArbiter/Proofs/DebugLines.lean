import Mathlib.Data.List.Forall2
import ZoneArbiter.Proofs.Boundary.InMemory
import ZoneArbiter.Proofs.DebugLines.Mirror
import ZoneArbiter.Proofs.Delay

/-!
# ZoneArbiter.Proofs.DebugLines

**Debug lines never influence arbitration** (`debug_lines_inert`). Take two runs of the arbiter that
differ in the debug lines of suggestions alone. Whatever is asked, it is answered with the same, but
for the debug lines of suggestions, or it fails with the same fault; the calls of the host and of
the listeners are the same, in the same order; and the same zones are entered in the change log.

The host may be changed from outside at any time, and any call may fail. Listeners may call the
arbiter again, to any depth, and suggest with other debug lines in the other run (`Paired`). What a
listener makes of an answer must then not depend on debug lines either (`Mimics`).

A status page shows debug lines and times. It agrees with any other that was cut short by the same
fault, or not at all.
-/

namespace ZoneArbiter

open Arbiter (Host ListenerId Request)
open Effect
open Session (Answer World)

/-! ### Requests and answers -/

/-- A call of the arbiter from outside, with what it is answered with. -/
def Arbiter.answer {ω : Type} (a : Arbiter ω) : Request → Effect ω Answer
  | .current => return .record (← a.currentRecord)
  | .capabilities user => do
      let (caps, settings) ← a.capabilitiesAndSettings user
      return .capabilities caps settings
  | .update user change => return .flag (← a.updateConfiguration user change)
  | .manual user pick => return .flag (← a.suggestManual user pick)
  | .telephony suggestion => do
      a.suggestTelephony suggestion
      return .done
  | .geo suggestion => do
      a.suggestGeo suggestion
      return .done
  | .latestTelephony slot => return .telephony (← a.latestTelephony slot)
  | .latestGeo => return .geo (← Arbiter.latestGeo)
  | .best => return .telephony (← Arbiter.bestTelephony)
  | .addListener id => do
      Arbiter.addListener id
      return .done
  | .addAppendix appendix => do
      Arbiter.addAppendix appendix
      return .done
  | .status args page => do
      let (page, fault) ← a.overview args page
      return .page page.text fault

/-- The requests are the same, but for the debug lines of a suggestion. -/
inductive Arbiter.Request.Agrees : Request → Request → Prop
  | refl (r : Request) : Agrees r r
  | telephony {s s' : TelephonySuggestion} (h : s.agrees s' = true) :
      Agrees (.telephony s) (.telephony s')
  | geo {s s' : GeoSuggestion} (h : s.agrees s' = true) : Agrees (.geo s) (.geo s')

/-- The answers are the same, but for the debug lines of suggestions and the text of a status
page. -/
inductive Session.Answer.Agrees : Answer → Answer → Prop
  | refl (x : Answer) : Agrees x x
  | telephony {q q' : Option Telephony.Qualified}
      (h : q.Rel (fun q q' => q.agrees q' = true) q') : Agrees (.telephony q) (.telephony q')
  | geo {s s' : Option GeoSuggestion} (h : s.Rel (fun s s' => s.agrees s' = true) s') :
      Agrees (.geo s) (.geo s')
  | page (text text' : String) (fault : Option Fault) :
      Agrees (.page text fault) (.page text' fault)

section Answers

variable {ω : Type} {W : ω → ω → Prop} {host : Host ω}
  {tell tell' : ListenerId → Effect (Transcribed ω) Unit}

/-- The same is made of the same answer. -/
theorem Arbiter.mirrors_answering {α : Type} {e e' : Effect (Transcribed ω) α}
    (h : Mirrors W Eq e e') (answer : α → Answer) :
    Mirrors W Answer.Agrees (e >>= fun x => pure (answer x)) (e' >>= fun x => pure (answer x)) :=
  h.next fun x => .pure (.refl (answer x))

/-- **Requests that agree are answered alike.** -/
theorem Arbiter.Host.Deaf.mirrors_answer (hdeaf : host.Deaf W)
    (htell : ∀ id, Mirrors W Eq (tell id) (tell' id)) {r r' : Request} (h : r.Agrees r') :
    Mirrors W Answer.Agrees ((Arbiter.transcribed host tell).answer r)
      ((Arbiter.transcribed host tell').answer r') := by
  cases h with
  | telephony h =>
      exact Arbiter.mirrors_answering
        (hdeaf.mirrors_suggestTelephony (TelephonySuggestion.agrees_iff.mp h)) fun _ => .done
  | geo h =>
      exact Arbiter.mirrors_answering
        (hdeaf.mirrors_suggestGeo (GeoSuggestion.agrees_iff.mp h)) fun _ => .done
  | refl r =>
      cases r with
      | current => exact Arbiter.mirrors_answering hdeaf.mirrors_currentRecord .record
      | capabilities user =>
          have hasked : Mirrors W Eq
              ((Arbiter.transcribed host tell).capabilitiesAndSettings user)
              ((Arbiter.transcribed host tell').capabilitiesAndSettings user) :=
            (hdeaf.mirrors_recordOf user).next fun c => .pure rfl
          exact Arbiter.mirrors_answering hasked fun (caps, settings) => .capabilities caps settings
      | update user change =>
          exact Arbiter.mirrors_answering
            (hdeaf.mirrors_updateConfiguration htell user change) .flag
      | manual user pick =>
          exact Arbiter.mirrors_answering (hdeaf.mirrors_suggestManual user pick) .flag
      | telephony s =>
          exact Arbiter.mirrors_answering (hdeaf.mirrors_suggestTelephony rfl) fun _ => .done
      | geo s => exact Arbiter.mirrors_answering (hdeaf.mirrors_suggestGeo rfl) fun _ => .done
      | latestTelephony slot =>
          exact (hdeaf.mirrors_latestTelephony slot).bind fun found found' hfound => .pure <|
            .telephony <| Option.rel_of_map_eq Telephony.Qualified.agrees_iff.mpr hfound
      | latestGeo =>
          refine Effect.Mirrors.bind (Q := fun s s' => s.map GeoSuggestion.plain =
              s'.map GeoSuggestion.plain) (.memory fun m m' hm => .pure ?_)
            fun s s' hs => .pure <| .geo <| Option.rel_of_map_eq GeoSuggestion.agrees_iff.mpr hs
          exact congrArg Arbiter.Memory.geolocation hm
      | best =>
          refine Effect.Mirrors.bind (Q := fun q q' => q.map Telephony.Qualified.plain =
              q'.map Telephony.Qualified.plain) (.memory fun m m' hm => .pure ?_)
            fun q q' hq => .pure <| .telephony <|
              Option.rel_of_map_eq Telephony.Qualified.agrees_iff.mpr hq
          rw [← Telephony.Table.best?_plain, ← Telephony.Table.best?_plain]
          exact congrArg (fun m : Arbiter.Memory => m.telephony.best?) hm
      | addListener id =>
          have hadded : Mirrors W Eq (Arbiter.addListener id : Effect (Transcribed ω) Unit)
              (Arbiter.addListener id) :=
            .remember fun m m' hm => congrArg (fun m : Arbiter.Memory =>
              { m with listeners := m.listeners ++ [id] }) hm
          exact Arbiter.mirrors_answering hadded fun _ => .done
      | addAppendix appendix =>
          have hadded : Mirrors W Eq (Arbiter.addAppendix appendix : Effect (Transcribed ω) Unit)
              (Arbiter.addAppendix appendix) :=
            .remember fun m m' hm => congrArg (fun m : Arbiter.Memory =>
              { m with appendices := m.appendices ++ [appendix] }) hm
          exact Arbiter.mirrors_answering hadded fun _ => .done
      | status args page =>
          refine (hdeaf.mirrors_overview args page).bind fun written written' hfault => .pure ?_
          obtain ⟨page, fault⟩ := written
          obtain ⟨page', fault'⟩ := written'
          obtain rfl : fault = fault' := hfault
          exact .page page.text page'.text fault

end Answers

/-! ### Listeners -/

section Listeners

variable {ω : Type} {W : ω → ω → Prop} {host : Host ω}

theorem Effect.Mirrors.aside {α : Type} {call : EStateM Fault ω α} (h : Unaware W call) :
    Mirrors W Eq (onHost (Transcribed.aside call)) (onHost (Transcribed.aside call)) := by
  intro s s' hs
  rw [Effect.aside_eq, Effect.aside_eq]
  obtain ⟨x, y, w, v, hrun, hrun', hxy, hworld⟩ | ⟨fault, w, v, hrun, hrun', hworld⟩ :=
    (h hs.world).cases
  · rw [hrun, hrun']
    exact ⟨hxy, hs.memory, hs.contacts, hworld⟩
  · rw [hrun, hrun']
    exact ⟨rfl, hs.memory, hs.contacts, hworld⟩

/-- What a listener may do in the one run and in the other, with arbiters whose own listeners are
`tell` and `tell'`. It may act on the world, deliver reports, ask the arbiter, read the change log,
fail, catch faults, and go on from an answer in the one run as it does from the answer that
corresponds to it in the other. -/
inductive Mimics (host : Host ω) (W : ω → ω → Prop)
    (tell tell' : ListenerId → Effect (Transcribed ω) Unit) : {α β : Type} → (α → β → Prop) →
    Effect (Transcribed ω) α → Effect (Transcribed ω) β → Prop
  | ret {α β : Type} {Q : α → β → Prop} {x : α} {y : β} (h : Q x y) :
      Mimics host W tell tell' Q (pure x) (pure y)
  | fail {α β : Type} {Q : α → β → Prop} (fault : Fault) :
      Mimics host W tell tell' Q (throw fault) (throw fault)
  | act {α : Type} {call : EStateM Fault ω α} (h : Unaware W call) :
      Mimics host W tell tell' Eq (onHost (Transcribed.aside call))
        (onHost (Transcribed.aside call))
  | report : Mimics host W tell tell' Eq (Arbiter.transcribed host tell).receiveReport
      (Arbiter.transcribed host tell').receiveReport
  | ask {r r' : Request} (h : r.Agrees r') :
      Mimics host W tell tell' Answer.Agrees ((Arbiter.transcribed host tell).answer r)
        ((Arbiter.transcribed host tell').answer r')
  | changes : Mimics host W tell tell' (fun log log' => log.undated = log'.undated)
      (do return (← memory).changes) (do return (← memory).changes)
  | bind {α β γ δ : Type} {Q : α → β → Prop} {R : γ → δ → Prop} {e : Effect (Transcribed ω) α}
      {e' : Effect (Transcribed ω) β} {f : α → Effect (Transcribed ω) γ}
      {f' : β → Effect (Transcribed ω) δ} (h : Mimics host W tell tell' Q e e')
      (hf : ∀ x y, Q x y → Mimics host W tell tell' R (f x) (f' y)) :
      Mimics host W tell tell' R (e >>= f) (e' >>= f')
  | attempt {α β : Type} {Q : α → β → Prop} {e : Effect (Transcribed ω) α}
      {e' : Effect (Transcribed ω) β} (h : Mimics host W tell tell' Q e e') :
      Mimics host W tell tell' (Likewise Q) (attempt e) (attempt e')

/-- The listeners of the one run and of the other. They call arbiters whose listeners are paired in
turn, down to a depth at which listeners fail at once. -/
inductive Paired (host : Host ω) (W : ω → ω → Prop) :
    (ListenerId → Effect (Transcribed ω) Unit) →
    (ListenerId → Effect (Transcribed ω) Unit) → Prop
  | deepest (fault : ListenerId → Fault) :
      Paired host W (fun id => throw (fault id)) fun id => throw (fault id)
  | reentrant {inner inner' tell tell' : ListenerId → Effect (Transcribed ω) Unit}
      (h : Paired host W inner inner')
      (hmimics : ∀ id, Mimics host W inner inner' Eq (tell id) (tell' id)) :
      Paired host W tell tell'

/-- What a listener does mirrors what it does in the other run, if the listeners of the arbiter that
it asks do. -/
theorem Mimics.mirrors (hdeaf : host.Deaf W)
    {tell tell' : ListenerId → Effect (Transcribed ω) Unit}
    (htell : ∀ id, Mirrors W Eq (tell id) (tell' id)) {α β : Type} {Q : α → β → Prop}
    {e : Effect (Transcribed ω) α} {e' : Effect (Transcribed ω) β}
    (h : Mimics host W tell tell' Q e e') : Mirrors W Q e e' := by
  induction h with
  | ret h => exact .pure h
  | fail fault => exact .fail fault
  | act h => exact .aside h
  | report => exact hdeaf.mirrors_receiveReport htell
  | ask h => exact hdeaf.mirrors_answer htell h
  | changes => exact .memory fun m m' hm => .pure (congrArg Arbiter.Memory.changes hm)
  | bind _ _ ih ihf => exact ih.bind ihf
  | attempt _ ih => exact ih.attempt

/-- Paired listeners mirror each other, from the innermost outwards. -/
theorem Paired.mirrors (hdeaf : host.Deaf W)
    {tell tell' : ListenerId → Effect (Transcribed ω) Unit} (h : Paired host W tell tell')
    (id : ListenerId) : Mirrors W Eq (tell id) (tell' id) := by
  induction h generalizing id with
  | deepest fault => exact .fail (fault id)
  | reentrant _ hmimics ih => exact (hmimics id).mirrors hdeaf ih

end Listeners

/-! ### Runs -/

/-- What may happen to an arbiter. -/
inductive Occurrence (ω : Type)
  /-- The host's state is changed by a call from outside. If that says so, the arbiter handles a
  report before the rest of the call is done. -/
  | outside (call : EStateM Fault ω Bool) (rest : EStateM Fault ω Unit)
  /-- The arbiter is asked. -/
  | ask (r : Request)

/-- What is seen of an arbiter after an occurrence. -/
structure Sight where
  /-- How it ended. -/
  ended : Except Fault Answer
  /-- All contacts so far. -/
  contacts : List Contact
  /-- The change log. -/
  changes : ChangeLog

section Runs

variable {ω : Type} {W : ω → ω → Prop} {host : Host ω}

/-- The arbiter's part in an occurrence, with what it is answered with. -/
def Arbiter.meet (a : Arbiter (Transcribed ω)) : Occurrence ω → Effect (Transcribed ω) Answer
  | .outside call rest => do
      if ← onHost (Transcribed.aside call) then a.receiveReport
      onHost (Transcribed.aside rest)
      return .done
  | .ask r => a.answer r

/-- What is seen of an arbiter, after each occurrence of a run. -/
def Arbiter.watch (a : Arbiter (Transcribed ω)) :
    List (Occurrence ω) → System (Transcribed ω) → List Sight
  | [], _ => []
  | occurrence :: run, s =>
      match a.meet occurrence s with
      | .ok answer s => ⟨.ok answer, s.host.contacts, s.memory.changes⟩ :: a.watch run s
      | .error f s => ⟨.error f, s.host.contacts, s.memory.changes⟩ :: a.watch run s

/-- The occurrences are the same, but for the debug lines of a suggestion. -/
inductive Occurrence.Agrees (W : ω → ω → Prop) : Occurrence ω → Occurrence ω → Prop
  | outside {call : EStateM Fault ω Bool} {rest : EStateM Fault ω Unit} (hcall : Unaware W call)
      (hrest : Unaware W rest) : Agrees W (.outside call rest) (.outside call rest)
  | ask {r r' : Request} (h : r.Agrees r') : Agrees W (.ask r) (.ask r')

/-- What is seen is the same, but for debug lines and times. -/
structure Sight.Agrees (x y : Sight) : Prop where
  ended : Likewise Answer.Agrees x.ended y.ended
  contacts : x.contacts.map Contact.undated = y.contacts.map Contact.undated
  changes : x.changes.undated = y.changes.undated

/-- **One occurrence** mirrors any other that agrees with it. -/
theorem Occurrence.Agrees.mirrors (hdeaf : host.Deaf W)
    {tell tell' : ListenerId → Effect (Transcribed ω) Unit} (htell : Paired host W tell tell')
    {o o' : Occurrence ω} (h : o.Agrees W o') :
    Mirrors W Answer.Agrees ((Arbiter.transcribed host tell).meet o)
      ((Arbiter.transcribed host tell').meet o') := by
  cases h with
  | ask h => exact hdeaf.mirrors_answer (htell.mirrors hdeaf) h
  | @outside call rest hcall hrest =>
      have hdone : Mirrors W Answer.Agrees
          (onHost (Transcribed.aside rest) >>= fun _ => pure Answer.done)
          (onHost (Transcribed.aside rest) >>= fun _ => pure Answer.done) :=
        Arbiter.mirrors_answering (.aside hrest) fun _ => .done
      refine (Effect.Mirrors.aside hcall).next fun due => ?_
      dsimp only
      split
      · exact (hdeaf.mirrors_receiveReport (htell.mirrors hdeaf)).next fun _ => hdone
      · exact hdone

/-- A run from alike systems: what is seen agrees after each occurrence. -/
theorem agrees_watch (hdeaf : host.Deaf W)
    {tell tell' : ListenerId → Effect (Transcribed ω) Unit} (htell : Paired host W tell tell')
    {run run' : List (Occurrence ω)} (hrun : List.Forall₂ (Occurrence.Agrees W) run run')
    {s s' : System (Transcribed ω)} (hs : System.Alike W s s') :
    List.Forall₂ Sight.Agrees ((Arbiter.transcribed host tell).watch run s)
      ((Arbiter.transcribed host tell').watch run' s') := by
  induction hrun generalizing s s' with
  | nil => exact .nil
  | @cons o o' run run' ho _ ih =>
      have hseen {t t' : System (Transcribed ω)} (ht : System.Alike W t t') :
          t.memory.changes.undated = t'.memory.changes.undated :=
        congrArg Arbiter.Memory.changes ht.memory
      unfold Arbiter.watch
      obtain ⟨x, y, t, t', hend, hend', hxy, ht⟩ | ⟨fault, t, t', hend, hend', ht⟩ :=
        (ho.mirrors hdeaf htell hs).cases
      · rw [hend, hend']
        exact .cons ⟨.answered hxy, ht.contacts, hseen ht⟩ (ih ht)
      · rw [hend, hend']
        exact .cons ⟨.failed fault, ht.contacts, hseen ht⟩ (ih ht)

/-- **Debug lines are inert.** Two runs from the same system, in which the same happens but for the
debug lines of suggestions, also of those that listeners make, on a host whose states only the log
tells apart: after each occurrence the answers agree or the faults are the same, the host and the
listeners were called alike so far, and the change logs are the same but for the times. -/
theorem debug_lines_inert (hdeaf : host.Deaf W)
    {tell tell' : ListenerId → Effect (Transcribed ω) Unit} (htell : Paired host W tell tell')
    {run run' : List (Occurrence ω)} (hrun : List.Forall₂ (Occurrence.Agrees W) run run')
    (s : System (Transcribed ω)) :
    List.Forall₂ Sight.Agrees ((Arbiter.transcribed host tell).watch run s)
      ((Arbiter.transcribed host tell').watch run' s) :=
  agrees_watch hdeaf htell hrun ⟨rfl, rfl, hdeaf.refl s.host.world⟩

end Runs

/-! ### The device of a session -/

namespace Session.World

/-- The worlds are the same, but for the record of what happened. -/
def SameButTrace (w v : World) : Prop := ∃ trace, v = { w with trace }

variable {w v : World}

theorem unaware_guard (call : DeviceCall) : Unaware SameButTrace (guard call) := by
  rintro w _ ⟨trace, rfl⟩
  have hfault : ({ w with trace } : World).faultOf call = w.faultOf call := rfl
  rw [guard_eq, guard_eq, hfault]
  cases w.faultOf call <;> exact ⟨rfl, trace, rfl⟩

/-- A call that only looks at the device. -/
theorem unaware_read {α : Type} (call : DeviceCall) {answer : World → α}
    (hanswer : ∀ w trace, answer { w with trace } = answer w) :
    Unaware SameButTrace (guard call >>= fun _ => get >>= fun w => pure (answer w)) := by
  rintro w _ ⟨trace, rfl⟩
  have hfault : ({ w with trace } : World).faultOf call = w.faultOf call := rfl
  rw [guard_bind, guard_bind, hfault]
  cases w.faultOf call with
  | some fault => exact ⟨rfl, trace, rfl⟩
  | none => exact ⟨(hanswer w trace).symm, trace, rfl⟩

theorem unaware_setZone (zone : Option String) : Unaware SameButTrace (setZone zone) := by
  rintro w _ ⟨trace, rfl⟩
  obtain ⟨t, hrun⟩ := setZone_eq zone w
  obtain ⟨t', hrun'⟩ := setZone_eq zone { w with trace }
  have hfault : ({ w with trace } : World).faultOf .setDeviceZone = w.faultOf .setDeviceZone := rfl
  rw [hrun, hrun', hfault]
  cases w.faultOf .setDeviceZone <;> exact ⟨rfl, t', rfl⟩

theorem unaware_configurationOf (user : Int) : Unaware SameButTrace (configurationOf user) := by
  rintro w _ ⟨trace, rfl⟩
  obtain ⟨t, hrun⟩ := configurationOf_eq user w
  obtain ⟨t', hrun'⟩ := configurationOf_eq user { w with trace }
  have hfault : ({ w with trace } : World).faultOf .configurationOf =
      w.faultOf .configurationOf := rfl
  rw [hrun, hrun', hfault]
  cases w.faultOf .configurationOf with
  | some fault => exact ⟨rfl, trace, rfl⟩
  | none => exact ⟨rfl, t', rfl⟩

theorem unaware_storeConfiguration (user : Int) (settings : ConfigurationChange) :
    Unaware SameButTrace (storeConfiguration user settings) := by
  rintro w _ ⟨trace, rfl⟩
  obtain ⟨t, hrun⟩ := storeConfiguration_eq user settings w
  obtain ⟨t', hrun'⟩ := storeConfiguration_eq user settings { w with trace }
  have hfault : ({ w with trace } : World).faultOf .storeConfiguration =
      w.faultOf .storeConfiguration := rfl
  rw [hrun, hrun', hfault]
  cases w.faultOf .storeConfiguration <;> exact ⟨rfl, t', rfl⟩

theorem SameButTrace.readClock (h : SameButTrace w v) :
    SameEnd SameButTrace (fun _ _ => True) (readClock w) (readClock v) := by
  obtain ⟨trace, rfl⟩ := h
  rw [World.readClock, get_bind, get_bind]
  dsimp only
  cases Calendar.dateDefect? w.clock with
  | some defect => exact ⟨rfl, trace, rfl⟩
  | none => exact ⟨trivial, trace, rfl⟩

theorem SameButTrace.log (h : SameButTrace w v) (n n' : Notice) :
    SameButTrace (w.log n) (v.log n') := by
  obtain ⟨trace, rfl⟩ := h
  obtain ⟨t, hlog⟩ := w.log_eq n
  obtain ⟨t', hlog'⟩ := log_eq n' { w with trace }
  rw [hlog, hlog']
  exact ⟨t', rfl⟩

/-- A change of the device looks at the device and the rig alone. -/
theorem unaware_change (f : Device → Bool × Device) : Unaware SameButTrace (change f) := by
  rintro w _ ⟨trace, rfl⟩
  exact ⟨rfl, trace, rfl⟩

/-- The device of a session keeps a record of the lines that are logged, and does not look at it. -/
theorem deaf : host.Deaf SameButTrace where
  refl w := ⟨w.trace, rfl⟩
  log n n' h := h.log n n'
  currentUser := unaware_read .currentUser fun _ _ => rfl
  configurationOf := unaware_configurationOf
  zoneInitialized := unaware_read .zoneInitialized fun _ _ => rfl
  deviceZone := unaware_read .deviceZone fun _ _ => rfl
  setDeviceZone zone := unaware_setZone (some zone)
  storeConfiguration := unaware_storeConfiguration
  finishStore := unaware_guard .finishStore
  readClock h := h.readClock

end Session.World

/-- The listeners of a session in two runs: whoever is called suggests a zone for slot 0, with debug
lines of the run, and then fails. -/
def Session.telling (debug : List String) (_ : ListenerId) : Effect (Transcribed World) Unit := do
  let _ ← (Arbiter.transcribed World.host fun _ => throw (.reported "too deep")).answer
    (.telephony ⟨0, some "Europe/Paris", some .networkCountryOnly, some .singleZone, debug⟩)
  throw (.reported "no answer")

theorem Session.paired_telling (debug debug' : List String) :
    Paired World.host World.SameButTrace (telling debug) (telling debug') :=
  .reentrant (.deepest fun _ => .reported "too deep") fun _ =>
    .bind (.ask (.telephony (by simp [TelephonySuggestion.agrees]))) fun _ _ _ =>
      .fail (.reported "no answer")

/-- A listener is registered, detection is switched on, slot 1 suggests, detection is switched off
on the device, and the best suggestion is asked for. -/
def Session.tellingRun (debug : List String) : List (Occurrence World) :=
  [.ask (.addListener 0), .ask (.update 1 ⟨some true, none⟩),
    .ask (.telephony (.withDebug
      ⟨1, some "Europe/Rome", some .networkCountryOnly, some .singleZone, []⟩ debug)),
    .outside (World.change (·.replace ⟨1, true, true, false, true, false⟩)) (pure ()),
    .ask .best]

/-- Whenever detection is switched, the listener is called, suggests its zone and fails. The two
runs agree in all that is seen, and only the debug lines tell the best suggestions apart. -/
theorem debug_lines_inert_telling :
    let opening := Session.Setup.opening ⟨1, true, true, false, true, false⟩ none
    let s : System (Transcribed World) := ⟨opening.memory, ⟨opening.host, []⟩⟩
    let watched (debug : List String) :=
      (Arbiter.transcribed World.host (Session.telling debug)).watch (Session.tellingRun debug) s
    let answers (debug : List String) : List (Option Answer) :=
      [some .done, none, some .done, none, some (.telephony (some ⟨⟨0, some "Europe/Paris",
        some .networkCountryOnly, some .singleZone, debug⟩, .high⟩))]
    List.Forall₂ Sight.Agrees (watched []) (watched ["cell 4"]) ∧
      (watched []).map (·.ended.toOption) = answers [] ∧
        (watched ["cell 4"]).map (·.ended.toOption) = answers ["cell 4"] := by
  intro opening s watched answers
  have hrun : List.Forall₂ (Occurrence.Agrees World.SameButTrace) (Session.tellingRun [])
      (Session.tellingRun ["cell 4"]) :=
    .cons (.ask (.refl _)) <| .cons (.ask (.refl _)) <|
      .cons (.ask (.telephony (by decide))) <|
        .cons (.outside (World.unaware_change _) fun _ _ h => ⟨rfl, h⟩) <|
          .cons (.ask (.refl _)) .nil
  exact ⟨debug_lines_inert World.deaf (Session.paired_telling [] ["cell 4"]) hrun s,
    by decide +kernel, by decide +kernel⟩

end ZoneArbiter
