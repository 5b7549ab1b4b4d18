import ZoneArbiter.Proofs.Settings

/-!
# ZoneArbiter.Proofs.Repetition

**Whatever changes something changes nothing when it is done again** (`repeated_changes_nothing`):
the second time it is answered as the first, calls no listener, and leaves every record, the
suggestions, the change log and the device as they are.

Each operation comes to rest for a reason of its own. A change is merged into a record that has
it; a suggestion is filed where it stands already; a location is one of the candidates by now; a
bootstrap leaves the device with a zone, so that it does not happen twice. `Scene.Done` lists these
reasons, one for each operation and answer. Two lemmas make the theorem of them: an operation
leads to a scene in which it is done (`Scene.done_after`), and in such a scene it plays without
anything happening (`Scene.Done.plays`). No clock is read on the way, so the second time nothing
can fail.

Arbiter and device may have different records of a user in the background. That is of no account:
each of the two merges the change into its own, and each is at rest after that.
-/

namespace ZoneArbiter

open Session (Answer Step World)

/-! ### Records and tables that stay as they are -/

/-- Putting the record known in its own place changes nothing. -/
theorem Records.replace_of_peek {r : Records} {c : Configuration} (h : r.peek c.user = some c) :
    r.replace c = r := by
  have hsame : r.byUser.insert c.user c = r.byUser := Keyed.ext_get? fun user => by
    rw [Keyed.get?_insert]
    split
    · rename_i heq
      rw [heq]
      exact h.symm
    · rfl
  show (⟨r.byUser.insert c.user c⟩ : Records) = r
  rw [hsame]

/-- A suggestion that was recorded is recorded. -/
theorem Telephony.Table.record_record (t : Table) (s : TelephonySuggestion) :
    (t.record s).record s = t.record s := by
  refine congrArg Table.mk (Keyed.ext_get? fun slot => ?_)
  rw [Keyed.get?_insert]
  split
  · rename_i heq
    rw [heq]
    exact (Keyed.get?_insert_self _ _ _).symm
  · rfl

namespace Device

variable {d : Device} {user : Int} {change : ConfigurationChange}

/-- A user whose settings were stored has been seen. -/
theorem isSome_store_self : ((d.store user change).2.records.get? user).isSome = true := by
  unfold store
  dsimp only
  split
  · rw [get?_records_see, if_pos rfl]
    rfl
  · exact congrArg Option.isSome (Keyed.get?_insert_self _ _ _)

/-- Storing what a seen user's record has already is no change. -/
theorem store_of_merged (hseen : (d.records.get? user).isSome = true)
    (hmerged : (d.recordOf user).merge change = d.recordOf user) :
    d.store user change = (false, d) := by
  unfold store
  dsimp only
  rw [if_pos hmerged, see_of_isSome hseen]

/-- What was stored once is stored, wherever the zone went since. -/
theorem store_store (zone : Option String) :
    ((d.store user change).2.setZone zone).store user change =
      (false, (d.store user change).2.setZone zone) := by
  refine store_of_merged isSome_store_self ?_
  show ((d.store user change).2.recordOf user).merge change = (d.store user change).2.recordOf user
  rw [recordOf_store, if_pos rfl, Configuration.merge_merge_self]

theorem replace_of_get? {c : Configuration} (h : d.records.get? c.user = some c) :
    d.replace c = (false, d) := by
  unfold replace
  rw [if_pos h]

/-- What was replaced once is in place, wherever the zone went since. -/
theorem replace_replace (c : Configuration) (zone : Option String) :
    ((d.replace c).2.setZone zone).replace c = (false, (d.replace c).2.setZone zone) := by
  refine replace_of_get? ?_
  show (d.replace c).2.records.get? c.user = some c
  unfold replace
  split
  · assumption
  · exact Keyed.get?_insert_self _ _ _

/-- A seen user who is in the foreground can be brought there again. -/
theorem switch_of_current {c : Configuration} (hseen : (d.records.get? c.user).isSome = true)
    (hcurrent : d.currentUser = c.user) : d.switch c = d := by
  obtain ⟨held, hheld⟩ := Option.isSome_iff_exists.mp hseen
  unfold switch
  rw [hheld, ← hcurrent]

/-- Who was brought to the foreground is there, wherever the zone went since. -/
theorem switch_switch (c : Configuration) (zone : Option String) :
    ((d.switch c).setZone zone).switch c = (d.switch c).setZone zone := by
  refine switch_of_current ?_ rfl
  show ((d.switch c).records.get? c.user).isSome = true
  unfold switch
  cases hget : d.records.get? c.user with
  | some held => simp [hget]
  | none => exact congrArg Option.isSome (Keyed.get?_insert_self _ _ _)

end Device

/-- A granted change is granted again, and then it alters nothing. -/
theorem Configuration.grant?_of_granted {old new : Configuration} {change : ConfigurationChange}
    (h : old.grant? change = some new) : new.grant? change = some new := by
  obtain ⟨hauto, hgeo, rfl⟩ := Capabilities.grant?_eq_some_iff.mp h
  exact Capabilities.grant?_eq_some_iff.mpr ⟨hauto, hgeo, merge_merge_self old change⟩

/-! ### Detection at rest -/

/-- Where the device has been moved on its grounds, they ask for no other zone. -/
theorem Grounds.settled {m : Arbiter.Memory} {before : Option String} {zone zone' : String}
    {mode : DetectionMode} (h : Grounds m before zone mode)
    (h' : Grounds m (some zone) zone' mode) : zone' = zone := by
  cases h with
  | telephony held named =>
      cases h' with
      | telephony held' named' =>
          obtain rfl := Option.some.inj (held.symm.trans held')
          exact (Option.some.inj (named.symm.trans named')).symm
  | location held named first =>
      cases h' with
      | location held' named' _ outside =>
          obtain rfl := Option.some.inj (held.symm.trans held')
          obtain rfl := Option.some.inj (named.symm.trans named')
          exact absurd (List.mem_of_mem_head? first) (outside zone rfl)

namespace Scene

variable {sc : Scene} {user : Int} {c : Configuration} {change : ConfigurationChange}

@[simp] theorem detect_records (c : Configuration) (reason : Reason) :
    (sc.detect c reason).memory.records = sc.memory.records := by
  obtain ⟨changes, hmemory⟩ := sc.detect_memory c reason
  rw [hmemory]

@[simp] theorem detect_currentUser (c : Configuration) (reason : Reason) :
    (sc.detect c reason).device.currentUser = sc.device.currentUser := by
  obtain ⟨zone, hdevice⟩ := sc.detect_device c reason
  rw [hdevice]
  rfl

/-- Detection asks for no zone but the one that the device is in. -/
def AtRest (sc : Scene) (c : Configuration) (reason : Reason) : Prop :=
  ∀ zone cause, sc.proposal c reason = some (zone, cause) → sc.device.zone = some zone

/-- **Detection comes to rest at once.** -/
theorem atRest_detect (sc : Scene) (c : Configuration) (reason : Reason) :
    (sc.detect c reason).AtRest c reason := by
  intro zone' cause' hproposal'
  cases hproposal : sc.proposal c reason with
  | none =>
      have hstays : sc.detect c reason = sc := by rw [detect, hproposal]
      rw [hstays, hproposal] at hproposal'
      cases hproposal'
  | some proposed =>
      obtain ⟨zone, cause⟩ := proposed
      have hgrounds' := grounds_of_proposal hproposal'
      have hmoved : (sc.detect c reason).device.zone = some zone := by
        rw [detect, hproposal]
        simp [Device.setZone]
      rw [hmoved] at hgrounds' ⊢
      have hgrounds := (grounds_of_proposal hproposal).of_eq
        (sc.detect_telephony c reason) (sc.detect_geolocation c reason)
      rw [hgrounds.settled hgrounds']

theorem recordOf_of_known (h : sc.memory.records.peek user = some c) : sc.recordOf user = c := by
  rw [recordOf, h, Option.getD_some]

theorem load_of_known (h : sc.memory.records.peek user = some c) : sc.load user = sc := by
  rw [load, h]

/-- A record that is in its place can be put there again. -/
theorem adopt_of_known (h : sc.memory.records.peek c.user = some c) : sc.adopt c = sc := by
  rw [adopt, remember, Records.replace_of_peek h]

/-! ### Where an operation is done -/

/-- The operation has nothing left to do, and is answered so. -/
inductive Done (sc : Scene) : Step → Answer → Prop
  /-- The record known denies the change. -/
  | denied {user : Int} {change : ConfigurationChange} {c : Configuration}
      (known : sc.memory.records.peek user = some c) (refused : c.grant? change = none) :
      Done sc (.update user change) (.flag false)
  /-- The change is made, with the arbiter and on the device. -/
  | granted {user : Int} {change : ConfigurationChange} {c : Configuration}
      (known : sc.memory.records.peek user = some c) (own : c.user = user)
      (made : c.grant? change = some c)
      (stored : sc.device.store user change = (false, sc.device)) :
      Done sc (.update user change) (.flag true)
  /-- The device is in the zone that was picked. -/
  | picked {user : Int} {pick : ManualSuggestion} {c : Configuration}
      (known : sc.memory.records.peek user = some c)
      (allowed : c.capabilities.suggestManual = .possessed)
      (there : sc.device.zone = some pick.zone) : Done sc (.manual user pick) (.flag true)
  /-- The record known does not let the user pick. -/
  | refused {user : Int} {pick : ManualSuggestion} {c : Configuration}
      (known : sc.memory.records.peek user = some c)
      (barred : c.capabilities.suggestManual ≠ .possessed) :
      Done sc (.manual user pick) (.flag false)
  /-- The slot has made this very suggestion, and the device is where it is to be. -/
  | telephony {s : TelephonySuggestion} {c : Configuration}
      (recorded : sc.memory.telephony.record s = sc.memory.telephony)
      (known : sc.memory.records.peek sc.device.currentUser = some c)
      (rests : sc.AtRest c (.telephonySuggestion s.slot)) : Done sc (.telephony s) .done
  /-- The suggestion is held, and the device is where it is to be. -/
  | located {s : GeoSuggestion} {c : Configuration}
      (known : sc.memory.records.peek sc.device.currentUser = some c)
      (inUse : c.geoBehavior = true) (held : sc.memory.geolocation = some s)
      (rests : sc.AtRest c .geolocationSuggestion) : Done sc (.geo s) .done
  /-- Detection by location is not in use. -/
  | discarded {s : GeoSuggestion} {c : Configuration}
      (known : sc.memory.records.peek sc.device.currentUser = some c)
      (unused : ¬ c.geoBehavior = true) : Done sc (.geo s) .done
  /-- The record is in its place on the device. -/
  | replaced {c : Configuration} (held : sc.device.replace c = (false, sc.device)) :
      Done sc (.replace c) .done
  /-- The user is in the foreground, and the arbiter has heard of it. -/
  | switched {c : Configuration} (foreground : sc.device.switch c = sc.device)
      (upToDate : sc.UpToDate) : Done sc (.switch c) .done
  /-- The settings are stored on the device. -/
  | stored {user : Int} {change : ConfigurationChange}
      (stored : sc.device.store user change = (false, sc.device)) :
      Done sc (.store user change) .done

/-- Whether it was recorded who was called is of no account. -/
theorem Done.clear {step : Step} {answer : Answer} (h : sc.Done step answer) :
    sc.clear.Done step answer := by
  cases h with
  | denied known refused => exact .denied known refused
  | granted known own made stored => exact .granted known own made stored
  | picked known allowed there => exact .picked known allowed there
  | refused known barred => exact .refused known barred
  | telephony recorded known rests => exact .telephony recorded known rests
  | located known inUse held rests => exact .located known inUse held rests
  | discarded known unused => exact .discarded known unused
  | replaced held => exact .replaced held
  | switched foreground upToDate =>
      exact .switched foreground ⟨upToDate.own, upToDate.filed, upToDate.tracked, upToDate.known⟩
  | stored stored => exact .stored stored

/-- Between the two scenes nothing happened that anybody was told of. -/
structure Idles (sc sc' : Scene) : Prop where
  memory : sc'.memory = sc.memory
  device : sc'.device = sc.device
  calls : sc.Calls 0 [] sc'

theorem Idles.refl (sc : Scene) : sc.Idles sc := ⟨rfl, rfl, .refl sc⟩

/-- Persisting what is stored already. -/
theorem Idles.store (h : sc.device.store user change = (false, sc.device)) :
    sc.Idles ((sc.deviceCall (.storeCall user change)).onDevice fun d =>
      (d.store user change).2) where
  memory := by simp
  device := by simp [h]
  calls := .store sc user change

end Scene

/-! ### Doing it again -/

section Plays

variable {sc : Scene} (bound : Nat)

theorem plays_moveTo_there {zone : String} (hthere : sc.device.zone = some zone) (cause : Cause) :
    Plays ((Session.arbiter bound).moveTo zone cause) sc () sc := by
  unfold Arbiter.moveTo
  refine (plays_currentZone bound).bind ?_
  rw [if_pos hthere]
  exact plays_note bound _

/-- Detection that is at rest reads no clock. -/
theorem plays_detect_atRest {c : Configuration} {reason : Reason} (h : sc.AtRest c reason) :
    Plays ((Session.arbiter bound).detect c reason) sc () sc := by
  unfold Scene.AtRest Scene.proposal at h
  unfold Arbiter.detect
  cases hmode : c.mode with
  | off => exact Plays.pure () sc
  | autoTelephony =>
      unfold Arbiter.detectByTelephony
      refine plays_memory.bind ?_
      cases hbest : sc.memory.telephony.best? with
      | none => exact plays_note bound _
      | some best =>
          cases hzone : best.suggestion.zone with
          | none => simpa [hzone] using plays_note bound _
          | some zone =>
              simp only [hmode, hbest, hzone, Option.bind_some] at h ⊢
              refine plays_zoneInitialized.bind ?_
              split
              · exact plays_note bound _
              · rename_i hdue
                rw [if_neg hdue] at h
                exact plays_moveTo_there bound (h _ _ rfl) _
  | autoGeo =>
      unfold Arbiter.detectByLocation
      refine plays_memory.bind ?_
      cases hgeo : sc.memory.geolocation with
      | none => exact plays_note bound _
      | some s =>
          refine (plays_currentZone bound).bind ?_
          cases hselect : Geolocation.selectZone s.zones sc.device.zone with
          | none => exact plays_note bound _
          | some zone =>
              simp only [hmode, hgeo, hselect, Option.bind_some, Option.map_some] at h
              exact plays_moveTo_there bound (h _ _ rfl) _

/-- A report to an arbiter that is up to date ends at once. -/
theorem plays_receiveReport_upToDate (h : sc.UpToDate) :
    Plays (Session.arbiter bound).receiveReport sc () sc := by
  have hseen : sc.onDevice (·.see sc.device.currentUser) = sc := by
    rw [Scene.onDevice, Device.see_of_isSome h.filed.current]
  unfold Arbiter.receiveReport
  refine plays_currentUser.bind ((plays_configurationOf _).bind ?_)
  rw [hseen]
  refine plays_memory.bind ((plays_remember _).bind ?_)
  rw [if_pos ⟨h.known, by simp [h.tracked]⟩]
  rw [show (sc.remember fun m => { m with trackedUser := sc.device.currentUser }) = sc from
    Scene.track_of_tracked h.tracked]
  exact Plays.pure () sc

theorem plays_persist_stored {user : Int} {change : ConfigurationChange}
    (h : sc.device.store user change = (false, sc.device)) :
    Plays ((Session.arbiter bound).persist user change) sc ()
      ((sc.deviceCall (.storeCall user change)).onDevice fun d => (d.store user change).2) := by
  unfold Arbiter.persist
  refine (plays_storeConfiguration user change).bind ?_
  rw [h]
  exact plays_guard _

theorem plays_recordOf_known {user : Int} {c : Configuration}
    (h : sc.memory.records.peek user = some c) :
    Plays ((Session.arbiter bound).recordOf user) sc c sc := by
  have hplays : Plays ((Session.arbiter bound).recordOf user) sc (sc.recordOf user)
      (sc.load user) := plays_recordOf bound user
  rwa [Scene.recordOf_of_known h, Scene.load_of_known h] at hplays

/-- **Nothing happens where nothing is left to do.** -/
theorem Scene.Done.plays {step : Step} {answer : Answer} (h : sc.Done step answer) :
    ∃ sc', Plays (Session.act (Session.arbiter bound) step) sc answer sc' ∧ sc.Idles sc' := by
  cases h with
  | @denied user change c known refused =>
      refine ⟨sc, ?_, .refl sc⟩
      have hupdate :
          Plays ((Session.arbiter bound).updateConfiguration user change) sc false sc := by
        unfold Arbiter.updateConfiguration
        refine (plays_recordOf_known bound known).bind ?_
        rw [refused]
        exact (plays_note bound _).bind (Plays.pure false sc)
      exact hupdate.bind (Plays.pure _ sc)
  | @granted user change c known own made stored =>
      refine ⟨_, ?_, .store stored⟩
      have hupdate : Plays ((Session.arbiter bound).updateConfiguration user change) sc true
          ((sc.deviceCall (.storeCall user change)).onDevice fun d =>
            (d.store user change).2) := by
        unfold Arbiter.updateConfiguration
        refine (plays_recordOf_known bound known).bind ?_
        rw [made]
        refine (plays_remember _).bind ?_
        rw [show (sc.remember fun m => { m with records := m.records.replace c }) = sc from
          Scene.adopt_of_known (own.symm ▸ known)]
        refine (plays_persist_stored bound stored).bind ?_
        rw [if_neg (not_not_intro rfl)]
        exact Plays.pure true _
      exact hupdate.bind (Plays.pure _ _)
  | @picked user pick c known allowed there =>
      refine ⟨sc, ?_, .refl sc⟩
      have hmanual : Plays ((Session.arbiter bound).suggestManual user pick) sc true sc := by
        unfold Arbiter.suggestManual
        refine (plays_recordOf_known bound known).bind ?_
        rw [if_pos allowed]
        exact (plays_moveTo_there bound there _).bind (Plays.pure true sc)
      exact hmanual.bind (Plays.pure _ sc)
  | @refused user pick c known barred =>
      refine ⟨sc, ?_, .refl sc⟩
      have hmanual : Plays ((Session.arbiter bound).suggestManual user pick) sc false sc := by
        unfold Arbiter.suggestManual
        refine (plays_recordOf_known bound known).bind ?_
        rw [if_neg barred]
        exact (plays_note bound _).bind (Plays.pure false sc)
      exact hmanual.bind (Plays.pure _ sc)
  | @telephony s c recorded known rests =>
      refine ⟨sc, ?_, .refl sc⟩
      have hrecord : (sc.remember fun m => { m with telephony := m.telephony.record s }) = sc := by
        rw [Scene.remember, recorded]
      have hsuggest : Plays ((Session.arbiter bound).suggestTelephony s) sc () sc := by
        refine (plays_notes bound _).bind ((plays_remember _).bind ?_)
        rw [hrecord]
        refine (plays_note bound _).bind ?_
        exact (plays_currentUser.bind (plays_recordOf_known bound known)).bind
          (plays_detect_atRest bound rests)
      exact hsuggest.bind (Plays.pure _ sc)
  | @located s c known inUse held rests =>
      refine ⟨sc, ?_, .refl sc⟩
      have hheld : (sc.remember fun m => { m with geolocation := some s }) = sc := by
        rw [Scene.remember, ← held]
      have hsuggest : Plays ((Session.arbiter bound).suggestGeo s) sc () sc := by
        refine (plays_currentUser.bind (plays_recordOf_known bound known)).bind ?_
        rw [if_pos inUse]
        refine (plays_remember _).bind ?_
        rw [hheld]
        exact plays_detect_atRest bound rests
      exact hsuggest.bind (Plays.pure _ sc)
  | @discarded s c known unused =>
      refine ⟨sc, ?_, .refl sc⟩
      have hsuggest : Plays ((Session.arbiter bound).suggestGeo s) sc () sc := by
        refine (plays_currentUser.bind (plays_recordOf_known bound known)).bind ?_
        rw [if_neg unused]
        exact plays_note bound _
      exact hsuggest.bind (Plays.pure _ sc)
  | @replaced c held =>
      refine ⟨sc, ?_, .refl sc⟩
      have hchange : Plays (Effect.onHost (World.change (·.replace c))) sc (sc.device.replace c).1
          (sc.onDevice fun d => (d.replace c).2) := plays_change _
      rw [held, show (sc.onDevice fun d => (d.replace c).2) = sc by rw [Scene.onDevice, held]]
        at hchange
      exact hchange.bind (Plays.pure _ sc)
  | @switched c foreground upToDate =>
      refine ⟨sc, ?_, .refl sc⟩
      have hchange : Plays (Effect.onHost (World.change fun device => (true, device.switch c))) sc
          true (sc.onDevice fun d => d.switch c) := plays_change _
      rw [show (sc.onDevice fun d => d.switch c) = sc by rw [Scene.onDevice, foreground]] at hchange
      refine hchange.bind ?_
      exact (plays_receiveReport_upToDate bound upToDate).bind (Plays.pure _ sc)
  | stored stored =>
      exact ⟨_, (plays_persist_stored bound stored).bind (Plays.pure _ _), .store stored⟩

end Plays

/-! ### Where an operation leads -/

section Lead

variable {sc sc' : Scene} {user : Int} {c new : Configuration} {change : ConfigurationChange}

/-- Being up to date is a matter of the records and of who is current. -/
theorem Scene.UpToDate.of_eq (h : sc.UpToDate) (hrecords : sc'.memory.records = sc.memory.records)
    (htracked : sc'.memory.trackedUser = sc.memory.trackedUser) {zone : Option String}
    (hdevice : sc'.device = sc.device.setZone zone) : sc'.UpToDate where
  own := by
    rw [hrecords]
    exact h.own
  filed := by
    rw [hdevice]
    exact h.filed.setZone zone
  tracked := by
    rw [htracked, hdevice]
    exact h.tracked
  known := by
    rw [hrecords, hdevice]
    exact h.known

/-- A report brings the arbiter up to date. -/
theorem Scene.upToDate_report (hfiled : sc.device.Filed)
    (hown : ∀ {user c}, sc.memory.records.peek user = some c → c.user = user) :
    sc.report.UpToDate := by
  rcases sc.report_cases with ⟨htracked, hknown⟩ | ⟨htracked, hfirst⟩ | hnews
  · rw [report_of_known hfiled htracked hknown]
    exact ⟨hown, hfiled, htracked, hknown⟩
  · have htaken : (sc.track.adopt sc.device.inEffect).UpToDate := .adopt hfiled hown
    rw [track_of_tracked htracked] at htaken
    rwa [report_of_first hfiled htracked hfirst]
  · have htaken : (sc.track.adopt sc.device.inEffect).UpToDate := .adopt hfiled hown
    have hchanged : ((sc.track.adopt sc.device.inEffect).changed sc.device.inEffect).UpToDate := by
      unfold changed
      split <;> exact ⟨htaken.own, htaken.filed, htaken.tracked, htaken.known⟩
    obtain ⟨changes, hmemory⟩ := ((sc.track.adopt sc.device.inEffect).changed
      sc.device.inEffect).detect_memory sc.device.inEffect .externalChange
    obtain ⟨zone, hdevice⟩ := ((sc.track.adopt sc.device.inEffect).changed
      sc.device.inEffect).detect_device sc.device.inEffect .externalChange
    rw [report_of_news hfiled hnews]
    exact hchanged.of_eq (by rw [hmemory]) (by rw [hmemory]) hdevice

/-- A record known stays unless it is the current user's, and then the one in effect takes its
place. -/
theorem Scene.peek_report (hfiled : sc.device.Filed) (hknown : sc.memory.records.peek user = some c)
    (hcurrent : user = sc.device.currentUser → sc.device.inEffect = c) :
    sc.report.memory.records.peek user = some c := by
  have hadopt :
      (sc.track.adopt sc.device.inEffect).memory.records.peek user = some c := by
    rw [adopt, remember_memory, Records.peek_replace]
    split
    · rename_i hown
      rw [hcurrent (hown.trans (hfiled.user_recordOf _))]
    · exact hknown
  rw [report_eq hfiled]
  split
  · split
    · exact hadopt
    · split
      · exact hknown
      · rwa [configurationChanged_records]
  · rwa [configurationChanged_records]

/-- **What was granted is done.** -/
theorem Scene.done_granted (h : Coherent sc.memory sc.device)
    (hgrant : (sc.recordOf user).grant? change = some new) :
    (sc.update user change).2.Done (.update user change) (.flag true) := by
  have hmerge : (sc.recordOf user).merge change = new := Configuration.merge_of_grant hgrant
  have howner : new.user = user := by
    rw [← hmerge, Configuration.user_merge, h.user_recordOf]
  have hfiled : ((sc.load user).adopt new).device.Filed := (h.load user).filed
  have hadopt : ((sc.load user).adopt new).memory.records.peek user = some new := by
    rw [adopt, remember_memory, Records.peek_replace, if_pos howner.symm]
  -- The device merges the change into the current user's record, and that is the arbiter's.
  have hsame (hcurrent : user = sc.device.currentUser) :
      ((sc.load user).device.store user change).2.recordOf user = new := by
    rw [Device.recordOf_store, if_pos rfl, load_recordOf, ← hmerge]
    congr 1
    rw [hcurrent]
    exact h.recordOf_currentUser.symm
  have hknown : (((sc.load user).adopt new).persist user change).memory.records.peek user =
      some new := by
    unfold persist
    dsimp only
    split
    · refine peek_report ?_ (by simpa using hadopt) fun hcurrent => ?_
      · simpa [adopt] using hfiled.store change
      · simp only [onDevice_device, deviceCall_device, adopt, remember_device,
          Device.currentUser_store, load_currentUser] at hcurrent
        rw [Device.inEffect]
        simp only [onDevice_device, deviceCall_device, adopt, remember_device,
          Device.currentUser_store, load_currentUser]
        rw [← hcurrent]
        exact hsame hcurrent
    · simpa using hadopt
  obtain ⟨zone, hstored⟩ := ((sc.load user).adopt new).persist_device hfiled user change
  have hmade := Configuration.grant?_of_granted hgrant
  unfold update
  rw [hgrant]
  dsimp only
  split
  · refine .granted hknown howner hmade ?_
    rw [hstored]
    exact Device.store_store zone
  · obtain ⟨zone', hchanged⟩ := (((sc.load user).adopt new).persist user
      change).configurationChanged_device new .configurationUpdate
    refine .granted ?_ howner hmade ?_
    · rw [configurationChanged_records]
      exact hknown
    · rw [hchanged, hstored]
      exact Device.store_store zone'

/-- Of a device in order, a change that is reported if that is due leaves the zone alone
open. -/
theorem Scene.reportIf_device (hfiled : sc.device.Filed) (due : Bool) :
    ∃ zone, (if due then sc.report else sc).device = sc.device.setZone zone := by
  cases due with
  | true => exact report_device hfiled
  | false => exact ⟨sc.device.zone, rfl⟩

/-- The steps that are to change something: the arbiter's operations, and what is done to the
device's records. -/
def Session.Step.Mutates : Step → Prop
  | .update .. | .manual .. | .telephony _ | .geo _ | .replace _ | .switch _ | .store .. => True
  | _ => False

/-- **Each operation leads to where it is done.** -/
theorem Scene.done_after (h : Coherent sc.memory sc.device) {step : Step} (hmutates : step.Mutates)
    {answer : Answer} (hanswer : sc.answer? step = some answer) :
    (sc.after step).Done step answer := by
  cases step with
  | update user change =>
      obtain rfl := Option.some.inj hanswer
      rw [update_fst]
      cases hgrant : (sc.recordOf user).grant? change with
      | none =>
          have hafter : sc.after (.update user change) = sc.load user := by
            rw [after, update, hgrant]
          rw [hafter]
          exact .denied (peek_load user) hgrant
      | some new => exact done_granted h hgrant
  | manual user pick =>
      obtain rfl := Option.some.inj hanswer
      show (sc.manual user pick).2.Done _ (.flag (sc.manual user pick).1)
      unfold manual
      split
      · rename_i hallowed
        obtain ⟨changes, hmemory⟩ := (sc.load user).moveTo_memory pick.zone (.manual user)
        refine .picked (c := sc.recordOf user) ?_ hallowed ?_
        · rw [hmemory]
          exact peek_load user
        · rw [moveTo_device]
          rfl
      · rename_i hbarred
        exact .refused (peek_load user) hbarred
  | telephony s =>
      obtain rfl := Option.some.inj hanswer
      show (sc.telephony s).Done _ _
      rw [telephony, load_record]
      refine .telephony (c := sc.recordOf sc.device.currentUser) ?_ ?_ (atRest_detect _ _ _)
      · rw [detect_telephony]
        exact Telephony.Table.record_record _ s
      · have hknown : (sc.load sc.device.currentUser).memory.records.peek sc.device.currentUser =
            some (sc.recordOf sc.device.currentUser) := peek_load _
        rw [detect_records, detect_currentUser]
        simpa using hknown
  | geo s =>
      obtain rfl := Option.some.inj hanswer
      show (sc.geo s).Done _ _
      have hknown : (sc.load sc.device.currentUser).memory.records.peek sc.device.currentUser =
          some (sc.recordOf sc.device.currentUser) := peek_load _
      unfold geo
      dsimp only
      split
      · rename_i hinUse
        refine .located (c := sc.recordOf sc.device.currentUser) ?_ hinUse ?_ (atRest_detect _ _ _)
        · rw [detect_records, detect_currentUser]
          simpa using hknown
        · rw [detect_geolocation]
          rfl
      · rename_i hunused
        refine .discarded (c := sc.recordOf sc.device.currentUser) ?_ hunused
        rwa [load_currentUser]
  | replace c =>
      obtain rfl := Option.some.inj hanswer
      obtain ⟨zone, hdevice⟩ := (sc.onDevice fun d => (d.replace c).2).reportIf_device
        (h.filed.replace c) (sc.device.replace c).1
      refine .replaced ?_
      show (if (sc.device.replace c).1 then _ else _ : Scene).device.replace c = _
      rw [after, hdevice]
      exact Device.replace_replace c zone
  | switch c =>
      obtain rfl := Option.some.inj hanswer
      have hfiled : (sc.onDevice (·.switch c)).device.Filed := h.filed.switch c
      obtain ⟨zone, hdevice⟩ := report_device hfiled
      refine .switched ?_ (upToDate_report hfiled h.own)
      rw [after, hdevice]
      exact Device.switch_switch c zone
  | store user change =>
      obtain rfl := Option.some.inj hanswer
      obtain ⟨zone, hdevice⟩ := sc.persist_device h.filed user change
      refine .stored ?_
      rw [after, hdevice]
      exact Device.store_store zone
  | _ => exact hmutates.elim

end Lead

/-! ### Sessions -/

section Session

open Session (after take told written Faultless)

variable {bound : Nat} {s : System World} {sc sc' : Scene} {steps : List Step} {step : Step}
  {setup : Session.Setup}

/-- A step that plays is answered so, and shows the scene that it plays to. -/
theorem Shows.take_of_plays (h : Shows s sc) {answer : Answer}
    (hvalid : ∀ label problem, step ≠ .invalid label problem)
    (hp : Plays (Session.act (Session.arbiter bound) step) sc answer sc') :
    ∃ s', Shows s' sc' ∧ (Session.take bound step s).1.outcome = .ok answer ∧
      (Session.take bound step s).1.events = s'.host.trace ∧
      (Session.take bound step s).2 = Session.take.clear s' := by
  obtain ⟨s', hrun, hs'⟩ := hp h
  have htake := Session.perform_eq hvalid (Session.arbiter bound) s
  rw [hrun] at htake
  dsimp only at htake
  refine ⟨s', hs', ?_, ?_, ?_⟩ <;> rw [Session.take, htake]

/-- A step that has nothing left to do is answered without a fault, and nothing happens. -/
theorem Scene.Done.take {answer : Answer} (hdone : sc.Done step answer) (h : Shows s sc)
    (hcleared : sc.calls = []) :
    (Session.take bound step s).1.outcome = .ok answer ∧
      (Session.take bound step s).2.memory = s.memory ∧
      (Session.take bound step s).2.host.device = s.host.device ∧
      Session.told (Session.take bound step s).1.events = [] ∧
      Session.written (Session.take bound step s).1.events = [] := by
  obtain ⟨sc', hp, hidles⟩ := hdone.plays bound
  have hvalid : ∀ label problem, step ≠ .invalid label problem := by
    rintro label problem rfl
    cases hdone
  obtain ⟨s', hs', hanswer, hevents, hafter⟩ := h.take_of_plays hvalid hp
  refine ⟨hanswer, ?_, ?_, ?_, ?_⟩
  · rw [hafter, h.memory, ← hidles.memory]
    exact hs'.memory
  · rw [hafter, h.device, ← hidles.device]
    exact hs'.device
  · rw [hevents, ← Session.told_filter_isCall, hs'.calls]
    simpa [Scene.told, hcleared, Session.told] using hidles.calls.told
  · rw [hevents, ← Session.written_filter_isCall, hs'.calls]
    simpa [Scene.written, hcleared, Session.written] using hidles.calls.written

/-- **Doing it again.** Where an operation of the arbiter, or a change of the records on the
device, ends without a fault, the same operation taken once more ends without a fault too. It is
answered as before, leaves what the arbiter remembers and the device as they are, calls no
listener and writes no zone. -/
theorem repeated_changes_nothing (hsetup : setup.Calm) (hs : setup.system = .ok s)
    (hcalm : ∀ step ∈ steps, step.Calm) (hok : Faultless bound s steps) (hmutates : step.Mutates)
    (hfault : (take bound step (after bound s steps)).1.fault? = none) :
    let first := take bound step (after bound s steps)
    let again := take bound step first.2
    again.1.outcome = first.1.outcome ∧ again.1.fault? = none ∧
      again.2.memory = first.2.memory ∧ again.2.host.device = first.2.host.device ∧
      told again.1.events = [] ∧ written again.1.events = [] := by
  intro first again
  have hstep : step.Calm := by
    cases step <;> trivial
  obtain ⟨changes, hstart, hfresh⟩ := hsetup.begins hs
  have hafter := hstart.after hcalm hok
  have hcoherent := hfresh.run hcalm
  obtain ⟨answer, hanswer⟩ : ∃ answer,
      ((setup.scene changes).run steps).answer? step = some answer := by
    cases step <;> first | exact ⟨_, rfl⟩ | exact hmutates.elim
  have hdone := (Scene.done_after hcoherent hmutates hanswer).clear
  obtain ⟨hagain, hmemory, hdevice, htold, hwritten⟩ := hdone.take (hafter.take hstep hfault) rfl
  refine ⟨hagain.trans (hafter.answers hstep hanswer hfault).symm, ?_, hmemory, hdevice, htold,
    hwritten⟩
  show again.1.fault? = none
  rw [Session.StepReport.fault?, hagain]

/-- A device on which automatic detection is on, which has no zone yet, and which records who
calls it. -/
def Session.Setup.unset : Session.Setup :=
  { device := .start ⟨1, true, true, true, false, false⟩ none, rig := some {} }

/-- The system that the session begins with. -/
def Session.unset : System World where
  memory := (Setup.opening ⟨1, true, true, true, false, false⟩ none).memory
  host := Setup.unset.world

/-- A slot proposes a zone without saying how it came to it. -/
def Session.guess : Step := .telephony { slot := 0, zone := some "Europe/Oslo" }

/-- Any zone will do for a device that has none, so the suggestion is followed; made again, it is
too weak to be followed, and the device stays where it is. -/
theorem repeated_changes_nothing_guess :
    let first := take 0 Session.guess (after 0 Session.unset [.addListener "first" [] 0 none])
    let again := take 0 Session.guess first.2
    written first.1.events = [some "Europe/Oslo"] ∧ written again.1.events = [] ∧
      again.2.host.device.zone = some "Europe/Oslo" := by
  intro first again
  have hsystem : Session.Setup.unset.system = .ok Session.unset := rfl
  have hsetup : Session.Setup.unset.Calm := ⟨.inr rfl, Device.filed_start _ none⟩
  have hcalm : ∀ step ∈ [Step.addListener "first" [] 0 none], step.Calm := by simp [Step.Calm]
  have hguess : Session.guess.Mutates := trivial
  have hfault : (take 0 Session.guess
      (after 0 Session.unset [.addListener "first" [] 0 none])).1.fault? = none := by decide +kernel
  obtain ⟨-, -, -, hdevice, -, hwritten⟩ := repeated_changes_nothing hsetup hsystem hcalm
    (by decide +kernel) hguess hfault
  refine ⟨by decide +kernel, hwritten, ?_⟩
  rw [show again.2.host.device = first.2.host.device from hdevice]
  decide +kernel

end Session

end ZoneArbiter
