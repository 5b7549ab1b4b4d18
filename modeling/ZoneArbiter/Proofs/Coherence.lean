import ZoneArbiter.Proofs.CalmSession

/-!
# ZoneArbiter.Proofs.Coherence

**The arbiter's memory fits the device after every step** (`Coherent`). The
arbiter tracks the current user, its record of that user is the device's, and it
holds a geolocation suggestion only while that record asks for one. A current user
whose record was never asked for has seen no suggestion at all.

The device changes first and reports afterwards, so in between only the arbiter's
own half of this holds (`Attuned`). A report finds one of three situations
(`Scene.report_cases`): nothing new, a first record, or news. After news the arbiter
is up to date (`Scene.UpToDate`), and once it has forgotten what the new record does
not ask for, its memory fits the device again (`Scene.UpToDate.changed`).

`Proofs/Turn.lean` takes the steps of a session on this ground.
-/

namespace ZoneArbiter

open Arbiter (Memory)

/-- The arbiter's own half of coherence: its memory fits the record that it has of
the user it tracks. -/
structure Attuned (m : Memory) : Prop where
  /-- Every record is known under its own user. -/
  own : ∀ {user c}, m.records.peek user = some c → c.user = user
  /-- No telephony suggestion was made before the record was asked for. -/
  idle : m.records.peek m.trackedUser = none → m.telephony.best? = none
  /-- A geolocation suggestion is held only while the record asks for one. -/
  located : ∀ {s}, m.geolocation = some s →
    ∃ c, m.records.peek m.trackedUser = some c ∧ c.geoBehavior = true

/-- The arbiter's memory fits the device. -/
structure Coherent (m : Memory) (d : Device) : Prop extends Attuned m where
  /-- The device keeps every record under its own user, and has the current one. -/
  filed : d.Filed
  /-- The user tracked is the current one. -/
  tracked : m.trackedUser = d.currentUser
  /-- The current user's record is the device's. -/
  current : ∀ {c}, m.records.peek d.currentUser = some c → c = d.recordOf d.currentUser

/-- The grounds on which detection in a mode brings a device from where it was to a zone: the
best telephony suggestion, which must be sure enough if the device had a zone, or the first
candidate of the location, if the device was in none of the candidates. -/
inductive Grounds (m : Memory) (before : Option String) (zone : String) : DetectionMode → Prop
  | telephony {best : Telephony.Qualified} (held : m.telephony.best? = some best)
      (named : best.suggestion.zone = some zone)
      (sure : before.isSome = true → Telephony.Score.usageThreshold.rank ≤ best.score.rank) :
      Grounds m before zone .autoTelephony
  | location {s : GeoSuggestion} {candidates : List String} (held : m.geolocation = some s)
      (named : s.zones = some candidates) (first : candidates.head? = some zone)
      (outside : ∀ z, before = some z → z ∉ candidates) : Grounds m before zone .autoGeo

/-- Grounds are a matter of what was suggested alone. -/
theorem Grounds.of_eq {m m' : Memory} {before : Option String} {zone : String}
    {mode : DetectionMode} (h : Grounds m before zone mode)
    (htelephony : m'.telephony = m.telephony) (hgeolocation : m'.geolocation = m.geolocation) :
    Grounds m' before zone mode := by
  cases h with
  | telephony held named sure => exact .telephony (htelephony ▸ held) named sure
  | location held named first outside => exact .location (hgeolocation ▸ held) named first outside

/-- The record that is in effect on a device: the current user's. -/
def Device.inEffect (d : Device) : Configuration := d.recordOf d.currentUser

namespace Coherent

variable {m : Memory} {d : Device}

/-- A held geolocation suggestion means that the record in effect asks for it. -/
theorem inEffect_of_located (h : Coherent m d) {s : GeoSuggestion}
    (hs : m.geolocation = some s) : d.inEffect.geoBehavior = true := by
  obtain ⟨c, hc, hgeo⟩ := h.located hs
  rw [h.tracked] at hc
  rw [Device.inEffect, ← h.current hc]
  exact hgeo

/-- Nothing was suggested to a current user whose record is not known. -/
theorem idle_of_peek (h : Coherent m d) (hpeek : m.records.peek d.currentUser = none) :
    m.telephony.best? = none ∧ m.geolocation = none := by
  rw [← h.tracked] at hpeek
  refine ⟨h.idle hpeek, Option.eq_none_iff_forall_ne_some.mpr fun s hs => ?_⟩
  obtain ⟨c, hc, -⟩ := h.located hs
  simp [hpeek] at hc

/-- The record that the arbiter goes by for the current user is the one in effect. -/
theorem recordOf_currentUser {sc : Scene} (h : Coherent sc.memory sc.device) :
    sc.recordOf sc.device.currentUser = sc.device.inEffect := by
  unfold Scene.recordOf Device.inEffect
  cases hpeek : sc.memory.records.peek sc.device.currentUser with
  | none => rfl
  | some c => exact h.current hpeek

/-- An arbiter that has seen nothing fits every device that is in order. -/
theorem fresh (changes : ChangeLog) (hfiled : d.Filed) :
    Coherent (Memory.fresh changes d.currentUser) d where
  own h := by simp [Memory.fresh, Records.peek] at h
  idle _ := rfl
  located h := by simp [Memory.fresh] at h
  filed := hfiled
  tracked := rfl
  current h := by simp [Memory.fresh, Records.peek] at h

/-! ### What coherence does not depend on -/

theorem setZone (h : Coherent m d) (zone : Option String) : Coherent m (d.setZone zone) where
  toAttuned := h.toAttuned
  filed := h.filed.setZone zone
  tracked := h.tracked
  current := h.current

theorem see (h : Coherent m d) (user : Int) : Coherent m (d.see user) where
  toAttuned := h.toAttuned
  filed := h.filed.see user
  tracked := by rw [Device.currentUser_see, h.tracked]
  current := by
    intro c hc
    rw [Device.currentUser_see] at hc ⊢
    rw [Device.recordOf_see]
    exact h.current hc

/-- What is logged of changes, and who listens, is free. -/
theorem bookkeeping (h : Coherent m d) (changes : ChangeLog) (listeners : List Arbiter.ListenerId)
    (appendices : List Status.Appendix) :
    Coherent { m with changes, listeners, appendices } d where
  toAttuned := ⟨h.own, h.idle, h.located⟩
  filed := h.filed
  tracked := h.tracked
  current := h.current

/-- Keeping a record under its own user; the current user's must be the one in
effect. -/
theorem keep (h : Coherent m d) {c : Configuration} (hc : c.user = d.currentUser → c = d.inEffect) :
    Coherent { m with records := m.records.keep c.user c } d where
  own := Records.own_replace h.own c
  idle := by
    intro hpeek
    rw [Records.peek_keep] at hpeek
    split at hpeek
    · simp at hpeek
    · exact h.idle hpeek
  located := by
    intro s hs
    show ∃ c', (m.records.keep c.user c).peek m.trackedUser = some c' ∧ c'.geoBehavior = true
    rw [Records.peek_keep]
    split
    · -- What is kept for the user tracked is in effect, so it asks for what is held.
      rename_i heq
      rw [h.tracked] at heq
      refine ⟨c, rfl, ?_⟩
      rw [hc heq.symm]
      exact h.inEffect_of_located hs
    · exact h.located hs
  filed := h.filed
  tracked := h.tracked
  current := by
    intro c' hget
    rw [Records.peek_keep] at hget
    split at hget
    · rename_i heq
      rw [← Option.some.inj hget]
      exact hc heq.symm
    · exact h.current hget

/-- Suggestions of any kind fit once the record in effect is known, and one of
geolocation if that record asks for it. -/
theorem suggested (h : Coherent m d) (hknown : m.records.peek d.currentUser = some d.inEffect)
    (telephony : Telephony.Table) {geolocation : Option GeoSuggestion}
    (hgeo : ∀ g, geolocation = some g → d.inEffect.geoBehavior = true) :
    Coherent { m with telephony, geolocation } d where
  own := h.own
  idle hpeek := by
    rw [show m.records.peek m.trackedUser = _ from h.tracked ▸ hknown] at hpeek
    simp at hpeek
  located hs := ⟨d.inEffect, h.tracked ▸ hknown, hgeo _ hs⟩
  filed := h.filed
  tracked := h.tracked
  current := h.current

end Coherent

/-! ### Moves and detection -/

namespace Scene

variable {sc : Scene}

/-- A move leaves the device in the zone, wherever it was before. -/
@[simp] theorem moveTo_device (zone : String) (cause : Cause) :
    (sc.moveTo zone cause).device = sc.device.setZone (some zone) := by
  unfold moveTo
  split
  · rename_i h
    rw [Device.setZone, ← h]
  · simp

/-- Of what the arbiter remembers, a move touches the change log alone. -/
theorem moveTo_memory (zone : String) (cause : Cause) :
    ∃ changes, (sc.moveTo zone cause).memory = { sc.memory with changes } := by
  unfold moveTo
  split
  · exact ⟨sc.memory.changes, rfl⟩
  · simp only [remember_memory, onDevice_memory, deviceCall_memory]
    exact ⟨_, rfl⟩

theorem detect_memory (c : Configuration) (reason : Reason) :
    ∃ changes, (sc.detect c reason).memory = { sc.memory with changes } := by
  unfold detect
  split
  · exact ⟨sc.memory.changes, rfl⟩
  · exact moveTo_memory _ _

theorem detect_device (c : Configuration) (reason : Reason) :
    ∃ zone, (sc.detect c reason).device = sc.device.setZone zone := by
  unfold detect
  split
  · exact ⟨sc.device.zone, rfl⟩
  · exact ⟨_, moveTo_device _ _⟩

@[simp] theorem detect_telephony (c : Configuration) (reason : Reason) :
    (sc.detect c reason).memory.telephony = sc.memory.telephony := by
  obtain ⟨changes, hmemory⟩ := sc.detect_memory c reason
  rw [hmemory]

@[simp] theorem detect_geolocation (c : Configuration) (reason : Reason) :
    (sc.detect c reason).memory.geolocation = sc.memory.geolocation := by
  obtain ⟨changes, hmemory⟩ := sc.detect_memory c reason
  rw [hmemory]

@[simp] theorem detect_inEffect (c : Configuration) (reason : Reason) :
    (sc.detect c reason).device.inEffect = sc.device.inEffect := by
  obtain ⟨zone, hdevice⟩ := sc.detect_device c reason
  rw [hdevice]
  rfl

/-- Where detection by telephony leaves the device. -/
theorem zone_detect_of_telephony {c : Configuration} (hmode : c.mode = .autoTelephony)
    {best : Telephony.Qualified} (hbest : sc.memory.telephony.best? = some best) {zone : String}
    (hzone : best.suggestion.zone = some zone) (reason : Reason) :
    (sc.detect c reason).device.zone =
      if sc.device.zone.isSome ∧ best.score.rank < Telephony.Score.usageThreshold.rank then
        sc.device.zone
      else some zone := by
  unfold detect proposal
  rw [hmode]
  simp only [hbest, hzone, Option.bind_some]
  split <;> split <;> simp_all [Device.setZone]

/-- Where detection by location leaves the device. -/
theorem zone_detect_of_geo {c : Configuration} (hmode : c.mode = .autoGeo)
    {s : GeoSuggestion} (hs : sc.memory.geolocation = some s) (reason : Reason) :
    (sc.detect c reason).device.zone =
      match Geolocation.selectZone s.zones sc.device.zone with
      | none => sc.device.zone
      | some zone => some zone := by
  unfold detect proposal
  rw [hmode]
  simp only [hs, Option.bind_some]
  cases Geolocation.selectZone s.zones sc.device.zone <;> simp [Device.setZone]

/-- What detection proposes has its grounds in the source that the mode names. -/
theorem grounds_of_proposal {c : Configuration} {reason : Reason} {zone : String} {cause : Cause}
    (h : sc.proposal c reason = some (zone, cause)) :
    Grounds sc.memory sc.device.zone zone c.mode := by
  unfold proposal at h
  cases hmode : c.mode with
  | off => simp [hmode] at h
  | autoTelephony =>
      cases hbest : sc.memory.telephony.best? with
      | none => simp [hmode, hbest] at h
      | some best =>
          cases hzone : best.suggestion.zone with
          | none => simp [hmode, hbest, hzone] at h
          | some zone' =>
              simp only [hmode, hbest, hzone, Option.bind_some] at h
              split at h
              · simp at h
              · rename_i hdue
                obtain ⟨rfl, -⟩ := Prod.mk.inj (Option.some.inj h)
                exact .telephony hbest hzone fun hsome => by simpa [hsome] using hdue
  | autoGeo =>
      cases hgeolocation : sc.memory.geolocation with
      | none => simp [hmode, hgeolocation] at h
      | some g =>
          simp only [hmode, hgeolocation, Option.bind_some, Option.map_eq_some_iff] at h
          obtain ⟨zone', hselect, hmove⟩ := h
          obtain ⟨rfl, -⟩ := Prod.mk.inj hmove
          obtain ⟨candidates, hzones, hhead, hout⟩ := Geolocation.selectZone_eq_some_iff.mp hselect
          exact .location hgeolocation hzones hhead hout

/-- Detection moves the device to the zone of the best telephony suggestion, or to a
candidate of the geolocation suggestion held, if it moves the device at all. -/
theorem zone_detect_cases {c : Configuration} {reason : Reason}
    (h : (sc.detect c reason).device.zone ≠ sc.device.zone) :
    (∃ best, sc.memory.telephony.best? = some best ∧
      (sc.detect c reason).device.zone = best.suggestion.zone) ∨
    ∃ g candidates zone, sc.memory.geolocation = some g ∧ g.zones = some candidates ∧
      zone ∈ candidates ∧ (sc.detect c reason).device.zone = some zone := by
  unfold detect at h ⊢
  cases hproposal : sc.proposal c reason with
  | none =>
      rw [hproposal] at h
      exact absurd rfl h
  | some proposed =>
      obtain ⟨zone, cause⟩ := proposed
      simp only [moveTo_device]
      have hgrounds := grounds_of_proposal hproposal
      generalize c.mode = mode at hgrounds
      cases hgrounds with
      | telephony hbest hzone => exact .inl ⟨_, hbest, hzone.symm⟩
      | location hgeolocation hzones hhead =>
          exact .inr ⟨_, _, zone, hgeolocation, hzones, List.mem_of_mem_head? hhead, rfl⟩

@[simp] theorem load_currentUser (user : Int) :
    (sc.load user).device.currentUser = sc.device.currentUser := by
  unfold load
  split <;> simp

/-- Loading changes no answer of the device. -/
@[simp] theorem load_recordOf (user other : Int) :
    (sc.load user).device.recordOf other = sc.device.recordOf other := by
  unfold load
  split <;> simp [Device.recordOf_see]

@[simp] theorem load_inEffect (user : Int) :
    (sc.load user).device.inEffect = sc.device.inEffect := by
  simp [Device.inEffect]

/-- What the arbiter knows of a user once the record is loaded. -/
theorem peek_load (user : Int) :
    (sc.load user).memory.records.peek user = some (sc.recordOf user) := by
  unfold load recordOf
  cases hpeek : sc.memory.records.peek user with
  | some c => simp [hpeek]
  | none => simp [Records.peek_keep]

end Scene

namespace Coherent

variable {sc : Scene}

theorem moveTo (h : Coherent sc.memory sc.device) (zone : String) (cause : Cause) :
    Coherent (sc.moveTo zone cause).memory (sc.moveTo zone cause).device := by
  obtain ⟨changes, hmemory⟩ := sc.moveTo_memory zone cause
  rw [hmemory, Scene.moveTo_device]
  exact (h.setZone _).bookkeeping changes _ _

theorem detect (h : Coherent sc.memory sc.device) (c : Configuration) (reason : Reason) :
    Coherent (sc.detect c reason).memory (sc.detect c reason).device := by
  obtain ⟨changes, hmemory⟩ := sc.detect_memory c reason
  obtain ⟨zone, hdevice⟩ := sc.detect_device c reason
  rw [hmemory, hdevice]
  exact (h.setZone _).bookkeeping changes _ _

theorem load (h : Coherent sc.memory sc.device) (user : Int) :
    Coherent (sc.load user).memory (sc.load user).device := by
  unfold Scene.load
  split
  · exact h
  · have huser := h.filed.user_recordOf user
    have hkept := (h.see user).keep (c := sc.device.recordOf user) (by
      intro hcurrent
      rw [huser, Device.currentUser_see] at hcurrent
      rw [Device.inEffect, Device.recordOf_see, Device.currentUser_see, hcurrent])
    rwa [huser] at hkept

end Coherent

/-! ### Reports -/

namespace Scene

variable {sc : Scene}

/-- The scene once the arbiter tracks the user in the foreground. -/
def track (sc : Scene) : Scene :=
  sc.remember fun m => { m with trackedUser := sc.device.currentUser }

theorem track_of_tracked (h : sc.memory.trackedUser = sc.device.currentUser) :
    sc.track = sc := by
  rw [track, remember, ← h]

/-- The scene whose zone is detected anew when the record `c` of the current user
has come into effect. -/
def changed (sc : Scene) (c : Configuration) : Scene :=
  if c.geoBehavior then sc.tell else sc.forget.tell

/-- A change of the record in effect ends in detection. -/
theorem configurationChanged_of_current {c : Configuration}
    (h : c.user = sc.device.currentUser) (reason : Reason) :
    sc.configurationChanged c reason = (sc.changed c).detect c reason := by
  rw [configurationChanged, if_pos h, changed]

/-- Of the device, a change of a configuration touches the zone alone. -/
theorem configurationChanged_device (c : Configuration) (reason : Reason) :
    ∃ zone, (sc.configurationChanged c reason).device = sc.device.setZone zone := by
  unfold configurationChanged
  split
  · obtain ⟨zone, hdevice⟩ :=
      (if c.geoBehavior then sc.tell else sc.forget.tell).detect_device c reason
    refine ⟨zone, hdevice.trans ?_⟩
    split <;> rfl
  · exact ⟨sc.device.zone, rfl⟩

@[simp] theorem configurationChanged_records (c : Configuration) (reason : Reason) :
    (sc.configurationChanged c reason).memory.records = sc.memory.records := by
  unfold configurationChanged
  split
  · obtain ⟨changes, hmemory⟩ :=
      (if c.geoBehavior then sc.tell else sc.forget.tell).detect_memory c reason
    rw [hmemory]
    dsimp only
    split <;> rfl
  · rfl

/-- What a report does on a device that is in order. -/
theorem report_eq (hfiled : sc.device.Filed) :
    sc.report =
      if sc.device.currentUser = sc.memory.trackedUser then
        match sc.memory.records.peek sc.device.currentUser with
        | none => sc.track.adopt sc.device.inEffect
        | some known =>
            if known = sc.device.inEffect then sc.track
            else (sc.track.adopt sc.device.inEffect).configurationChanged sc.device.inEffect
              .externalChange
      else (sc.track.adopt sc.device.inEffect).configurationChanged sc.device.inEffect
        .externalChange := by
  have hseen : sc.device.see sc.device.currentUser = sc.device :=
    Device.see_of_isSome hfiled.current
  unfold report
  simp only [onDevice, hseen]
  rfl

/-- Of a device in order, a report touches the zone alone. -/
theorem report_device (hfiled : sc.device.Filed) :
    ∃ zone, sc.report.device = sc.device.setZone zone := by
  have hchanged := (sc.track.adopt sc.device.inEffect).configurationChanged_device
    sc.device.inEffect .externalChange
  rw [report_eq hfiled]
  split
  · split
    · exact ⟨sc.device.zone, rfl⟩
    · split
      · exact ⟨sc.device.zone, rfl⟩
      · exact hchanged
  · exact hchanged

/-- A report that finds nothing new leaves everything as it is. -/
theorem report_of_known (hfiled : sc.device.Filed)
    (htracked : sc.memory.trackedUser = sc.device.currentUser)
    (hknown : sc.memory.records.peek sc.device.currentUser = some sc.device.inEffect) :
    sc.report = sc := by
  rw [report_eq hfiled, if_pos htracked.symm, hknown, track_of_tracked htracked]
  exact if_pos rfl

/-- The first record of a user who was current all along is only kept. -/
theorem report_of_first (hfiled : sc.device.Filed)
    (htracked : sc.memory.trackedUser = sc.device.currentUser)
    (hfirst : sc.memory.records.peek sc.device.currentUser = none) :
    sc.report = sc.adopt sc.device.inEffect := by
  rw [report_eq hfiled, if_pos htracked.symm, hfirst, track_of_tracked htracked]

/-- A report of another user or of another record is acted on. -/
theorem report_of_news (hfiled : sc.device.Filed)
    (hnews : sc.memory.trackedUser = sc.device.currentUser →
      ∃ known, sc.memory.records.peek sc.device.currentUser = some known ∧
        known ≠ sc.device.inEffect) :
    sc.report = ((sc.track.adopt sc.device.inEffect).changed sc.device.inEffect).detect
      sc.device.inEffect .externalChange := by
  have hown : sc.device.inEffect.user =
      (sc.track.adopt sc.device.inEffect).device.currentUser := hfiled.user_recordOf _
  rw [← configurationChanged_of_current hown, report_eq hfiled]
  split
  · rename_i htracked
    obtain ⟨known, hknown, hne⟩ := hnews htracked.symm
    rw [hknown]
    exact if_neg hne
  · rfl

@[simp] theorem changed_device (c : Configuration) : (sc.changed c).device = sc.device := by
  unfold changed
  split <;> rfl

/-- A change of the record in effect can only take a suggestion of geolocation away. -/
theorem geolocation_changed {c : Configuration} {g : GeoSuggestion}
    (h : (sc.changed c).memory.geolocation = some g) :
    sc.memory.geolocation = some g ∧ c.geoBehavior = true := by
  unfold changed at h
  split at h
  · exact ⟨h, by assumption⟩
  · simp [tell, forget] at h

/-- The three situations that a report can find. -/
theorem report_cases (sc : Scene) :
    (sc.memory.trackedUser = sc.device.currentUser ∧
      sc.memory.records.peek sc.device.currentUser = some sc.device.inEffect) ∨
    (sc.memory.trackedUser = sc.device.currentUser ∧
      sc.memory.records.peek sc.device.currentUser = none) ∨
    (sc.memory.trackedUser = sc.device.currentUser →
      ∃ known, sc.memory.records.peek sc.device.currentUser = some known ∧
        known ≠ sc.device.inEffect) := by
  by_cases htracked : sc.memory.trackedUser = sc.device.currentUser
  · cases hpeek : sc.memory.records.peek sc.device.currentUser with
    | none => exact .inr (.inl ⟨htracked, rfl⟩)
    | some known =>
        by_cases hsame : known = sc.device.inEffect
        · exact .inl ⟨htracked, congrArg some hsame⟩
        · exact .inr (.inr fun _ => ⟨known, rfl, hsame⟩)
  · exact .inr (.inr fun h => absurd h htracked)

end Scene

/-- The arbiter has the record in effect, and everything is filed in order. All that
coherence takes beyond this is that what the record does not ask for is forgotten. -/
structure Scene.UpToDate (sc : Scene) : Prop where
  /-- Every record is known under its own user. -/
  own : ∀ {user c}, sc.memory.records.peek user = some c → c.user = user
  /-- The device keeps every record under its own user, and has the current one. -/
  filed : sc.device.Filed
  /-- The user tracked is the current one. -/
  tracked : sc.memory.trackedUser = sc.device.currentUser
  /-- The record in effect is known. -/
  known : sc.memory.records.peek sc.device.currentUser = some sc.device.inEffect

namespace Scene.UpToDate

variable {sc : Scene}

theorem coherent (h : sc.UpToDate)
    (hlocated : ∀ g, sc.memory.geolocation = some g → sc.device.inEffect.geoBehavior = true) :
    Coherent sc.memory sc.device where
  own := h.own
  idle hpeek := by
    rw [h.tracked, h.known] at hpeek
    simp at hpeek
  located hs := ⟨sc.device.inEffect, h.tracked ▸ h.known, hlocated _ hs⟩
  filed := h.filed
  tracked := h.tracked
  current hc := (Option.some.inj (h.known.symm.trans hc)).symm

/-- Coherence comes back once the record in effect is known and what it no longer asks
for is forgotten. -/
theorem changed (h : sc.UpToDate) :
    Coherent (sc.changed sc.device.inEffect).memory (sc.changed sc.device.inEffect).device := by
  have hchanged : (sc.changed sc.device.inEffect).UpToDate := by
    unfold Scene.changed
    split <;> exact ⟨h.own, h.filed, h.tracked, h.known⟩
  refine hchanged.coherent fun g hg => ?_
  rw [Scene.changed_device]
  exact (Scene.geolocation_changed hg).2

/-- A report to an arbiter that is up to date changes nothing. -/
theorem report (h : sc.UpToDate) : sc.report = sc :=
  Scene.report_of_known h.filed h.tracked h.known

/-- Taking up the record in effect brings the arbiter up to date. -/
theorem adopt (hfiled : sc.device.Filed)
    (hown : ∀ {user c}, sc.memory.records.peek user = some c → c.user = user) :
    (sc.track.adopt sc.device.inEffect).UpToDate where
  own := Records.own_replace hown sc.device.inEffect
  filed := hfiled
  tracked := rfl
  known := by
    simp only [Scene.adopt, Scene.track, Scene.remember_memory, Scene.remember_device,
      Records.peek_replace]
    exact if_pos (hfiled.user_recordOf _).symm

end Scene.UpToDate

end ZoneArbiter
