import ZoneArbiter.Proofs.Freshness

/-!
# ZoneArbiter.Proofs.Settings

**While nobody changes records on the device itself, the record of a user is the seed with
the settings that the user was last granted** (`record_of_last_settings`). Arbiter and device
each merge the changes into a record of their own, at different times and into records that
may not exist yet; the two come out the same (`Fresh`), and what they come out as is a
function of the user's own changes (`Configuration.settled`).

No change names a restriction, and what is granted depends on restrictions alone
(`Configuration.permits`). So no update makes a later one possible or impossible, and updates of
other users are of no account.
-/

namespace ZoneArbiter

open Session (Step World)

/-! ### What changes come to -/

/-- Do the restrictions of the record permit a change of every setting that is named? -/
def Configuration.permits (c : Configuration) (change : ConfigurationChange) : Bool :=
  (change.autoEnabled.isNone || (c.userConfigAllowed && c.autoSupported)) &&
    (change.geoEnabled.isNone || (c.userConfigAllowed && c.autoSupported && c.locationEnabled))

/-- The value that the last of the changes to name a setting names for it. -/
def lastNamed (setting : ConfigurationChange → Option Bool) (changes : List ConfigurationChange) :
    Option Bool :=
  (changes.filterMap setting).getLast?

/-- The record of a user who starts from a copy of this one and makes changes. -/
def Configuration.settled (seed : Configuration) (user : Int)
    (changes : List ConfigurationChange) : Configuration :=
  { seed with
    user
    autoEnabled := (lastNamed ConfigurationChange.autoEnabled changes).getD seed.autoEnabled
    geoEnabled := (lastNamed ConfigurationChange.geoEnabled changes).getD seed.geoEnabled }

theorem lastNamed_snoc (setting : ConfigurationChange → Option Bool)
    (changes : List ConfigurationChange) (change : ConfigurationChange) (fallback : Bool) :
    (lastNamed setting (changes ++ [change])).getD fallback =
      (setting change).getD ((lastNamed setting changes).getD fallback) := by
  unfold lastNamed
  cases hnamed : setting change <;> simp [hnamed]

namespace Configuration

variable (seed : Configuration) (user : Int) (changes : List ConfigurationChange)
  (change : ConfigurationChange)

/-- A further change is merged into what came out of those before. -/
theorem settled_snoc :
    seed.settled user (changes ++ [change]) = (seed.settled user changes).merge change := by
  simp only [settled, merge, lastNamed_snoc]

/-- **No update escalates.** Whatever was changed, a change is granted exactly if the seed's
restrictions permit it. -/
theorem grant?_settled :
    (seed.settled user changes).grant? change =
      if seed.permits change then some (seed.settled user (changes ++ [change])) else none := by
  have hdenies : (seed.settled user changes).capabilities.denies change = !seed.permits change := by
    obtain ⟨auto, geo⟩ := change
    unfold Capabilities.denies capabilities permits settled
    cases auto <;> cases geo <;> cases seed.userConfigAllowed <;> cases seed.autoSupported <;>
      cases seed.locationEnabled <;> rfl
  rw [Configuration.grant?, Capabilities.grant?, hdenies, settled_snoc]
  cases seed.permits change <;> rfl

end Configuration

/-! ### Steps that leave the records to the arbiter -/

/-- The step changes no record on the device itself, and switches no user. -/
def Session.Step.Inside : Step → Prop
  | .replace _ | .switch _ | .store .. => False
  | _ => True

/-- The change of the user's settings that a step asks for, if it asks for one. -/
def Session.Step.changeOf? (user : Int) : Step → Option ConfigurationChange
  | .update other change => if other = user then some change else none
  | _ => none

/-- The changes of a user's settings that steps ask for, in order. -/
def Session.changesOf (user : Int) (steps : List Step) : List ConfigurationChange :=
  steps.filterMap (Step.changeOf? user)

/-- Those of them that the restrictions of the seed permit. -/
def Session.granted (seed : Configuration) (user : Int) (steps : List Step) :
    List ConfigurationChange :=
  (changesOf user steps).filter seed.permits

section Records

variable {sc : Scene} {user other : Int} {change : ConfigurationChange} {step : Step}

/-- A record that is fresh is the one that the arbiter goes by. -/
theorem Fresh.recordOf (h : Fresh user sc.memory sc.device) :
    sc.recordOf user = sc.device.recordOf user := by
  unfold Scene.recordOf
  cases hpeek : sc.memory.records.peek user with
  | none => rfl
  | some c => exact (h c hpeek).2.symm

/-- Of what was stored, persisting touches the zone alone. -/
theorem Scene.persist_device (hfiled : sc.device.Filed) (user : Int)
    (change : ConfigurationChange) :
    ∃ zone, (sc.persist user change).device = (sc.device.store user change).2.setZone zone := by
  unfold persist
  dsimp only
  split
  · have hstored : ((sc.deviceCall (.storeCall user change)).onDevice fun d =>
        (d.store user change).2).device.Filed := by simpa using hfiled.store change
    obtain ⟨zone, hdevice⟩ := report_device hstored
    exact ⟨zone, by simpa using hdevice⟩
  · refine ⟨(sc.device.store user change).2.zone, ?_⟩
    rw [onDevice_device, deviceCall_device]
    rfl

/-- An update changes the record of its user on the device if it is granted, and no other. -/
theorem Scene.recordOf_update (hcoherent : Coherent sc.memory sc.device)
    (hfresh : Fresh user sc.memory sc.device) (change : ConfigurationChange) (other : Int) :
    (sc.update user change).2.device.recordOf other =
      if other = user then
        ((sc.device.recordOf user).grant? change).getD (sc.device.recordOf user)
      else sc.device.recordOf other := by
  unfold update
  rw [hfresh.recordOf]
  cases hgrant : (sc.device.recordOf user).grant? change with
  | none =>
      rw [load_recordOf]
      split
      · rename_i heq
        rw [heq]
        rfl
      · rfl
  | some new =>
      have hloaded := (hcoherent.load user).filed
      obtain ⟨zone, hpersist⟩ := ((sc.load user).adopt new).persist_device hloaded user change
      have hstored (zone' : Option String) :
          (((sc.load user).device.store user change).2.setZone zone').recordOf other =
            if other = user then new else sc.device.recordOf other := by
        show ((sc.load user).device.store user change).2.recordOf other = _
        rw [Device.recordOf_store, load_recordOf, load_recordOf,
          Configuration.merge_of_grant hgrant]
      dsimp only
      -- Detection may follow the change, and it touches nothing of the device but its zone.
      split
      · rw [hpersist]
        exact hstored zone
      · obtain ⟨zone', hdevice⟩ := (((sc.load user).adopt new).persist user
          change).configurationChanged_device new .configurationUpdate
        rw [hdevice, hpersist]
        exact hstored zone'

/-- **One step.** Of the records that the device answers with, a step changes the one that it is
granted a change of, and no other. -/
theorem Scene.recordOf_after (hcoherent : Coherent sc.memory sc.device)
    (hfresh : ∀ user, Fresh user sc.memory sc.device) (hcalm : step.Calm) (hinside : step.Inside)
    (user : Int) :
    (sc.after step).device.recordOf user =
      match step.changeOf? user with
      | some change => ((sc.device.recordOf user).grant? change).getD (sc.device.recordOf user)
      | none => sc.device.recordOf user := by
  cases step with
  | current | status | capabilities other => exact load_recordOf _ _
  | update other change =>
      refine (recordOf_update hcoherent (hfresh other) change user).trans ?_
      simp only [Step.changeOf?]
      by_cases hother : other = user
      · rw [if_pos hother, if_pos hother.symm, hother]
      · rw [if_neg hother, if_neg (Ne.symm hother)]
  | manual other pick =>
      show (sc.manual other pick).2.device.recordOf user = sc.device.recordOf user
      unfold manual
      split
      · rw [moveTo_device]
        exact load_recordOf other user
      · exact load_recordOf other user
  | telephony s =>
      show (sc.telephony s).device.recordOf user = sc.device.recordOf user
      obtain ⟨zone, hdevice⟩ := ((sc.remember fun m =>
        { m with telephony := m.telephony.record s }).load sc.device.currentUser).detect_device
          (sc.recordOf sc.device.currentUser) (.telephonySuggestion s.slot)
      rw [telephony, hdevice]
      exact load_recordOf _ user
  | geo s =>
      show (sc.geo s).device.recordOf user = sc.device.recordOf user
      unfold geo
      dsimp only
      split
      · obtain ⟨zone, hdevice⟩ := ((sc.load sc.device.currentUser).remember fun m =>
          { m with geolocation := some s }).detect_device (sc.recordOf sc.device.currentUser)
            .geolocationSuggestion
        rw [hdevice]
        exact load_recordOf _ user
      · exact load_recordOf _ user
  | recordOf other => exact Device.recordOf_see _ _ _
  | setZone zone =>
      show (sc.deviceCall (.zoneWrite zone)).device.recordOf user = _
      rw [deviceCall_device]
      rfl
  | report =>
      obtain ⟨zone, hdevice⟩ := report_device hcoherent.filed
      show sc.report.device.recordOf user = _
      rw [hdevice]
      rfl
  | addListener | addAppendix | invalid | latestTelephony | latestGeo | best | changeLog | zone
  | clock => rfl
  | replace | switch | store => exact hinside.elim
  | fault | echo | initialized => exact hcalm.elim

/-! ### Runs -/

/-- After the steps every record is the seed with the settings that its user was granted, on the
device and with the arbiter alike. -/
structure Scene.Settled (sc : Scene) (seed : Configuration) (steps : List Step) : Prop where
  coherent : Coherent sc.memory sc.device
  fresh : ∀ user, Fresh user sc.memory sc.device
  record : ∀ user, sc.device.recordOf user = seed.settled user (Session.granted seed user steps)

variable {seed : Configuration} {pre steps : List Step}

theorem Scene.Settled.after (h : sc.Settled seed pre) (hcalm : step.Calm) (hinside : step.Inside) :
    (sc.after step).clear.Settled seed (pre ++ [step]) where
  coherent := h.coherent.after hcalm
  fresh := by
    intro user
    refine ((h.fresh user).after h.coherent hcalm).resolve_right ?_
    -- A record can grow old only by a step from outside, and there is none.
    rintro ⟨hchanges, -⟩
    cases step <;> first | exact hchanges | exact hinside
  record := by
    intro user
    rw [clear_device, recordOf_after h.coherent h.fresh hcalm hinside, h.record]
    cases hchange : step.changeOf? user with
    | none => simp [Session.granted, Session.changesOf, hchange]
    | some change =>
        simp only [Configuration.grant?_settled]
        cases hpermits : seed.permits change <;>
          simp [Session.granted, Session.changesOf, hchange, hpermits]

theorem Scene.Settled.run (h : sc.Settled seed pre) (hcalm : ∀ step ∈ steps, step.Calm)
    (hinside : ∀ step ∈ steps, step.Inside) : (sc.run steps).Settled seed (pre ++ steps) := by
  induction steps generalizing sc pre with
  | nil => simpa using h
  | cons step rest ih =>
      obtain ⟨hstep, hcalm⟩ := List.forall_mem_cons.mp hcalm
      obtain ⟨hin, hinside⟩ := List.forall_mem_cons.mp hinside
      have hrest := ih (h.after hstep hin) hcalm hinside
      rwa [List.append_assoc] at hrest

/-- On a new device every user starts from a copy of the seed. -/
theorem Scene.Settled.start {setup : Session.Setup} (hsetup : setup.Calm) {zone : Option String}
    (hdevice : setup.device = .start seed zone) (changes : ChangeLog) :
    (setup.scene changes).Settled seed [] where
  coherent := .fresh changes hsetup.filed
  fresh := by
    intro user c hc
    simp [Session.Setup.scene, Arbiter.Memory.fresh, Records.peek] at hc
  record := by
    intro user
    show setup.device.recordOf user = { seed with user }
    rw [hdevice, Device.recordOf, Device.start, Keyed.get?_insert]
    split
    · rename_i hseed
      rw [hseed]
      rfl
    · rfl

end Records

section Session

open Session (after take Faultless granted changesOf)

variable {bound : Nat} {s : System World} {seed : Configuration} {zone : Option String}
  {setup : Session.Setup} {steps : List Step}

/-- The record that either side has of a user after a run is the seed with the settings that
the user was last granted, and both sides have the same. -/
theorem Scene.Settled.records {sc : Scene} (h : sc.Settled seed steps) (hs : Shows s sc)
    (user : Int) :
    (∀ c, s.memory.records.peek user = some c →
      c = seed.settled user (granted seed user steps) ∧
        s.host.device.records.get? user = some c) ∧
    ∀ c, s.host.device.records.get? user = some c →
      c = seed.settled user (granted seed user steps) := by
  have hheld {c : Configuration} (hc : sc.device.records.get? user = some c) :
      c = seed.settled user (granted seed user steps) := by
    rw [← h.record user, Device.recordOf, hc]
    rfl
  rw [hs.memory, hs.device]
  refine ⟨fun c hc => ?_, fun c hc => hheld hc⟩
  obtain ⟨hseen, hrecord⟩ := h.fresh user c hc
  obtain ⟨held, hget⟩ := Option.isSome_iff_exists.mp hseen
  have hsame : c = held := by
    rw [← hrecord, Device.recordOf, hget]
    rfl
  exact ⟨hsame ▸ hheld hget, hsame ▸ hget⟩

/-- **Updates fold and never escalate.** In a session in which only the arbiter changes
records, every record of a user, on the device and with the arbiter, is the seed under the
user's own number with each setting as the last granted change of this user to name it has
it; whether a change is granted depends on the settings that it names and on the seed's
restrictions. So a second run in which the user asks for the same changes in the same order
ends in the same record, whatever others ask for in between. -/
theorem record_of_last_settings (hsetup : setup.Calm) (hdevice : setup.device = .start seed zone)
    (hs : setup.system = .ok s) (hcalm : ∀ step ∈ steps, step.Calm)
    (hinside : ∀ step ∈ steps, step.Inside) (hok : Faultless bound s steps) (user : Int) :
    (∀ c, (after bound s steps).memory.records.peek user = some c →
      c = seed.settled user (granted seed user steps) ∧
        (after bound s steps).host.device.records.get? user = some c) ∧
    (∀ c, (after bound s steps).host.device.records.get? user = some c →
      c = seed.settled user (granted seed user steps)) ∧
    (∀ change, (take bound (.update user change) (after bound s steps)).1.fault? = none →
      (take bound (.update user change) (after bound s steps)).1.outcome =
        .ok (.flag (seed.permits change))) ∧
    ∀ steps' : List Step, (∀ step ∈ steps', step.Calm) → (∀ step ∈ steps', step.Inside) →
      Faultless bound s steps' → changesOf user steps' = changesOf user steps →
      ∀ c c', (after bound s steps).memory.records.peek user = some c →
        (after bound s steps').memory.records.peek user = some c' → c' = c := by
  obtain ⟨changes, hstart, -⟩ := hsetup.begins hs
  have hbegin := Scene.Settled.start hsetup hdevice changes
  have hafter := hstart.after hcalm hok
  have hsettled := hbegin.run hcalm hinside
  rw [List.nil_append] at hsettled
  obtain ⟨hknown, hheld⟩ := hsettled.records hafter user
  refine ⟨hknown, hheld, fun change hfault => ?_, ?_⟩
  · have hanswer := hafter.answers (by trivial) (by rfl) hfault
    rw [hanswer, Scene.update_fst, (hsettled.fresh user).recordOf, hsettled.record,
      Configuration.grant?_settled]
    cases seed.permits change <;> rfl
  · intro steps' hcalm' hinside' hok' hsame c c' hc hc'
    have hsettled' := hbegin.run hcalm' hinside'
    rw [List.nil_append] at hsettled'
    obtain ⟨hknown', -⟩ := hsettled'.records (hstart.after hcalm' hok') user
    rw [(hknown c hc).1, (hknown' c' hc').1, granted, granted, hsame]

/-- Users 1 and 2 change their settings in turn, and one change asks for too much. -/
def Session.inTurn : List Step :=
  [.update 1 ⟨some true, none⟩, .update 2 ⟨some true, none⟩, .update 1 ⟨some false, none⟩,
    .update 2 ⟨some false, some true⟩]

/-- Where the location is off, user 2 keeps what came of the one change that was granted, and
the other is refused again. -/
theorem record_of_last_settings_in_turn :
    (after 0 (Session.Setup.opening ⟨1, true, true, false, false, false⟩ none)
      Session.inTurn).memory.records.peek 2 = some ⟨2, true, true, true, false, false⟩ ∧
    (take 0 (.update 2 ⟨some false, some true⟩)
      (after 0 (Session.Setup.opening ⟨1, true, true, false, false, false⟩ none)
        Session.inTurn)).1.outcome = .ok (.flag false) := by
  have hsteps : ∀ step ∈ Session.inTurn, step.Calm ∧ step.Inside := by
    simp [Session.inTurn, Step.Calm, Step.Inside]
  have hok : Faultless 0 (Session.Setup.opening ⟨1, true, true, false, false, false⟩ none)
      Session.inTurn := by
    simp only [Session.inTurn, Session.faultless_cons]
    exact ⟨rfl, rfl, rfl, rfl, Session.faultless_nil _ _⟩
  obtain ⟨hknown, -, hanswer, -⟩ := record_of_last_settings (Session.Setup.calm_plain _ none) rfl
    (Session.Setup.system_plain _ none) (fun step hstep => (hsteps step hstep).1)
    (fun step hstep => (hsteps step hstep).2) hok 2
  refine ⟨?_, hanswer _ rfl⟩
  obtain ⟨c, hc⟩ : ∃ c, (after 0 (Session.Setup.opening ⟨1, true, true, false, false, false⟩ none)
      Session.inTurn).memory.records.peek 2 = some c := ⟨_, rfl⟩
  rw [hc, (hknown c hc).1]
  decide

end Session

end ZoneArbiter
