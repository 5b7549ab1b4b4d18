import ZoneArbiter.Device.Watched
import ZoneArbiter.Proofs.Filing

/-!
# ZoneArbiter.Proofs.Reporting — what a watched device keeps, and whom it tells

**A request is carried out in full before anyone is told of it** (`perform_eq`): it settles the
device, and only then calls the watcher, once, if a report is due. So a watcher that fails fails
the request but undoes nothing, and what the device keeps does not depend on who watches it.

What the device keeps is an invariant of single requests (`Kept.perform`). Records stay filed
under their own users, the seed stays the one that the device started from, and whoever was
registered last is the watcher. The watcher's mood may change between any two requests.
-/

namespace ZoneArbiter

namespace Device

variable {d : Device} {user other : Int}

@[simp] theorem seed_see : (d.see user).seed = d.seed := by
  unfold see
  split <;> rfl

@[simp] theorem seed_store (change : ConfigurationChange) :
    (d.store user change).2.seed = d.seed := by
  unfold store
  dsimp only
  split <;> simp

@[simp] theorem seed_replace (c : Configuration) : (d.replace c).2.seed = d.seed := by
  unfold replace
  split <;> rfl

/-- After storing, the device holds the record with the change merged into it. -/
theorem get?_records_store (change : ConfigurationChange) :
    (d.store user change).2.records.get? user = some ((d.recordOf user).merge change) := by
  unfold store
  dsimp only
  split
  · rename_i hsame
    rw [get?_records_see, if_pos rfl, hsame]
  · exact Keyed.get?_insert_self _ _ _

/-- After replacing, the device holds the record that it was given. -/
theorem get?_records_replace (c : Configuration) :
    (d.replace c).2.records.get? c.user = some c := by
  unfold replace
  split
  · assumption
  · exact Keyed.get?_insert_self _ _ _

/-- A switch alters no record that is held. -/
theorem get?_records_switch {c held : Configuration} (h : d.records.get? user = some held) :
    (d.switch c).records.get? user = some held := by
  unfold switch
  cases hget : d.records.get? c.user with
  | some _ => exact h
  | none =>
      have hne : user ≠ c.user := by
        rintro rfl
        rw [hget] at h
        cases h
      exact (Keyed.get?_insert_of_ne _ hne _).trans h

end Device

namespace Watched

/-- The state that a call reaches, whether it answers or fails. -/
def Call.reached {α : Type} (call : Call α) (s : Watched) : Watched :=
  match call s with
  | .ok _ s' => s'
  | .error _ s' => s'

/-! ### One request -/

/-- The device as a request leaves it. -/
def Request.change (r : Request) (d : Device) : Device :=
  match r with
  | .replace c => (d.replace c).2
  | .switch c => d.switch c
  | .store user change => (d.store user change).2
  | .recordOf user => d.see user
  | .setZone target => d.setZone target
  | .zone | .watch _ => d

/-- What the device logs of a request. -/
def Request.lines (r : Request) (d : Device) : List Notice :=
  match r with
  | .store user _ | .recordOf user => d.seeNotices user
  | .setZone target => [.zoneWritten target]
  | _ => []

/-- What a request is answered with. -/
def Request.answer (r : Request) (d : Device) : Answer :=
  match r with
  | .recordOf user => .record (d.recordOf user)
  | .zone => .zone d.zone.isSome d.zone
  | _ => .done

/-- Who watches the device after a request. -/
def Request.watcher (r : Request) (watcher : Option Watcher) : Option Watcher :=
  match r with
  | .watch w => some w
  | _ => watcher

/-- Is a report of a request due? Storing has to alter the record of the user, replacing has to
differ from the record held, and a switch is always reported. -/
def Request.reported (seed : Configuration) (records : Keyed Configuration) : Request → Bool
  | .store user change =>
      let held := (records.get? user).getD { seed with user }
      decide (held.merge change ≠ held)
  | .replace c => decide (records.get? c.user ≠ some c)
  | .switch _ => true
  | _ => false

/-- The state in which a request is carried out and nobody has been told of it. -/
def settled (r : Request) (s : Watched) : Watched where
  device := r.change s.device
  watcher := r.watcher s.watcher
  journal := s.journal ++ (r.lines s.device).map .logged

@[simp] theorem device_settled (r : Request) (s : Watched) :
    (settled r s).device = r.change s.device := rfl

theorem reported_eq_store (d : Device) (user : Int) (change : ConfigurationChange) :
    (Request.store user change).reported d.seed d.records = (d.store user change).1 := by
  rw [Bool.eq_iff_iff, Device.store_due_iff]
  exact decide_eq_true_iff

theorem reported_eq_replace (d : Device) (c : Configuration) :
    (Request.replace c).reported d.seed d.records = (d.replace c).1 := by
  rw [Bool.eq_iff_iff, Device.replace_due_iff]
  exact decide_eq_true_iff

/-- A request that the device does not log leaves the journal alone until it is reported. -/
theorem settled_of_silent {r : Request} {s : Watched} (h : r.lines s.device = []) :
    settled r s = ⟨r.change s.device, r.watcher s.watcher, s.journal⟩ := by
  rw [settled, h, List.map_nil, List.append_nil]

/-- A request is carried out in full, and then reported if a report is due. -/
theorem perform_eq (r : Request) (s : Watched) :
    perform r s =
      (reportIf (r.reported s.device.seed s.device.records) >>= fun _ => pure (r.answer s.device))
        (settled r s) := by
  cases r with
  | replace c =>
      rw [reported_eq_replace, settled_of_silent rfl]
      rfl
  | switch c =>
      rw [settled_of_silent rfl]
      rfl
  | store user change =>
      rw [reported_eq_store]
      rfl
  | recordOf user =>
      rw [Request.answer, ← s.device.recordOf_see user user]
      rfl
  | setZone zone => rfl
  | zone =>
      rw [settled_of_silent rfl]
      rfl
  | watch w =>
      rw [settled_of_silent rfl]
      rfl

/-- Reporting is one line in the journal for the watcher, if there is one. -/
theorem reached_report (s : Watched) :
    report.reached s = { s with
      journal := s.journal ++
        s.watcher.toList.map fun w => .notified w.name s.device.currentUser } := by
  obtain ⟨device, watcher, journal⟩ := s
  cases watcher with
  | none =>
      show (⟨device, none, journal⟩ : Watched) = ⟨device, none, journal ++ []⟩
      rw [List.append_nil]
  | some w =>
      obtain ⟨name, fault⟩ := w
      cases fault <;> rfl

/-- Answering changes nothing. -/
theorem reached_bind_pure {α β : Type} (call : Call α) (b : β) (s : Watched) :
    Call.reached (call >>= fun _ => pure b) s = call.reached s := by
  show Call.reached (EStateM.bind call fun _ => EStateM.pure b) s = _
  unfold Call.reached EStateM.bind
  cases call s <;> rfl

/-- Nobody is called by registering. -/
theorem watcher_of_reported {r : Request} {seed : Configuration} {records : Keyed Configuration}
    (h : r.reported seed records = true) (watcher : Option Watcher) :
    r.watcher watcher = watcher := by
  cases r with
  | watch w => cases h
  | _ => rfl

/-- A request comes to rest where it settled, with one more line for the watcher if it was
reported. -/
theorem reached_perform (r : Request) (s : Watched) :
    (perform r).reached s = { settled r s with
      journal := (settled r s).journal ++
        if r.reported s.device.seed s.device.records then
          s.watcher.toList.map fun w => .notified w.name (r.change s.device).currentUser
        else [] } := by
  have hreached : (perform r).reached s =
      (reportIf (r.reported s.device.seed s.device.records)).reached (settled r s) := by
    rw [← reached_bind_pure (reportIf _) (r.answer s.device), Call.reached, perform_eq]
    rfl
  rw [hreached]
  cases hdue : r.reported s.device.seed s.device.records with
  | false =>
      show settled r s = { settled r s with journal := (settled r s).journal ++ [] }
      rw [List.append_nil]
  | true =>
      show report.reached (settled r s) = _
      rw [reached_report]
      show _ = ({ settled r s with journal := _ } : Watched)
      rw [settled, watcher_of_reported hdue]
      rfl

@[simp] theorem device_reached (r : Request) (s : Watched) :
    ((perform r).reached s).device = r.change s.device := by
  rw [reached_perform]
  rfl

@[simp] theorem watcher_reached (r : Request) (s : Watched) :
    ((perform r).reached s).watcher = r.watcher s.watcher := by
  rw [reached_perform]
  rfl

/-! ### All requests -/

/-- The device after a list of requests, some of which may have failed. In between, the watcher may
come to fail in another way or no longer. -/
inductive Reaches (seed : Configuration) (zone : Option String) : List Request → Watched → Prop
  /-- Nothing was asked yet. -/
  | start : Reaches seed zone [] ⟨Device.start seed zone, none, []⟩
  /-- One more request, whether it is answered or fails. -/
  | perform {requests : List Request} {s : Watched} (h : Reaches seed zone requests s)
      (r : Request) : Reaches seed zone (requests ++ [r]) ((perform r).reached s)
  /-- The mood of the watcher changes. -/
  | mood {requests : List Request} {s : Watched} (h : Reaches seed zone requests s)
      (fault : Option Fault) :
      Reaches seed zone requests { s with watcher := s.watcher.map fun w => { w with fault } }

/-- The name that a request registers. -/
def Request.registers? : Request → Option String
  | .watch w => some w.name
  | _ => none

/-- Who was registered last. -/
def lastRegistered (requests : List Request) : Option String :=
  (requests.filterMap Request.registers?).getLast?

/-- What holds of a watched device after a list of requests. -/
structure Kept (seed : Configuration) (requests : List Request) (s : Watched) : Prop where
  /-- Records are filed under their own users, and the current user has one. -/
  filed : s.device.Filed
  /-- New users start from what the device started from. -/
  seed : s.device.seed = seed
  /-- The watcher is the one registered last. -/
  watcher : s.watcher.map (·.name) = lastRegistered requests

theorem filed_change {d : Device} (h : d.Filed) (r : Request) : (r.change d).Filed := by
  cases r with
  | replace c => exact h.replace c
  | switch c => exact h.switch c
  | store user change => exact h.store change
  | recordOf user => exact h.see user
  | setZone zone => exact h.setZone zone
  | zone => exact h
  | watch w => exact h

theorem seed_change (r : Request) (d : Device) : (r.change d).seed = d.seed := by
  cases r with
  | replace c => exact Device.seed_replace c
  | store user change => exact Device.seed_store change
  | recordOf user => exact Device.seed_see
  | _ => rfl

/-- No request lets go of a user. -/
theorem isSome_change {d : Device} {user : Int} (h : (d.records.get? user).isSome = true)
    (r : Request) : ((r.change d).records.get? user).isSome = true := by
  cases r with
  | replace c => exact Device.isSome_replace c h
  | switch c => exact Device.isSome_switch c h
  | store _ change => exact Device.isSome_store change h
  | recordOf other =>
      show ((d.see other).records.get? user).isSome = true
      rw [Device.get?_records_see]
      split
      · rfl
      · exact h
  | _ => exact h

/-- Registering takes the place of whoever was registered before. -/
theorem lastRegistered_append (requests : List Request) (r : Request) (watcher : Option Watcher)
    (h : watcher.map (·.name) = lastRegistered requests) :
    (r.watcher watcher).map (·.name) = lastRegistered (requests ++ [r]) := by
  unfold lastRegistered at h ⊢
  cases r <;> simp [Request.watcher, Request.registers?, List.filterMap_append, h]

theorem Kept.perform {seed : Configuration} {requests : List Request} {s : Watched}
    (h : Kept seed requests s) (r : Request) :
    Kept seed (requests ++ [r]) ((Watched.perform r).reached s) where
  filed := by
    rw [device_reached]
    exact filed_change h.filed r
  seed := by rw [device_reached, seed_change, h.seed]
  watcher := by
    rw [watcher_reached]
    exact lastRegistered_append requests r s.watcher h.watcher

theorem Reaches.kept {seed : Configuration} {zone : Option String} {requests : List Request}
    {s : Watched} (h : Reaches seed zone requests s) : Kept seed requests s := by
  induction h with
  | start => exact ⟨Device.filed_start seed zone, rfl, rfl⟩
  | perform _ r ih => exact ih.perform r
  | mood _ fault ih =>
      refine ⟨ih.filed, ih.seed, ?_⟩
      rw [← ih.watcher, Option.map_map]
      rfl

/-- The record that a device answers with, in terms of the seed that it started from. -/
theorem Kept.recordOf {seed : Configuration} {requests : List Request} {s : Watched}
    (h : Kept seed requests s) (user : Int) :
    s.device.recordOf user = (s.device.records.get? user).getD { seed with user } := by
  rw [Device.recordOf, Device.fresh, h.seed]

/-- How a request fails, if it does. -/
def fault? (r : Request) (s : Watched) : Option Fault :=
  match perform r s with
  | .ok _ _ => none
  | .error fault _ => some fault

/-- A request fails exactly with the watcher who is told of it. -/
theorem fault?_eq (r : Request) (s : Watched) :
    fault? r s =
      if r.reported s.device.seed s.device.records then s.watcher.bind (·.fault) else none := by
  rw [fault?, perform_eq]
  cases hdue : r.reported s.device.seed s.device.records with
  | false => rfl
  | true =>
      obtain ⟨device, watcher, journal⟩ := s
      rw [settled, watcher_of_reported hdue]
      cases watcher with
      | none => rfl
      | some w =>
          obtain ⟨name, fault⟩ := w
          cases fault <;> rfl

/-- **What a watched device keeps, and what it reports**, after any requests and whoever watched.

Every record is filed under its own user, the current user has one, no request lets go of a user,
a user who is new to the device starts from the seed whatever became of the seed's own record, and a
switch alters no record that is held. Whoever was registered last is called once, in the state that
the request leaves, if the request is reported, and otherwise nobody is called; a watcher who fails
then fails the request, and the device is the same whoever watches it. -/
theorem keeps_and_reports {seed : Configuration} {zone : Option String} {requests : List Request}
    {s : Watched} (h : Reaches seed zone requests s) :
    (∀ user c, s.device.records.get? user = some c → c.user = user) ∧
    (s.device.records.get? s.device.currentUser).isSome = true ∧
    (∀ r user, (s.device.records.get? user).isSome = true →
      (((perform r).reached s).device.records.get? user).isSome = true) ∧
    (∀ user, s.device.records.get? user = none →
      (∃ s', perform (.recordOf user) s = .ok (.record { seed with user }) s' ∧
        s'.device.records.get? user = some { seed with user }) ∧
      ∀ change, ((perform (.store user change)).reached s).device.records.get? user =
        some (({ seed with user } : Configuration).merge change)) ∧
    (∀ user change held, s.device.records.get? user = some held →
      ((perform (.store user change)).reached s).device.records.get? user =
        some (held.merge change)) ∧
    (∀ c, ((perform (.replace c)).reached s).device.records.get? c.user = some c) ∧
    (∀ c, ((perform (.switch c)).reached s).device.currentUser = c.user ∧
      ∀ user held, s.device.records.get? user = some held →
        ((perform (.switch c)).reached s).device.records.get? user = some held) ∧
    s.watcher.map (·.name) = lastRegistered requests ∧
    ∀ r : Request,
      let s' := (perform r).reached s
      let due := r.reported seed s.device.records
      (∃ answer settled, settled.device = s'.device ∧
        perform r s = (reportIf due >>= fun _ => pure answer) settled) ∧
      (∃ lines : List Notice, s'.journal = s.journal ++ lines.map .logged ++
        if due then s.watcher.toList.map fun w => .notified w.name s'.device.currentUser
        else []) ∧
      fault? r s = (if due then s.watcher.bind (·.fault) else none) ∧
      ∀ watcher, ((perform r).reached { s with watcher }).device = s'.device := by
  have hkept := h.kept
  refine ⟨fun user c => hkept.filed.own, hkept.filed.current, fun r user hheld => ?_,
    fun user hnew => ⟨?_, fun change => ?_⟩, fun user change held hheld => ?_, fun c => ?_,
    fun c => ⟨?_, fun user held hheld => ?_⟩, hkept.watcher, fun r => ⟨?_, ?_, ?_, ?_⟩⟩
  · rw [device_reached]
    exact isSome_change hheld r
  · have hrecord : s.device.recordOf user = { seed with user } := by rw [hkept.recordOf, hnew]; rfl
    refine ⟨settled (.recordOf user) s, ?_, ?_⟩
    · rw [perform_eq, ← hrecord]
      rfl
    · show (s.device.see user).records.get? user = _
      rw [Device.get?_records_see, if_pos rfl, hrecord]
  · rw [device_reached]
    show (s.device.store user change).2.records.get? user = _
    rw [Device.get?_records_store, hkept.recordOf, hnew]
    rfl
  · rw [device_reached]
    show (s.device.store user change).2.records.get? user = _
    rw [Device.get?_records_store, hkept.recordOf, hheld]
    rfl
  · rw [device_reached]
    exact Device.get?_records_replace c
  · rw [device_reached]
    rfl
  · rw [device_reached]
    exact Device.get?_records_switch hheld
  · refine ⟨r.answer s.device, settled r s, (device_reached r s).symm, ?_⟩
    rw [perform_eq, hkept.seed]
  · refine ⟨r.lines s.device, ?_⟩
    rw [reached_perform, hkept.seed]
    rfl
  · rw [fault?_eq, hkept.seed]
  · intro watcher
    rw [device_reached, device_reached]

/-- A watcher who fails is told of a new user's settings. They stay, on top of the seed that the
device started from and not of what replaced it. -/
theorem keeps_and_reports_failing :
    let seed : Configuration := ⟨0, true, true, true, true, true⟩
    let off : ConfigurationChange := ⟨some false, none⟩
    ∃ s, Reaches seed none
        [.watch { name := "first" },
          .watch { name := "second", fault := some (.reported "no answer") },
          .replace { seed with geoEnabled := false }] s ∧
      s.watcher.map (·.name) = some "second" ∧
      s.journal = [.notified "second" 0] ∧
      fault? (.store 7 off) s = some (.reported "no answer") ∧
      ((perform (.store 7 off)).reached s).device.records.get? 7 =
        some { seed with user := 7, autoEnabled := false } := by
  intro seed off
  have hstart : Reaches seed none [] ⟨Device.start seed none, none, []⟩ := .start
  have h := ((hstart.perform (.watch { name := "first" })).perform
    (.watch { name := "second", fault := some (.reported "no answer") })).perform
      (.replace { seed with geoEnabled := false })
  obtain ⟨-, -, -, hnew, -, -, -, hlast, hreports⟩ := keeps_and_reports h
  refine ⟨_, h, hlast, by decide, ?_, (hnew 7 (by decide)).2 off⟩
  exact (hreports (.store 7 off)).2.2.1

end Watched

end ZoneArbiter
