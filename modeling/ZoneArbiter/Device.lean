import ZoneArbiter.Keyed
import ZoneArbiter.Notice

/-!
# ZoneArbiter.Device — a device that keeps everything in memory

A `Device` holds the record of every user that it has seen, who the current user
is, and its zone. A user seen for the first time gets a copy of the seed record.

Changes made on the device itself are reported to whoever watches it. The
operations below do not call the watcher; they say **whether a report is due**,
and they say so only once the change is in place. Storing reports only what
alters a record, replacing only what differs from the record held, and a switch
is always reported.
-/

namespace ZoneArbiter

/-- A device that keeps everything in memory. -/
structure Device where
  /-- What the record of a new user is copied from. -/
  seed : Configuration
  /-- The records of the users seen so far. -/
  records : Keyed Configuration
  /-- The user in the foreground. -/
  currentUser : Int
  /-- The zone, once there is one. -/
  zone : Option String
deriving Repr, DecidableEq

namespace Device

/-- A device on which only the seed's user has been seen, and is current. -/
def start (seed : Configuration) (zone : Option String) : Device :=
  ⟨seed, Keyed.empty.insert seed.user seed, seed.user, zone⟩

/-- The record that a new user starts from. -/
def fresh (d : Device) (user : Int) : Configuration := { d.seed with user }

/-- The record of a user: the one held, or else a fresh one. -/
def recordOf (d : Device) (user : Int) : Configuration :=
  (d.records.get? user).getD (d.fresh user)

/-- The device once it has seen a user. -/
def see (d : Device) (user : Int) : Device :=
  match d.records.get? user with
  | some _ => d
  | none => { d with records := d.records.insert user (d.fresh user) }

/-- What is logged when the device sees a user. -/
def seeNotices (d : Device) (user : Int) : List Notice :=
  match d.records.get? user with
  | some _ => []
  | none => [.recordCreated user]

/-- Persist the settings that a change names. A report is due if that alters the
record. -/
def store (d : Device) (user : Int) (change : ConfigurationChange) : Bool × Device :=
  -- The user is seen even if the change then alters nothing.
  let seen := d.see user
  let current := d.recordOf user
  let merged := current.merge change
  if merged = current then (false, seen)
  else (true, { seen with records := seen.records.insert user merged })

/-- Put a record in the place of the one held for its user. A report is due
unless the two are equal. -/
def replace (d : Device) (c : Configuration) : Bool × Device :=
  if d.records.get? c.user = some c then (false, d)
  else (true, { d with records := d.records.insert c.user c })

/-- Bring a user to the foreground; the record serves if none is held for that
user. A report is always due. -/
def switch (d : Device) (c : Configuration) : Device :=
  { d with
    records :=
      match d.records.get? c.user with
      | some _ => d.records
      | none => d.records.insert c.user c
    currentUser := c.user }

/-- Set the zone. -/
def setZone (d : Device) (zone : Option String) : Device := { d with zone }

/-! ### Seeing a user -/

/-- A user that was seen has the record that the device answers with. -/
theorem get?_records_see (d : Device) (user other : Int) :
    (d.see user).records.get? other =
      if other = user then some (d.recordOf user) else d.records.get? other := by
  unfold see recordOf
  split
  · rename_i c h
    split
    · rename_i heq
      simp [heq, h]
    · rfl
  · rename_i h
    rw [Keyed.get?_insert]
    simp [h]

/-- Seeing a user changes no answer. -/
theorem recordOf_see (d : Device) (user other : Int) :
    (d.see user).recordOf other = d.recordOf other := by
  have hfresh : (d.see user).fresh other = d.fresh other := by
    unfold see
    split <;> rfl
  rw [recordOf, get?_records_see, hfresh]
  split
  · rename_i h
    rw [h, Option.getD_some]
  · rfl

end Device

end ZoneArbiter
