import ZoneArbiter.Device
import ZoneArbiter.Records

/-!
# ZoneArbiter.Proofs.Filing

**Records are filed under their own users.** A device keeps each record under the
user that it names and always has one for the current user (`Device.Filed`); what
each operation of the device does is said through `recordOf`, the record that the
device answers with, so that no later proof looks into the device's map.

The arbiter's own records are kept in the same way; `peek` is their `recordOf`.
-/

namespace ZoneArbiter

/-- Every record is filed under the user that it names, and the current user has
one. -/
structure Device.Filed (d : Device) : Prop where
  /-- Every record names the user that it is filed under. -/
  own : ∀ {user c}, d.records.get? user = some c → c.user = user
  /-- The current user has a record. -/
  current : (d.records.get? d.currentUser).isSome = true

namespace Device

variable {d : Device} {user other : Int}

theorem filed_start (seed : Configuration) (zone : Option String) : (start seed zone).Filed where
  own := by
    intro user c h
    rw [start, Keyed.get?_insert] at h
    split at h
    · rename_i heq
      rw [heq, ← Option.some.inj h]
    · simp at h
  current := by simp [start]

/-- The device answers for every user with a record that names the user. -/
theorem Filed.user_recordOf (h : d.Filed) (user : Int) : (d.recordOf user).user = user := by
  unfold recordOf
  cases hget : d.records.get? user with
  | none => rfl
  | some c => exact h.own hget

/-- Filing a record under its own user keeps the device filed. -/
theorem Filed.insert (h : d.Filed) {c : Configuration} (hc : c.user = user) :
    ({ d with records := d.records.insert user c } : Device).Filed where
  own := by
    intro u c' hget
    rw [Keyed.get?_insert] at hget
    split at hget
    · rename_i heq
      rw [heq, ← Option.some.inj hget, hc]
    · exact h.own hget
  current := by
    show ((d.records.insert user c).get? d.currentUser).isSome = true
    rw [Keyed.get?_insert]
    split
    · rfl
    · exact h.current

/-! ### Seeing a user -/

@[simp] theorem currentUser_see : (d.see user).currentUser = d.currentUser := by
  unfold see
  split <;> rfl

@[simp] theorem zone_see : (d.see user).zone = d.zone := by
  unfold see
  split <;> rfl

theorem Filed.see (h : d.Filed) (user : Int) : (d.see user).Filed := by
  unfold Device.see
  split
  · exact h
  · exact h.insert rfl

/-- A user who was seen before is no news. -/
theorem see_of_isSome (h : (d.records.get? user).isSome = true) : d.see user = d := by
  obtain ⟨c, hc⟩ := Option.isSome_iff_exists.mp h
  simp [see, hc]

/-! ### Storing and replacing -/

@[simp] theorem currentUser_store (change : ConfigurationChange) :
    (d.store user change).2.currentUser = d.currentUser := by
  unfold store
  dsimp only
  split <;> simp

@[simp] theorem zone_store (change : ConfigurationChange) :
    (d.store user change).2.zone = d.zone := by
  unfold store
  dsimp only
  split <;> simp

/-- A report is due exactly if storing alters the record. -/
theorem store_due_iff (change : ConfigurationChange) :
    (d.store user change).1 = true ↔ (d.recordOf user).merge change ≠ d.recordOf user := by
  unfold store
  dsimp only
  split <;> simp_all

/-- Storing what alters nothing still sees the user. -/
theorem store_of_not_due {change : ConfigurationChange} (h : (d.store user change).1 = false) :
    (d.store user change).2 = d.see user := by
  unfold store at h ⊢
  dsimp only at h ⊢
  split <;> simp_all

/-- Storing merges the change into the record of its user, and touches no other. -/
theorem recordOf_store (change : ConfigurationChange) :
    (d.store user change).2.recordOf other =
      if other = user then (d.recordOf user).merge change else d.recordOf other := by
  have hfresh : (d.see user).fresh other = d.fresh other := by
    unfold see
    split <;> rfl
  unfold store
  dsimp only
  by_cases hsame : (d.recordOf user).merge change = d.recordOf user
  · rw [if_pos hsame, recordOf_see, hsame]
    split
    · rename_i heq
      rw [heq]
    · rfl
  · rw [if_neg hsame]
    show ((((d.see user).records.insert user _).get? other).getD ((d.see user).fresh other)) = _
    rw [Keyed.get?_insert, get?_records_see, hfresh]
    split <;> rfl

/-- Storing lets go of no user. -/
theorem isSome_store (change : ConfigurationChange)
    (h : (d.records.get? other).isSome = true) :
    ((d.store user change).2.records.get? other).isSome = true := by
  unfold store
  dsimp only
  split
  · rw [get?_records_see]
    split <;> simp [h]
  · show ((((d.see user).records.insert user _).get? other)).isSome = true
    rw [Keyed.get?_insert, get?_records_see]
    split <;> simp [h]

theorem Filed.store (h : d.Filed) (change : ConfigurationChange) :
    (d.store user change).2.Filed := by
  unfold Device.store
  dsimp only
  split
  · exact h.see user
  · exact (h.see user).insert (h.user_recordOf user)

@[simp] theorem currentUser_replace (c : Configuration) :
    (d.replace c).2.currentUser = d.currentUser := by
  unfold replace
  split <;> rfl

@[simp] theorem zone_replace (c : Configuration) : (d.replace c).2.zone = d.zone := by
  unfold replace
  split <;> rfl

/-- Replacing a record is heard of unless the very record was held. -/
theorem replace_due_iff (c : Configuration) :
    (d.replace c).1 = true ↔ d.records.get? c.user ≠ some c := by
  unfold replace
  split <;> simp_all

theorem replace_of_not_due {c : Configuration} (h : (d.replace c).1 = false) :
    (d.replace c).2 = d := by
  unfold replace at h ⊢
  split <;> simp_all

/-- Replacing puts the record in the place of its user's, and touches no other. -/
theorem recordOf_replace (c : Configuration) :
    (d.replace c).2.recordOf other = if other = c.user then c else d.recordOf other := by
  unfold replace
  split
  · rename_i hget
    split
    · rename_i heq
      simp [heq, recordOf, hget]
    · rfl
  · show ((d.records.insert c.user c).get? other).getD (d.fresh other) = _
    rw [Keyed.get?_insert]
    split <;> rfl

/-- Replacing lets go of no user. -/
theorem isSome_replace (c : Configuration) (h : (d.records.get? other).isSome = true) :
    ((d.replace c).2.records.get? other).isSome = true := by
  unfold replace
  split
  · exact h
  · show ((d.records.insert c.user c).get? other).isSome = true
    rw [Keyed.get?_insert]
    split <;> simp [h]

theorem Filed.replace (h : d.Filed) (c : Configuration) : (d.replace c).2.Filed := by
  unfold Device.replace
  split
  · exact h
  · exact h.insert rfl

/-! ### Switching users -/

/-- Switching touches the record of no user but the one switched to. -/
theorem recordOf_switch_of_ne {c : Configuration} (h : other ≠ c.user) :
    (d.switch c).recordOf other = d.recordOf other := by
  unfold switch
  cases hget : d.records.get? c.user with
  | some _ => rfl
  | none =>
      show ((d.records.insert c.user c).get? other).getD (d.fresh other) = _
      rw [Keyed.get?_insert_of_ne _ h]
      rfl

/-- Switching lets go of no user. -/
theorem isSome_switch (c : Configuration) (h : (d.records.get? other).isSome = true) :
    ((d.switch c).records.get? other).isSome = true := by
  unfold switch
  cases hget : d.records.get? c.user with
  | some _ => exact h
  | none =>
      show ((d.records.insert c.user c).get? other).isSome = true
      rw [Keyed.get?_insert]
      split <;> simp [h]

theorem Filed.switch (h : d.Filed) (c : Configuration) : (d.switch c).Filed := by
  unfold Device.switch
  cases hget : d.records.get? c.user with
  | some held => exact ⟨h.own, by simp [hget]⟩
  | none =>
      have hinsert : ({ d with records := d.records.insert c.user c } : Device).Filed :=
        h.insert rfl
      exact ⟨hinsert.own, by simp⟩

theorem Filed.setZone (h : d.Filed) (zone : Option String) : (d.setZone zone).Filed :=
  ⟨h.own, h.current⟩

end Device

namespace Records

/-- Replacing changes what is known of the record's own user only. -/
theorem peek_replace (r : Records) (c : Configuration) (user : Int) :
    (r.replace c).peek user = if user = c.user then some c else r.peek user :=
  r.peek_keep c.user user c

/-- Replacing keeps every record under its own user. -/
theorem own_replace {r : Records}
    (hown : ∀ {user c}, r.peek user = some c → c.user = user) (new : Configuration)
    {user : Int} {c : Configuration} (h : (r.replace new).peek user = some c) :
    c.user = user := by
  rw [peek_replace] at h
  split at h
  · rename_i heq
    rw [heq, ← Option.some.inj h]
  · exact hown h

end Records

end ZoneArbiter
