/-!
# ZoneArbiter.Keyed — values filed under integer keys

Users and telephony slots are both numbered by integers, and both are always
listed by ascending number. `Keyed α` is a finite map with that order built in:
its entries are kept strictly ascending, so a map has one representation, and
two maps with equal look-ups are equal (`Keyed.ext_get?`).

Design points:

* insertion is a single pass that replaces on collision, so the two look-up
  equations `get?_insert_self` and `get?_insert_of_ne` need no side condition;
* the order is a proof field, so no caller has to carry it around.
-/

namespace ZoneArbiter

/-- A finite map from integers, kept in strictly ascending order of its keys. -/
structure Keyed (α : Type) where
  /-- The pairs of the map, lowest key first. -/
  entries : List (Int × α)
  /-- Every key is below all keys that follow it. -/
  ascending : entries.Pairwise (fun a b => a.1 < b.1)
deriving Repr, DecidableEq

namespace Keyed

variable {α : Type}

/-! ### Entry lists -/

/-- The value filed under `key`, if there is one. -/
def lookupEntry (key : Int) : List (Int × α) → Option α
  | [] => none
  | (k, v) :: rest => if k = key then some v else lookupEntry key rest

/-- File `value` under `key`, before the first greater key, in the place of any
value that stood there. -/
def insertEntry (key : Int) (value : α) : List (Int × α) → List (Int × α)
  | [] => [(key, value)]
  | (k, v) :: rest =>
      if key < k then (key, value) :: (k, v) :: rest
      else if key = k then (key, value) :: rest
      else (k, v) :: insertEntry key value rest

theorem mem_insertEntry {key : Int} {value : α} {entry : Int × α} {entries : List (Int × α)}
    (h : entry ∈ insertEntry key value entries) : entry = (key, value) ∨ entry ∈ entries := by
  induction entries with
  | nil => simpa [insertEntry] using h
  | cons head rest ih =>
      obtain ⟨k, v⟩ := head
      rw [insertEntry] at h
      split at h
      · simpa using h
      · split at h
        · rcases List.mem_cons.mp h with h | h
          · exact .inl h
          · exact .inr (List.mem_cons_of_mem _ h)
        · rcases List.mem_cons.mp h with h | h
          · exact .inr (h ▸ List.mem_cons_self)
          · exact (ih h).imp_right (List.mem_cons_of_mem _)

theorem insertEntry_ascending (key : Int) (value : α) {entries : List (Int × α)}
    (h : entries.Pairwise (fun a b => a.1 < b.1)) :
    (insertEntry key value entries).Pairwise (fun a b => a.1 < b.1) := by
  induction entries with
  | nil => simp [insertEntry]
  | cons head rest ih =>
      obtain ⟨k, v⟩ := head
      obtain ⟨hhead, hrest⟩ := List.pairwise_cons.mp h
      rw [insertEntry]
      split
      · rename_i hlt
        refine List.pairwise_cons.mpr ⟨fun entry hmem => ?_, h⟩
        rcases List.mem_cons.mp hmem with rfl | hmem
        · exact hlt
        · exact Int.lt_trans hlt (hhead entry hmem)
      · split
        · rename_i heq
          subst heq
          exact List.pairwise_cons.mpr ⟨hhead, hrest⟩
        · refine List.pairwise_cons.mpr ⟨fun entry hmem => ?_, ih hrest⟩
          rcases mem_insertEntry hmem with rfl | hmem
          · show k < key
            omega
          · exact hhead entry hmem

theorem lookupEntry_insertEntry_self (key : Int) (value : α) (entries : List (Int × α)) :
    lookupEntry key (insertEntry key value entries) = some value := by
  induction entries with
  | nil => simp [insertEntry, lookupEntry]
  | cons head rest ih =>
      obtain ⟨k, v⟩ := head
      rw [insertEntry]
      split
      · simp [lookupEntry]
      · split
        · simp [lookupEntry]
        · have hne : ¬ k = key := by omega
          simp [lookupEntry, hne, ih]

theorem lookupEntry_insertEntry_of_ne {key other : Int} (h : other ≠ key) (value : α)
    (entries : List (Int × α)) :
    lookupEntry other (insertEntry key value entries) = lookupEntry other entries := by
  induction entries with
  | nil => simp [insertEntry, lookupEntry, Ne.symm h]
  | cons head rest ih =>
      obtain ⟨k, v⟩ := head
      rw [insertEntry]
      split
      · simp [lookupEntry, Ne.symm h]
      · split
        · rename_i heq
          subst heq
          simp [lookupEntry, Ne.symm h]
        · simp [lookupEntry, ih]

theorem lookupEntry_eq_some_iff {key : Int} {value : α} {entries : List (Int × α)}
    (h : entries.Pairwise (fun a b => a.1 < b.1)) :
    lookupEntry key entries = some value ↔ (key, value) ∈ entries := by
  induction entries with
  | nil => simp [lookupEntry]
  | cons head rest ih =>
      obtain ⟨k, v⟩ := head
      obtain ⟨hhead, hrest⟩ := List.pairwise_cons.mp h
      by_cases hk : k = key
      · subst hk
        simp only [lookupEntry, if_true, Option.some.injEq, List.mem_cons, Prod.mk.injEq,
          true_and]
        constructor
        · rintro rfl
          exact .inl rfl
        · rintro (rfl | hmem)
          · rfl
          · exact absurd (hhead _ hmem) (Int.lt_irrefl _)
      · simp [lookupEntry, hk, Ne.symm hk, ih hrest]

/-- Strictly ascending entry lists with the same entries are the same list. -/
theorem entries_ext {xs ys : List (Int × α)} (hxs : xs.Pairwise (fun a b => a.1 < b.1))
    (hys : ys.Pairwise (fun a b => a.1 < b.1)) (h : ∀ entry, entry ∈ xs ↔ entry ∈ ys) :
    xs = ys := by
  induction xs generalizing ys with
  | nil =>
      cases ys with
      | nil => rfl
      | cons y ys => exact absurd ((h y).mpr List.mem_cons_self) (by simp)
  | cons x xs ih =>
      cases ys with
      | nil => exact absurd ((h x).mp List.mem_cons_self) (by simp)
      | cons y ys =>
          obtain ⟨hx, hxrest⟩ := List.pairwise_cons.mp hxs
          obtain ⟨hy, hyrest⟩ := List.pairwise_cons.mp hys
          have hxy : x = y := by
            rcases List.mem_cons.mp ((h x).mp List.mem_cons_self) with hxy | hmem
            · exact hxy
            · rcases List.mem_cons.mp ((h y).mpr List.mem_cons_self) with hyx | hmem'
              · exact hyx.symm
              · have := hy x hmem
                have := hx y hmem'
                omega
          subst hxy
          refine congrArg _ (ih hxrest hyrest fun entry => ⟨fun hmem => ?_, fun hmem => ?_⟩)
          · rcases List.mem_cons.mp ((h entry).mp (List.mem_cons_of_mem _ hmem)) with rfl | hmem'
            · exact absurd (hx _ hmem) (Int.lt_irrefl _)
            · exact hmem'
          · rcases List.mem_cons.mp ((h entry).mpr (List.mem_cons_of_mem _ hmem)) with rfl | hmem'
            · exact absurd (hy _ hmem) (Int.lt_irrefl _)
            · exact hmem'

/-! ### The map -/

/-- The map with nothing filed. -/
def empty : Keyed α := ⟨[], List.Pairwise.nil⟩

/-- The value filed under `key`, if there is one. -/
def get? (m : Keyed α) (key : Int) : Option α := lookupEntry key m.entries

/-- The map with `value` filed under `key`, in the place of any earlier value. -/
def insert (m : Keyed α) (key : Int) (value : α) : Keyed α :=
  ⟨insertEntry key value m.entries, insertEntry_ascending key value m.ascending⟩

/-- The keys in use, ascending. -/
def keys (m : Keyed α) : List Int := m.entries.map Prod.fst

/-- The values, in the order of their keys. -/
def values (m : Keyed α) : List α := m.entries.map Prod.snd

@[simp] theorem get?_empty (key : Int) : (empty : Keyed α).get? key = none := rfl

@[simp] theorem get?_insert_self (m : Keyed α) (key : Int) (value : α) :
    (m.insert key value).get? key = some value :=
  lookupEntry_insertEntry_self key value m.entries

theorem get?_insert_of_ne (m : Keyed α) {key other : Int} (h : other ≠ key) (value : α) :
    (m.insert key value).get? other = m.get? other :=
  lookupEntry_insertEntry_of_ne h value m.entries

/-- Filing changes the look-up of its own key only. -/
theorem get?_insert (m : Keyed α) (key other : Int) (value : α) :
    (m.insert key value).get? other = if other = key then some value else m.get? other := by
  split
  · rename_i h
    rw [h, get?_insert_self]
  · rename_i h
    exact m.get?_insert_of_ne h value

/-- Look-up finds exactly the entries of the map. -/
theorem get?_eq_some_iff {m : Keyed α} {key : Int} {value : α} :
    m.get? key = some value ↔ (key, value) ∈ m.entries :=
  lookupEntry_eq_some_iff m.ascending

/-- Maps with equal look-ups are equal. -/
theorem ext_get? {m n : Keyed α} (h : ∀ key, m.get? key = n.get? key) : m = n := by
  obtain ⟨xs, hxs⟩ := m
  obtain ⟨ys, hys⟩ := n
  have hentries : xs = ys := entries_ext hxs hys fun entry => by
    have hx : _ = some entry.2 ↔ entry ∈ xs := lookupEntry_eq_some_iff hxs
    have hy : _ = some entry.2 ↔ entry ∈ ys := lookupEntry_eq_some_iff hys
    rw [show lookupEntry entry.1 xs = lookupEntry entry.1 ys from h entry.1] at hx
    exact hx.symm.trans hy
  subst hentries
  rfl

/-- A key is in use exactly if look-up finds something under it. -/
theorem mem_keys_iff {m : Keyed α} {key : Int} :
    key ∈ m.keys ↔ (m.get? key).isSome = true := by
  simp [keys, Option.isSome_iff_exists, get?_eq_some_iff]

/-- The keys come out strictly ascending, hence without repetition. -/
theorem keys_ascending (m : Keyed α) : m.keys.Pairwise (· < ·) :=
  List.pairwise_map.mpr m.ascending

end Keyed

end ZoneArbiter
