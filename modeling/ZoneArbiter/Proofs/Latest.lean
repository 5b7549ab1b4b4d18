import Mathlib.Data.List.Nodup
import ZoneArbiter.Proofs.Convergence

/-!
# ZoneArbiter.Proofs.Latest

**What a table has kept of the suggestions that were recorded in it**: the last one of every slot
(`Table.Holds`), whatever the slots are and in whatever order they made theirs. The best of a table
is then a matter of these alone (`Table.Holds.best?_eq_some_iff`): among those with the highest
score it is the one of the lowest slot (`Leads`).

The scan for the best one goes by ascending slots and gives way only to a higher score. So what it
has in hand is always ahead of everything that it has passed (`Qualified.Ahead`).
-/

namespace ZoneArbiter.Telephony

/-! ### The last suggestion of a slot -/

/-- The last of some suggestions that a slot has made, if it has made any. -/
def lastOf (slot : Int) (suggestions : List TelephonySuggestion) : Option TelephonySuggestion :=
  (suggestions.filter (·.slot = slot)).getLast?

section LastOf

variable {slot : Int} {suggestions : List TelephonySuggestion} {s : TelephonySuggestion}

@[simp] theorem lastOf_nil (slot : Int) : lastOf slot [] = none := rfl

/-- A suggestion is the last one of its own slot, and of no other. -/
theorem lastOf_snoc (slot : Int) (suggestions : List TelephonySuggestion)
    (s : TelephonySuggestion) :
    lastOf slot (suggestions ++ [s]) =
      if slot = s.slot then some s else lastOf slot suggestions := by
  rw [lastOf, List.filter_append]
  split
  · rename_i h
    simp [h]
  · rename_i h
    simp [lastOf, Ne.symm h]

theorem lastOf_eq_none_iff : lastOf slot suggestions = none ↔ ∀ s ∈ suggestions, s.slot ≠ slot := by
  simp [lastOf]

theorem lastOf_eq_some (h : lastOf slot suggestions = some s) :
    s ∈ suggestions ∧ s.slot = slot := by
  simpa using List.mem_of_getLast? h

/-- Where every slot has made one suggestion only, that one is its last. -/
theorem lastOf_of_nodup (hslots : (suggestions.map (·.slot)).Nodup) :
    lastOf slot suggestions = some s ↔ s ∈ suggestions ∧ s.slot = slot := by
  refine ⟨lastOf_eq_some, ?_⟩
  rintro ⟨hmem, rfl⟩
  cases hlast : lastOf s.slot suggestions with
  | none => exact absurd rfl (lastOf_eq_none_iff.mp hlast s hmem)
  | some t =>
      obtain ⟨htmem, htslot⟩ := lastOf_eq_some hlast
      rw [List.inj_on_of_nodup_map hslots htmem hmem htslot]

end LastOf

/-! ### The best of a scan -/

namespace Qualified

/-- One suggestion goes before another: it has a higher score, or the same and a slot that is no
higher. -/
def Ahead (a b : Qualified) : Prop :=
  b.score.rank < a.score.rank ∨
    b.score.rank = a.score.rank ∧ a.suggestion.slot ≤ b.suggestion.slot

theorem Ahead.refl (a : Qualified) : a.Ahead a := .inr ⟨rfl, Int.le_refl _⟩

theorem Ahead.trans {a b c : Qualified} (h : a.Ahead b) (h' : b.Ahead c) : a.Ahead c := by
  unfold Ahead at *
  omega

/-- The better one of two is ahead of both, if the first one has the lower slot. -/
theorem ahead_better {a b : Qualified} (h : a.suggestion.slot < b.suggestion.slot) :
    (a.better b).Ahead a ∧ (a.better b).Ahead b := by
  unfold better
  split
  · rename_i hlt
    exact ⟨.inl hlt, .refl b⟩
  · refine ⟨.refl a, ?_⟩
    unfold Ahead
    omega

end Qualified

/-- **The scan.** What it ends with is ahead of all that it has passed. -/
theorem ahead_of_bestFrom? {q : Qualified} {sofar : Option Qualified} {candidates : List Qualified}
    (hascending : candidates.Pairwise (·.suggestion.slot < ·.suggestion.slot))
    (hsofar : ∀ x, sofar = some x → ∀ c ∈ candidates, x.suggestion.slot < c.suggestion.slot)
    (h : bestFrom? sofar candidates = some q) :
    (∀ x, sofar = some x → q.Ahead x) ∧ ∀ c ∈ candidates, q.Ahead c := by
  induction candidates generalizing sofar with
  | nil =>
      refine ⟨fun x hx => ?_, by simp⟩
      rw [hx] at h
      exact Option.some.inj h ▸ .refl x
  | cons y rest ih =>
      obtain ⟨hy, hrest⟩ := List.pairwise_cons.mp hascending
      cases sofar with
      | none =>
          obtain ⟨hhead, htail⟩ := ih hrest (fun x hx => Option.some.inj hx ▸ hy) h
          exact ⟨nofun, List.forall_mem_cons.mpr ⟨hhead y rfl, htail⟩⟩
      | some x =>
          obtain ⟨hxy, hx⟩ := List.forall_mem_cons.mp (hsofar x rfl)
          have hbetter (c : Qualified) (hc : c ∈ rest) :
              (x.better y).suggestion.slot < c.suggestion.slot := by
            unfold Qualified.better
            split
            · exact hy c hc
            · exact hx c hc
          obtain ⟨hhead, htail⟩ := ih hrest (fun z hz => Option.some.inj hz ▸ hbetter) h
          obtain ⟨hfirst, hsecond⟩ := Qualified.ahead_better hxy
          refine ⟨fun z hz => ?_, List.forall_mem_cons.mpr ⟨?_, htail⟩⟩
          · exact Option.some.inj hz ▸ (hhead _ rfl).trans hfirst
          · exact (hhead _ rfl).trans hsecond

theorem isSome_bestFrom? (x : Qualified) (candidates : List Qualified) :
    (bestFrom? (some x) candidates).isSome = true := by
  induction candidates generalizing x with
  | nil => rfl
  | cons y rest ih => exact ih (x.better y)

/-! ### Tables -/

/-- Of the last suggestions of all slots one with the highest score, and among these the one of the
lowest slot. -/
structure Leads (suggestions : List TelephonySuggestion) (q : Qualified) : Prop where
  last : lastOf q.suggestion.slot suggestions = some q.suggestion
  score : q.score = score q.suggestion
  ahead : ∀ s, lastOf s.slot suggestions = some s → q.Ahead (qualify s)

/-- One suggestion leads at most. -/
theorem Leads.unique {suggestions : List TelephonySuggestion} {q q' : Qualified}
    (h : Leads suggestions q) (h' : Leads suggestions q') : q = q' := by
  have hqualify {q : Qualified} (h : Leads suggestions q) : q = qualify q.suggestion := by
    rw [qualify, ← h.score]
  have hahead := h.ahead _ h'.last
  have hahead' := h'.ahead _ h.last
  rw [← hqualify h'] at hahead
  rw [← hqualify h] at hahead'
  have hslot : q.suggestion.slot = q'.suggestion.slot := by
    unfold Qualified.Ahead at hahead hahead'
    omega
  have hsame : q.suggestion = q'.suggestion := by
    refine Option.some.inj ?_
    rw [← h.last, ← h'.last, hslot]
  rw [hqualify h, hqualify h', hsame]

namespace Table

/-- The table holds the last suggestion of every slot. -/
def Holds (t : Table) (suggestions : List TelephonySuggestion) : Prop :=
  ∀ slot, t.bySlot.get? slot = lastOf slot suggestions

namespace Holds

variable {t t' : Table} {suggestions suggestions' : List TelephonySuggestion}

theorem nil : Holds {} [] := fun _ => rfl

/-- To record a suggestion is to make it the last. -/
theorem record (h : t.Holds suggestions) (s : TelephonySuggestion) :
    (t.record s).Holds (suggestions ++ [s]) := by
  intro slot
  rw [lastOf_snoc, Table.record, Keyed.get?_insert, h slot]

theorem get? (h : t.Holds suggestions) (slot : Int) :
    t.get? slot = (lastOf slot suggestions).map qualify := by
  rw [Table.get?, h slot]

/-- Nothing else is in the table, so that it is a matter of the last suggestions alone. -/
theorem ext (h : t.Holds suggestions) (h' : t'.Holds suggestions')
    (hlast : ∀ slot, lastOf slot suggestions = lastOf slot suggestions') : t = t' := by
  have hbySlot : t.bySlot = t'.bySlot :=
    Keyed.ext_get? fun slot => by rw [h slot, h' slot, hlast slot]
  obtain ⟨bySlot⟩ := t
  rw [show bySlot = t'.bySlot from hbySlot]

/-- Every entry is the last suggestion of its slot, with its score. -/
theorem mem_toList (h : t.Holds suggestions) {q : Qualified} :
    q ∈ t.toList ↔
      lastOf q.suggestion.slot suggestions = some q.suggestion ∧ q.score = score q.suggestion := by
  have hentry (key : Int) (s : TelephonySuggestion) :
      (key, s) ∈ t.bySlot.entries ↔ lastOf key suggestions = some s := by
    rw [← h key, Keyed.get?_eq_some_iff]
  simp only [toList, Keyed.values, List.map_map, List.mem_map, Prod.exists, hentry]
  constructor
  · rintro ⟨key, s, hlast, rfl⟩
    obtain ⟨-, rfl⟩ := lastOf_eq_some hlast
    exact ⟨hlast, rfl⟩
  · rintro ⟨hlast, hscore⟩
    refine ⟨_, _, hlast, ?_⟩
    rw [Function.comp_apply, qualify, ← hscore]

/-- The scan goes by ascending slots. -/
theorem ascending (h : t.Holds suggestions) :
    t.toList.Pairwise (·.suggestion.slot < ·.suggestion.slot) := by
  have hkey (entry : Int × TelephonySuggestion) (hentry : entry ∈ t.bySlot.entries) :
      entry.2.slot = entry.1 :=
    (lastOf_eq_some (by rw [← h entry.1, Keyed.get?_eq_some_iff.mpr hentry])).2
  rw [toList, Keyed.values, List.map_map, List.pairwise_map]
  refine t.bySlot.ascending.imp_of_mem fun {a b} ha hb hab => ?_
  show a.2.slot < b.2.slot
  rwa [hkey a ha, hkey b hb]

/-- There is a best one as soon as there is one. -/
theorem best?_eq_none_iff (h : t.Holds suggestions) : t.best? = none ↔ suggestions = [] := by
  have hlist : t.best? = none ↔ t.toList = [] := by
    rw [best?]
    cases t.toList with
    | nil => simp [bestFrom?]
    | cons first rest =>
        have hsome : (bestFrom? none (first :: rest)).isSome = true := isSome_bestFrom? first rest
        rw [Option.isSome_iff_ne_none] at hsome
        simpa using hsome
  rw [hlist]
  constructor
  · intro hnil
    refine List.eq_nil_iff_forall_not_mem.mpr fun s hs => ?_
    cases hlast : lastOf s.slot suggestions with
    | none => exact lastOf_eq_none_iff.mp hlast s hs rfl
    | some s' =>
        obtain ⟨-, hslot⟩ := lastOf_eq_some hlast
        have hmem : qualify s' ∈ t.toList := h.mem_toList.mpr ⟨hslot ▸ hlast, rfl⟩
        simp [hnil] at hmem
  · rintro rfl
    refine List.eq_nil_iff_forall_not_mem.mpr fun q hq => ?_
    exact nomatch (h.mem_toList.mp hq).1

/-- **The best one** is the one that leads. -/
theorem best?_eq_some_iff (h : t.Holds suggestions) {q : Qualified} :
    t.best? = some q ↔ Leads suggestions q := by
  have hleads {q : Qualified} (hbest : t.best? = some q) : Leads suggestions q := by
    have hahead := (ahead_of_bestFrom? h.ascending (by nofun) hbest).2
    rcases mem_of_bestFrom? hbest with hnone | hmem
    · exact nomatch hnone
    · obtain ⟨hlast, hscore⟩ := h.mem_toList.mp hmem
      exact ⟨hlast, hscore, fun s hs => hahead _ (h.mem_toList.mpr ⟨hs, rfl⟩)⟩
  refine ⟨hleads, fun hq => ?_⟩
  cases hbest : t.best? with
  | none =>
      have hempty := h.best?_eq_none_iff.mp hbest
      have hlast := hq.last
      simp [hempty] at hlast
  | some q' => rw [(hleads hbest).unique hq]

end Holds

end Table

end ZoneArbiter.Telephony
