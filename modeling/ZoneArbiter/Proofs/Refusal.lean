import ZoneArbiter.Proofs.FailedStore
import ZoneArbiter.Proofs.Transcript

/-!
# ZoneArbiter.Proofs.Refusal

**A refusal is not felt** (`refused_unfelt`), on any host, with any listeners, and in any state of
the arbiter: an update or a pick that is answered with no, or a geolocation suggestion that comes
while the current user's record does not ask for one, leaves no trace but that the record of the
user concerned may have been loaded (`Unfelt`). In particular nobody is told, nothing is persisted
and the device is not moved: the transcript holds reads of that user alone.

All three begin by asking for the record, and all that a refusal does after that is to log a line.
So what is felt of a refusal is what is felt of `Arbiter.recordOf` (`unfelt_recordOf`).
-/

namespace ZoneArbiter

open Arbiter (Host ListenerId)
open Effect

/-- The contact only reads who is current, or the record of the user. -/
def Contact.Reads (user : Int) : Contact → Prop
  | .currentUser _ => True
  | .configurationOf v _ => v = user
  | _ => False

/-- The change names a setting that the record does not let its user switch. -/
def Configuration.Forbids (c : Configuration) (change : ConfigurationChange) : Prop :=
  change.autoEnabled.isSome = true ∧ c.capabilities.configureAuto ≠ .possessed ∨
    change.geoEnabled.isSome = true ∧ c.capabilities.configureGeo ≠ .possessed

theorem Configuration.grant?_eq_none_iff {c : Configuration} {change : ConfigurationChange} :
    c.grant? change = none ↔ c.Forbids change := by
  have hdenies : c.capabilities.denies change = true ↔ c.Forbids change := by
    simp only [Capabilities.denies, Forbids, Bool.or_eq_true, Bool.and_eq_true, bne_iff_ne]
  rw [← hdenies, grant?, Capabilities.grant?]
  split <;> simp_all

section Refusal

variable {ω : Type} {host : Host ω} {tell : ListenerId → Effect (Transcribed ω) Unit}
  {s s₀ s₁ s' : System (Transcribed ω)} {user : Int} {c : Configuration}

/-- Nothing is felt of what led from one system to the other, but that the record of the user was
loaded from the host if the arbiter did not have it. -/
def Unfelt (user : Int) (s s' : System (Transcribed ω)) : Prop :=
  ∃ reads : List Contact, s'.host.contacts = s.host.contacts ++ reads ∧
    (∀ contact ∈ reads, contact.Reads user) ∧
    (s'.memory = s.memory ∨ ∃ c, s.memory.records.peek user = none ∧
      .configurationOf user (.ok c) ∈ reads ∧
      s'.memory = { s.memory with records := s.memory.records.keep user c })

/-- **Asking for a record** loads it if it has to be loaded, and that is all. -/
theorem unfelt_recordOf (h : (Arbiter.transcribed host tell).recordOf user s = .ok c s') :
    Unfelt user s s' ∧ s'.memory.records.peek user = some c := by
  obtain ⟨-, hpeek⟩ := Arbiter.discreet_transcribed.memory_of_recordOf h
  refine ⟨?_, by simpa using hpeek user⟩
  cases hknown : s.memory.records.peek user with
  | some known =>
      obtain ⟨rfl, rfl⟩ :=
        EStateM.Result.ok.inj ((Arbiter.recordOf_of_peek hknown).symm.trans h)
      exact ⟨[], by simp, by simp, .inl rfl⟩
  | none =>
      rw [Arbiter.recordOf_of_peek_none hknown] at h
      obtain ⟨c', s₁, hcall, h⟩ := ok_of_bind h
      obtain ⟨-, rfl⟩ := EStateM.Result.ok.inj h
      obtain ⟨hmemory, hcontacts⟩ := ok_of_call hcall
      refine ⟨[.configurationOf user (.ok c')], hcontacts, by simp [Contact.Reads],
        .inr ⟨c', hknown, by simp, ?_⟩⟩
      rw [← hmemory]

/-- Asking who is current before is not felt either. -/
theorem Unfelt.after_currentUser {current : Int}
    (h : (Arbiter.transcribed host tell).currentUser s = .ok current s₀)
    (hunfelt : Unfelt user s₀ s') : Unfelt user s s' := by
  obtain ⟨hmemory, hcontacts⟩ := ok_of_call h
  obtain ⟨reads, hreads, hall, hend⟩ := hunfelt
  refine ⟨.currentUser (.ok current) :: reads, ?_, ?_, ?_⟩
  · rw [hreads, hcontacts, List.append_assoc, List.singleton_append]
  · simpa [Contact.Reads] using hall
  · rw [hmemory] at hend
    refine hend.imp_right ?_
    rintro ⟨c, hunknown, hread, hkept⟩
    exact ⟨c, hunknown, List.mem_cons_of_mem _ hread, hkept⟩

/-- The system once the host has logged a line. -/
def System.logged (s : System (Transcribed ω)) (host : Host ω) (n : Notice) :
    System (Transcribed ω) :=
  s.onWorld (host.log n s.host.world)

/-- Nor is a line of the log. -/
theorem Unfelt.note (h : Unfelt user s s') (n : Notice) :
    Unfelt user s (s'.logged host n) := h

/-- An update that was refused has asked for the record, and logged a line. -/
theorem update_refused {change : ConfigurationChange}
    (h : (Arbiter.transcribed host tell).updateConfiguration user change s = .ok false s') :
    ∃ c s₁ n, (Arbiter.transcribed host tell).recordOf user s = .ok c s₁ ∧
      c.grant? change = none ∧ s' = s₁.logged host n := by
  obtain ⟨c, s₁, hrecord, h⟩ := ok_of_bind h
  cases hgrant : c.grant? change with
  | none =>
      rw [hgrant] at h
      obtain ⟨-, rfl⟩ := EStateM.Result.ok.inj h
      exact ⟨c, s₁, .updateRejected user change c.capabilities, hrecord, hgrant, rfl⟩
  | some new =>
      -- What is granted can fail later on, but it is not answered with no.
      rw [hgrant] at h
      obtain ⟨_, s₂, -, h⟩ := ok_of_bind h
      obtain ⟨_, s₃, -, h⟩ := ok_of_bind h
      split at h
      · obtain ⟨_, s₄, -, h⟩ := ok_of_bind h
        obtain ⟨_, s₅, -, h⟩ := ok_of_bind h
        cases (EStateM.Result.ok.inj h).1
      · cases (EStateM.Result.ok.inj h).1

/-- An update that is not granted is answered with no: nothing can fail any more. -/
theorem refuses_update {change : ConfigurationChange}
    (hrecord : (Arbiter.transcribed host tell).recordOf user s = .ok c s₁)
    (hgrant : c.grant? change = none) :
    (Arbiter.transcribed host tell).updateConfiguration user change s = .ok false
      (s₁.logged host (.updateRejected user change c.capabilities)) := by
  unfold Arbiter.updateConfiguration
  rw [bind_of_ok hrecord, hgrant]
  rfl

/-- A pick that was refused has asked for the record, and logged a line. -/
theorem manual_refused {pick : ManualSuggestion}
    (h : (Arbiter.transcribed host tell).suggestManual user pick s = .ok false s') :
    ∃ c s₁ n, (Arbiter.transcribed host tell).recordOf user s = .ok c s₁ ∧
      s' = s₁.logged host n := by
  obtain ⟨c, s₁, hrecord, h⟩ := ok_of_bind h
  dsimp only at h
  split at h
  · obtain ⟨_, s₂, -, h⟩ := ok_of_bind h
    cases (EStateM.Result.ok.inj h).1
  · obtain ⟨-, rfl⟩ := EStateM.Result.ok.inj h
    exact ⟨c, s₁, .manualRejected user pick c.capabilities.suggestManual, hrecord, rfl⟩

/-- A geolocation suggestion that is out of use asks for the record, and logs a line. -/
theorem geo_discarded (hcurrent : (Arbiter.transcribed host tell).currentUser s = .ok user s₀)
    (hrecord : (Arbiter.transcribed host tell).recordOf user s₀ = .ok c s₁)
    (hmode : c.mode ≠ .autoGeo) (suggestion : GeoSuggestion) :
    (Arbiter.transcribed host tell).suggestGeo suggestion s =
      .ok () (s₁.logged host (.geoDiscarded c.mode suggestion)) := by
  have hread : (Arbiter.transcribed host tell).currentRecord s = .ok c s₁ :=
    (bind_of_ok hcurrent).trans hrecord
  have hunused : ¬ c.geoBehavior = true := fun hgeo => hmode (c.mode_eq_autoGeo_iff.mpr hgeo)
  unfold Arbiter.suggestGeo
  rw [bind_of_ok hread, if_neg hunused]
  rfl

variable (host tell s user)

/-- **Refusals.** An update that is answered with no, a pick that is answered with no, and a
geolocation suggestion that comes while the current user's record asks for none are not felt, and
the suggestion is discarded without a fault. An update is refused exactly if it names a setting that
the record of its user forbids, and the record is then the same afterwards: no part of the change
takes effect. -/
theorem refused_unfelt :
    (∀ change s', (Arbiter.transcribed host tell).updateConfiguration user change s = .ok false s' →
      Unfelt user s s' ∧ ∃ c, s'.memory.records.peek user = some c ∧ c.Forbids change) ∧
    (∀ pick s', (Arbiter.transcribed host tell).suggestManual user pick s = .ok false s' →
      Unfelt user s s') ∧
    (∀ suggestion s₀ c s₁, (Arbiter.transcribed host tell).currentUser s = .ok user s₀ →
      (Arbiter.transcribed host tell).recordOf user s₀ = .ok c s₁ → c.mode ≠ .autoGeo →
      ∃ s', (Arbiter.transcribed host tell).suggestGeo suggestion s = .ok () s' ∧
        Unfelt user s s') ∧
    ∀ change c s₁, (Arbiter.transcribed host tell).recordOf user s = .ok c s₁ →
      ((∃ s', (Arbiter.transcribed host tell).updateConfiguration user change s = .ok false s') ↔
        c.Forbids change) := by
  refine ⟨fun change s' h => ?_, fun pick s' h => ?_, ?_, fun change c s₁ hrecord => ⟨?_, ?_⟩⟩
  · obtain ⟨c, s₁, n, hrecord, hgrant, rfl⟩ := update_refused h
    obtain ⟨hunfelt, hkept⟩ := unfelt_recordOf hrecord
    exact ⟨hunfelt.note n, c, hkept, Configuration.grant?_eq_none_iff.mp hgrant⟩
  · obtain ⟨c, s₁, n, hrecord, rfl⟩ := manual_refused h
    exact (unfelt_recordOf hrecord).1.note n
  · intro suggestion s₀ c s₁ hcurrent hrecord hmode
    exact ⟨_, geo_discarded hcurrent hrecord hmode suggestion,
      ((unfelt_recordOf hrecord).1.after_currentUser hcurrent).note _⟩
  · rintro ⟨s', h⟩
    obtain ⟨c', s₁', n, hrecord', hgrant, -⟩ := update_refused h
    obtain ⟨rfl, -⟩ := EStateM.Result.ok.inj (hrecord.symm.trans hrecord')
    exact Configuration.grant?_eq_none_iff.mp hgrant
  · intro hforbids
    exact ⟨_, refuses_update hrecord (Configuration.grant?_eq_none_iff.mpr hforbids)⟩

end Refusal

open Session (World)

/-- User 1 may switch automatic detection, but not detection by location, as the device has none.
Nothing is known to the arbiter yet. -/
def Session.unlocated : System (Transcribed World) :=
  let opening := Session.Setup.opening ⟨1, true, true, false, false, false⟩ none
  ⟨opening.memory, ⟨opening.host, []⟩⟩

/-- Asked to switch both, the arbiter refuses both. All that is felt is that it has loaded the
record; a geolocation suggestion is discarded in the same way. -/
theorem refused_unfelt_mixed :
    let a := Arbiter.transcribed World.host fun _ => throw (.reported "no answer")
    let s := Session.unlocated
    (∃ s', a.updateConfiguration 1 ⟨some true, some true⟩ s = .ok false s' ∧ Unfelt 1 s s' ∧
      s'.memory.records.peek 1 = some ⟨1, true, true, false, false, false⟩) ∧
    ∃ s', a.suggestGeo ⟨some ["Europe/Paris"], []⟩ s = .ok () s' ∧ Unfelt 1 s s' := by
  intro a s
  obtain ⟨hupdate, -, hgeo, hiff⟩ :=
    refused_unfelt World.host (fun _ => throw (.reported "no answer")) s 1
  have hforbids : Configuration.Forbids ⟨1, true, true, false, false, false⟩
      ⟨some true, some true⟩ := .inr ⟨rfl, by decide⟩
  refine ⟨?_, hgeo _ _ ⟨1, true, true, false, false, false⟩ _ rfl rfl (by decide)⟩
  obtain ⟨s', hrefused⟩ := (hiff _ ⟨1, true, true, false, false, false⟩ _ rfl).mpr hforbids
  obtain ⟨hunfelt, -⟩ := hupdate _ s' hrefused
  have hrun : a.updateConfiguration 1 ⟨some true, some true⟩ s = .ok false _ := rfl
  obtain ⟨-, rfl⟩ := EStateM.Result.ok.inj (hrefused.symm.trans hrun)
  exact ⟨_, hrefused, hunfelt, by decide⟩

end ZoneArbiter
