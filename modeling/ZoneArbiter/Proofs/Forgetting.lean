import ZoneArbiter.Proofs.Turn

/-!
# ZoneArbiter.Proofs.Forgetting

**A geolocation suggestion is held for as long as detection by location stays in
use, and no longer** (`Session.HeldSince`): whatever is held was the latest
suggestion of geolocation, was made while the mode of the current user asked for it,
and the mode of whoever is current has asked for it ever since.

A step can put only its own suggestion into the slot (`Scene.geolocation_after`), and
coherence says that the record in effect asks for what the slot holds; the induction
goes forward over the steps, with a suggestion held from the beginning as the other
case. So no suggestion from before detection by location was left can move the
device later: `held_since` names the sources of every move.
-/

namespace ZoneArbiter

open Session (Step World)

/-- Through these steps detection by location stays in use, and geolocation makes no
suggestion. -/
structure Session.StaysLocated (bound : Nat) (s : System World) (steps : List Step) : Prop where
  /-- The record in effect asks for geolocation in every state. -/
  mode : ∀ mid, mid <+: steps → (after bound s mid).host.device.inEffect.mode = .autoGeo
  /-- Geolocation is quiet. -/
  quiet : ∀ g, Step.geo g ∉ steps

/-- The suggestion was made while detection by location was in use, was the last one
of geolocation, and detection by location has been in use ever since. -/
def Session.HeldSince (bound : Nat) (s : System World) (steps : List Step)
    (g : GeoSuggestion) : Prop :=
  ∃ pre post, steps = pre ++ .geo g :: post ∧
    (after bound s pre).host.device.inEffect.mode = .autoGeo ∧
    StaysLocated bound (after bound s (pre ++ [.geo g])) post

section Step

variable {sc sc' : Scene} {step : Step}

/-- A turn leaves the slot as it was or puts the step's own suggestion there. -/
theorem Scene.Turn.geolocation (h : sc.Turn step sc') (hcoherent : Coherent sc.memory sc.device)
    {g : GeoSuggestion} (hg : sc'.memory.geolocation = some g) :
    (step = .geo g ∧ sc.device.inEffect.geoBehavior = true) ∨
      sc.memory.geolocation = some g := by
  cases h with
  | rests hrests => exact .inr (hrests.geolocation ▸ hg)
  | detects _ _ _ hlocated =>
      rw [Scene.detect_geolocation] at hg
      exact hlocated g hg
  | @picks user pick _ =>
      obtain ⟨changes, hmemory⟩ := (sc.load user).moveTo_memory pick.zone (.manual user)
      rw [hmemory] at hg
      exact .inr ((Scene.Rests.load hcoherent user).geolocation ▸ hg)
  | sets zone => exact .inr (by simpa using hg)
  | enrols => exact .inr hg

/-- **One step.** What is held after a step is the step's own suggestion, made while it
was asked for, or it was held before and the step suggested nothing. -/
theorem Scene.geolocation_after (hcoherent : Coherent sc.memory sc.device) (hcalm : step.Calm)
    {g : GeoSuggestion} (hg : (sc.after step).memory.geolocation = some g) :
    (step = .geo g ∧ sc.device.inEffect.geoBehavior = true) ∨
      (sc.memory.geolocation = some g ∧ ∀ g', step ≠ .geo g') := by
  rcases (Scene.turn_after hcoherent hcalm).geolocation hcoherent hg with hown | hbefore
  · exact .inl hown
  · by_cases hgeo : ∃ g', step = .geo g'
    · -- A suggestion made while one is held is asked for, so it took the slot.
      obtain ⟨g', rfl⟩ := hgeo
      have hasked := hcoherent.inEffect_of_located hbefore
      obtain ⟨pre, -, -, hheld, heq, -⟩ := Scene.geo_eq_detect hcoherent g' hasked
      rw [show sc.after (.geo g') = sc.geo g' from rfl, heq, Scene.detect_geolocation, hheld] at hg
      rw [Option.some.inj hg]
      exact .inl ⟨rfl, hasked⟩
    · exact .inr ⟨hbefore, fun g' heq => hgeo ⟨g', heq⟩⟩

/-- A zone that is not where it was was set, picked, or detected from a suggestion that
is known by then. -/
theorem Scene.Turn.zone (h : sc.Turn step sc') (hzone : sc'.device.zone ≠ sc.device.zone) :
    (∃ zone, step = .setZone zone) ∨ (∃ user pick, step = .manual user pick) ∨
    (∃ best, sc'.memory.telephony.best? = some best ∧
      sc'.device.zone = best.suggestion.zone) ∨
    ∃ g candidates zone, sc'.memory.geolocation = some g ∧ g.zones = some candidates ∧
      zone ∈ candidates ∧ sc'.device.zone = some zone := by
  cases h with
  | rests hrests => exact absurd hrests.zone hzone
  | detects _ _ hpre _ =>
      rw [← hpre] at hzone
      refine .inr (.inr ?_)
      rw [Scene.detect_telephony, Scene.detect_geolocation]
      exact Scene.zone_detect_cases hzone
  | picks => exact .inr (.inl ⟨_, _, rfl⟩)
  | sets zone => exact .inl ⟨zone, rfl⟩
  | enrols => exact absurd rfl hzone

end Step

section Run

variable {bound : Nat} {sc : Scene} {s : System World} {steps : List Step} {g : GeoSuggestion}

open Session (after take Faultless HeldSince StaysLocated)

theorem Session.StaysLocated.cons {step : Step} {rest : List Step}
    (hmode : s.host.device.inEffect.mode = .autoGeo) (hquiet : ∀ g, step ≠ .geo g)
    (h : StaysLocated bound (take bound step s).2 rest) :
    StaysLocated bound s (step :: rest) where
  mode := by
    intro mid hmid
    cases mid with
    | nil => exact hmode
    | cons first mid =>
        obtain ⟨rfl, hrest⟩ := List.cons_prefix_cons.mp hmid
        exact h.mode mid hrest
  quiet := by
    intro g hg
    rcases List.mem_cons.mp hg with heq | hg
    · exact hquiet g heq.symm
    · exact h.quiet g hg

theorem Session.HeldSince.cons {step : Step} {rest : List Step}
    (h : HeldSince bound (take bound step s).2 rest g) : HeldSince bound s (step :: rest) g := by
  obtain ⟨pre, post, rfl, hmode, hstays⟩ := h
  exact ⟨step :: pre, post, rfl, hmode, hstays⟩

/-- What is held at the end was held all the time, or has been held since it was
suggested on the way. -/
theorem Session.HeldSince.of_run (hs : Shows s sc) (hcoherent : Coherent sc.memory sc.device)
    (hcalm : ∀ step ∈ steps, step.Calm) (hok : Faultless bound s steps)
    (hg : (sc.run steps).memory.geolocation = some g) :
    (sc.memory.geolocation = some g ∧ StaysLocated bound s steps) ∨
      HeldSince bound s steps g := by
  have hmode {sc : Scene} {s : System World} (hs : Shows s sc)
      (hasked : sc.device.inEffect.geoBehavior = true) :
      s.host.device.inEffect.mode = .autoGeo := by
    rw [hs.device]
    exact (Configuration.mode_eq_autoGeo_iff _).mpr hasked
  induction steps generalizing s sc with
  | nil =>
      refine .inl ⟨hg, fun mid hmid => ?_, by simp⟩
      rw [List.prefix_nil.mp hmid]
      exact hmode hs (hcoherent.inEffect_of_located hg)
  | cons step rest ih =>
      obtain ⟨hstep, hcalm⟩ := List.forall_mem_cons.mp hcalm
      obtain ⟨hfault, hok⟩ := Session.faultless_cons.mp hok
      have hnext := hs.take hstep hfault
      -- Held at the end means suggested later on, or held after this step; and held after
      -- this step means suggested by it, or held before.
      rcases ih hnext (hcoherent.after hstep) hcalm hok hg with ⟨hheld, hstays⟩ | hsince
      · rcases Scene.geolocation_after hcoherent hstep hheld with ⟨rfl, hasked⟩ | ⟨hbefore, hquiet⟩
        · exact .inr ⟨[], rest, rfl, hmode hs hasked, hstays⟩
        · exact .inl ⟨hbefore,
            hstays.cons (hmode hs (hcoherent.inEffect_of_located hbefore)) hquiet⟩
      · exact .inr hsince.cons

/-- **Leaving detection by location forgets.** In every state of a calm session, the
geolocation suggestion that is held was made while detection by location was in use,
was the last one, and detection by location has been in use ever since, for whoever was
current. And every step that moves the device sets the zone, takes a pick, follows the
best telephony suggestion, or follows such a suggestion of geolocation: one from before
moves nothing. -/
theorem held_since {setup : Session.Setup} (hsetup : setup.Calm) (hs : setup.system = .ok s)
    (hcalm : ∀ step ∈ steps, step.Calm) (hok : Faultless bound s steps) :
    (∀ g, (after bound s steps).memory.geolocation = some g → HeldSince bound s steps g) ∧
    ∀ pre step post, steps = pre ++ step :: post →
      (after bound s (pre ++ [step])).host.device.zone ≠ (after bound s pre).host.device.zone →
      (∃ zone, step = .setZone zone) ∨ (∃ user pick, step = .manual user pick) ∨
      (∃ best, (after bound s (pre ++ [step])).memory.telephony.best? = some best ∧
        (after bound s (pre ++ [step])).host.device.zone = best.suggestion.zone) ∨
      ∃ g candidates zone, HeldSince bound s (pre ++ [step]) g ∧ g.zones = some candidates ∧
        zone ∈ candidates ∧ (after bound s (pre ++ [step])).host.device.zone = some zone := by
  obtain ⟨changes, hstart, hfresh⟩ := hsetup.begins hs
  have hheld (steps : List Step) (hcalm : ∀ step ∈ steps, step.Calm)
      (hok : Faultless bound s steps) (g : GeoSuggestion)
      (hg : (after bound s steps).memory.geolocation = some g) : HeldSince bound s steps g := by
    rw [(hstart.after hcalm hok).memory] at hg
    rcases Session.HeldSince.of_run hstart hfresh hcalm hok hg with ⟨hnone, -⟩ | hsince
    · simp [Session.Setup.scene, Arbiter.Memory.fresh] at hnone
    · exact hsince
  refine ⟨hheld steps hcalm hok, ?_⟩
  rintro pre step post rfl hmoved
  rw [List.append_cons] at hcalm hok
  have hcalm' : ∀ later ∈ pre ++ [step], later.Calm :=
    fun later hmem => hcalm later (List.mem_append_left _ hmem)
  have hok' := (Session.faultless_append.mp hok).1
  have hheld' := hheld (pre ++ [step]) hcalm' hok'
  obtain ⟨hokPre, hokStep⟩ := Session.faultless_snoc.mp hok'
  have hpre : ∀ step ∈ pre, step.Calm :=
    fun step hmem => hcalm' step (List.mem_append_left _ hmem)
  have hstep : step.Calm := hcalm' step (by simp)
  have hbefore := hstart.after hpre hokPre
  have hcoherent := hfresh.run hpre
  have hafter := hbefore.take hstep hokStep
  rw [Session.after_snoc] at hmoved hheld' ⊢
  rw [hafter.device, hbefore.device] at hmoved
  rw [hafter.memory] at hheld'
  rw [hafter.device, hafter.memory]
  rcases (Scene.turn_after hcoherent hstep).zone hmoved with hset | hpick | hbest | hgeo
  · exact .inl hset
  · exact .inr (.inl hpick)
  · exact .inr (.inr (.inl hbest))
  · obtain ⟨g, candidates, zone, hg, hzones, hmem, hzone⟩ := hgeo
    exact .inr (.inr (.inr ⟨g, candidates, zone, hheld' g hg, hzones, hmem, hzone⟩))

end Run

/-- A suggestion is held until its user turns detection by location off. -/
theorem held_since_turned_off :
    Session.HeldSince 0 (Session.Setup.opening ⟨1, true, true, true, true, true⟩ none)
        [.geo ⟨some ["Europe/Berlin"], []⟩] ⟨some ["Europe/Berlin"], []⟩ ∧
      (Session.after 0 (Session.Setup.opening ⟨1, true, true, true, true, true⟩ none)
        [.geo ⟨some ["Europe/Berlin"], []⟩, .update 1 ⟨none, some false⟩]).memory.geolocation =
          none :=
  ⟨(held_since (Session.Setup.calm_plain _ none) (Session.Setup.system_plain _ none)
    (by simp [Step.Calm]) (by decide)).1 _ (by decide), by decide⟩

end ZoneArbiter
