import ZoneArbiter.Proofs.OpenSession
import ZoneArbiter.Proofs.PlainDevice

/-!
# ZoneArbiter.Proofs.Picks

**A pick by hand goes by the record of the user who makes it** (`picks_by_own_record`), although the
zone that it sets is everybody's. While the zone is detected for the current user, that user's picks
are refused, since the arbiter goes by the device's record of the current user
(`InStep.keptRecord_currentUser`). A user in the background is refused for the same reason only if
the zone would be detected for that user too; one who has switched detection off and may configure
moves the device (`picked_from_background`).

Sessions are open here: listeners may take steps of their own and fail. A fault leaves the system
as it is at that moment, so what is said of the states between two steps is said of those in which a
listener makes a pick, too.
-/

namespace ZoneArbiter

open Session (Setup Step World after keptRecord take)

/-- **Picks.** In every state of a session on a device outside any rig, while the zone is detected
for the current user, no pick by hand moves the device but one of a user in the background whose own
record has detection off and lets the user configure. -/
theorem picks_by_own_record {setup : Setup} (hrig : setup.rig = none) (hfiled : setup.device.Filed)
    {s : System World} (hs : setup.system = .ok s) {bound : Nat} {steps : List Step}
    (hauto : (after bound s steps).host.device.inEffect.mode ≠ .off) (user : Int)
    (pick : ManualSuggestion) :
    (take bound (.manual user pick) (after bound s steps)).2.host.device.zone =
      if user ≠ (after bound s steps).host.device.currentUser ∧
          (keptRecord (after bound s steps) user).userConfigAllowed = true ∧
          (keptRecord (after bound s steps) user).mode = .off
        then some pick.zone else (after bound s steps).host.device.zone := by
  have hstep : InStep (after bound s steps) := (InStep.of_system hrig hfiled hs).after bound steps
  rw [(lands_manual hstep.plain.rig user pick).zone]
  by_cases hcurrent : user = (after bound s steps).host.device.currentUser
  · -- The current user's record is the one on which the zone is detected.
    have hkept : (keptRecord (after bound s steps) user).mode ≠ .off := by
      rw [hcurrent, hstep.keptRecord_currentUser]
      exact hauto
    rw [if_neg fun hpicks => hkept (Configuration.possessed_suggestManual_iff.mp hpicks).2,
      if_neg fun hpicks => hpicks.1 hcurrent]
  · simp only [Configuration.possessed_suggestManual_iff, ne_eq, hcurrent, not_false_eq_true,
      true_and]

/-- User 1's device is in Rome by telephony, and user 2 has switched detection off. -/
def Session.offInBackground : List Step :=
  [.telephony { slot := 0, zone := some "Europe/Rome", quality := some .singleZone },
    .update 2 ⟨some false, none⟩]

open Session (offInBackground)

/-- User 1 and user 3, who was never seen, pick Paris, and the device stays in Rome. -/
theorem picks_by_own_record_refused :
    let opening := Setup.opening ⟨1, true, true, true, true, false⟩ none
    (after 0 opening offInBackground).host.device.inEffect.mode = .autoTelephony ∧
      (take 0 (.manual 1 ⟨"Europe/Paris"⟩) (after 0 opening offInBackground)).2.host.device.zone =
        some "Europe/Rome" ∧
      (take 0 (.manual 3 ⟨"Europe/Paris"⟩) (after 0 opening offInBackground)).2.host.device.zone =
        some "Europe/Rome" := by
  intro opening
  have hs : (Setup.plain ⟨1, true, true, true, true, false⟩ none).system = .ok opening :=
    Setup.system_plain _ none
  have hmode : (after 0 opening offInBackground).host.device.inEffect.mode = .autoTelephony := by
    decide +kernel
  have hrome : (after 0 opening offInBackground).host.device.zone = some "Europe/Rome" := by
    decide +kernel
  have hcurrent : (after 0 opening offInBackground).host.device.currentUser = 1 := by
    decide +kernel
  have hunseen : (keptRecord (after 0 opening offInBackground) 3).mode ≠ .off := by decide +kernel
  clear_value opening
  have hauto : (after 0 opening offInBackground).host.device.inEffect.mode ≠ .off := by
    rw [hmode]
    decide
  have hpicks := picks_by_own_record rfl (Device.filed_start _ none) hs hauto
  refine ⟨hmode, ?_, ?_⟩
  · rw [hpicks, if_neg fun hmay => hmay.1 hcurrent.symm, hrome]
  · rw [hpicks, if_neg fun hmay => hunseen hmay.2.2, hrome]

/-- User 2, in the background, picks Paris, and the device leaves the zone that was detected for
user 1. -/
theorem picked_from_background :
    let opening := Setup.opening ⟨1, true, true, true, true, false⟩ none
    (after 0 opening offInBackground).host.device.inEffect.mode = .autoTelephony ∧
      (after 0 opening offInBackground).host.device.zone = some "Europe/Rome" ∧
      (take 0 (.manual 2 ⟨"Europe/Paris"⟩) (after 0 opening offInBackground)).2.host.device.zone =
        some "Europe/Paris" := by
  decide +kernel

end ZoneArbiter
