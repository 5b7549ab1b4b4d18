import ZoneArbiter.Configuration

/-!
# ZoneArbiter.Capability — what a user may change or suggest

Three things can be permitted to a user: to switch automatic detection, to
switch detection by location, and to pick a zone by hand. `capabilities` computes
the three from the user's record, and `Capabilities.grant?` is the gate for a
change: **a change goes through whole or not at all**, as each setting that it
names needs a possessed capability (`grant?_eq_some_iff`).
-/

namespace ZoneArbiter

open ZoneArbiter.Text

/-- The state of one capability. -/
inductive Capability
  /-- The user has it. -/
  | possessed
  /-- The user is denied it. -/
  | notAllowed
  /-- The device does not offer it to anyone. -/
  | notApplicable
deriving Repr, DecidableEq

namespace Capability

/-- The value that stands for a state outside this library. -/
def value : Capability → String
  | .possessed => "possessed"
  | .notAllowed => "not_allowed"
  | .notApplicable => "not_applicable"

/-- The name of a state. -/
def label : Capability → String
  | .possessed => "POSSESSED"
  | .notAllowed => "NOT_ALLOWED"
  | .notApplicable => "NOT_APPLICABLE"

/-- All states, in the order of their declaration. -/
def all : List Capability := [.possessed, .notAllowed, .notApplicable]

/-- The name of the family of states. -/
def family : String := "Capability"

/-- The state that a value stands for. -/
def ofValue? (s : String) : Option Capability := all.find? (·.value = s)

/-- The state as it is shown in logs. -/
def shown (c : Capability) : String := shownMember family c.label (quoted c.value)

end Capability

/-- What one user may do. -/
structure Capabilities where
  /-- The user. -/
  user : Int
  /-- To switch automatic detection. -/
  configureAuto : Capability
  /-- To switch detection by location. -/
  configureGeo : Capability
  /-- To pick a zone by hand. -/
  suggestManual : Capability
deriving Repr, DecidableEq

/-- What a user may do, computed from the user's record. -/
def Configuration.capabilities (c : Configuration) : Capabilities where
  user := c.user
  configureAuto :=
    if !c.autoSupported then .notApplicable
    else if c.userConfigAllowed then .possessed
    else .notAllowed
  configureGeo :=
    if c.userConfigAllowed && c.autoSupported && c.locationEnabled then .possessed
    else .notAllowed
  suggestManual :=
    if c.userConfigAllowed && !c.autoBehavior then .possessed else .notAllowed

/-- A user may pick a zone exactly if allowed to configure, with detection off. -/
theorem Configuration.possessed_suggestManual_iff {c : Configuration} :
    c.capabilities.suggestManual = .possessed ↔ c.userConfigAllowed = true ∧ c.mode = .off := by
  rw [c.mode_eq_off_iff]
  unfold capabilities
  cases c.userConfigAllowed <;> cases c.autoBehavior <;> simp

namespace Capabilities

/-- Does the change name a setting that these capabilities do not cover? -/
def denies (caps : Capabilities) (change : ConfigurationChange) : Bool :=
  (change.autoEnabled.isSome && caps.configureAuto != .possessed) ||
    (change.geoEnabled.isSome && caps.configureGeo != .possessed)

/-- The record after a change, or nothing if any part of the change is not
permitted. -/
def grant? (caps : Capabilities) (old : Configuration) (change : ConfigurationChange) :
    Option Configuration :=
  if caps.denies change then none else some (old.merge change)

/-- The fields with their shown values, in order. -/
def shownFields (caps : Capabilities) : List (String × String) :=
  [("user_id", shownInt caps.user),
   ("configure_auto_detection_enabled", caps.configureAuto.shown),
   ("configure_geo_detection_enabled", caps.configureGeo.shown),
   ("suggest_manual_time_zone", caps.suggestManual.shown)]

/-- The capabilities as they are shown in logs and on status pages. -/
def shown (caps : Capabilities) : String := shownRecord "TimeZoneCapabilities" caps.shownFields

/-- A change goes through exactly when every setting that it names is backed by
a possessed capability, and then it goes through whole. -/
theorem grant?_eq_some_iff {caps : Capabilities} {old new : Configuration}
    {change : ConfigurationChange} :
    caps.grant? old change = some new ↔
      (change.autoEnabled.isSome = true → caps.configureAuto = .possessed) ∧
      (change.geoEnabled.isSome = true → caps.configureGeo = .possessed) ∧
      old.merge change = new := by
  obtain ⟨auto, geo⟩ := change
  cases auto <;> cases geo <;> simp [grant?, denies, and_assoc]

end Capabilities

/-- The record after a change that its own user asks for, or nothing if any part
of the change is not permitted. -/
def Configuration.grant? (c : Configuration) (change : ConfigurationChange) :
    Option Configuration :=
  c.capabilities.grant? c change

/-- A granted change yields the merged record. -/
theorem Configuration.merge_of_grant {old new : Configuration} {change : ConfigurationChange}
    (h : old.grant? change = some new) : old.merge change = new :=
  (Capabilities.grant?_eq_some_iff.mp h).2.2

end ZoneArbiter
