import ZoneArbiter.Text.Shown

/-!
# ZoneArbiter.Configuration — what a user has set, and what follows from it

A `Configuration` is the complete record of one user: the two settings that the
user may change and the three restrictions that the device imposes. Everything
else about detection is computed from it: which automatic behaviour is in
effect, and thereby the `DetectionMode`.

A `ConfigurationChange` names new values for some of the user's settings. When
it names all of them it also serves as the user's view of a configuration.
-/

namespace ZoneArbiter

open ZoneArbiter.Text

/-- Which source, if any, drives the device's time zone. -/
inductive DetectionMode
  /-- No source: the zone is picked by hand. -/
  | off
  /-- The best telephony suggestion. -/
  | autoTelephony
  /-- The latest geolocation suggestion. -/
  | autoGeo
deriving Repr, DecidableEq

/-- The value that stands for a mode outside this library. -/
def DetectionMode.value : DetectionMode → String
  | .off => "off"
  | .autoTelephony => "auto_telephony"
  | .autoGeo => "auto_geo"

/-- New values for a user's settings; a setting without one stays as it is. -/
structure ConfigurationChange where
  /-- Whether to detect automatically. -/
  autoEnabled : Option Bool := none
  /-- Whether to detect by location. -/
  geoEnabled : Option Bool := none
deriving Repr, DecidableEq

/-- Does the change name a value for every setting? -/
def ConfigurationChange.isComplete (change : ConfigurationChange) : Bool :=
  change.autoEnabled.isSome && change.geoEnabled.isSome

/-- The fields of a change with their shown values, in order. -/
def ConfigurationChange.shownFields (change : ConfigurationChange) : List (String × String) :=
  [("auto_detection_enabled", shownOption shownBool change.autoEnabled),
   ("geo_detection_enabled", shownOption shownBool change.geoEnabled)]

/-- The change as it is shown in logs. -/
def ConfigurationChange.shown (change : ConfigurationChange) : String :=
  shownRecord "TimeZoneConfiguration" change.shownFields

/-- The complete record of one user. -/
structure Configuration where
  /-- The user that the record belongs to. -/
  user : Int
  /-- Whether this user may change settings at all. -/
  userConfigAllowed : Bool
  /-- Whether the device can detect its zone automatically. -/
  autoSupported : Bool
  /-- The user's setting: detect automatically. -/
  autoEnabled : Bool
  /-- Whether the device may use its location. -/
  locationEnabled : Bool
  /-- The user's setting: detect by location. -/
  geoEnabled : Bool
deriving Repr, DecidableEq

namespace Configuration

/-- Automatic detection is in effect: supported and switched on. -/
def autoBehavior (c : Configuration) : Bool := c.autoSupported && c.autoEnabled

/-- Detection by location is in effect: automatic detection is, the location may
be used, and detection by location is switched on. -/
def geoBehavior (c : Configuration) : Bool :=
  c.autoBehavior && c.locationEnabled && c.geoEnabled

/-- The detection mode that the record implies. -/
def mode (c : Configuration) : DetectionMode :=
  if !c.autoBehavior then .off
  else if c.geoBehavior then .autoGeo
  else .autoTelephony

/-- The user's view of the record: the two settings. -/
def settings (c : Configuration) : ConfigurationChange :=
  ⟨some c.autoEnabled, some c.geoEnabled⟩

/-- The record with the values that a change names. -/
def merge (c : Configuration) (change : ConfigurationChange) : Configuration :=
  { c with
    autoEnabled := change.autoEnabled.getD c.autoEnabled
    geoEnabled := change.geoEnabled.getD c.geoEnabled }

/-- The fields of a record with their shown values, in order. -/
def shownFields (c : Configuration) : List (String × String) :=
  [("user_id", shownInt c.user),
   ("user_config_allowed", shownBool c.userConfigAllowed),
   ("auto_detection_supported", shownBool c.autoSupported),
   ("auto_detection_enabled", shownBool c.autoEnabled),
   ("location_enabled", shownBool c.locationEnabled),
   ("geo_detection_enabled", shownBool c.geoEnabled)]

/-- The record as it is shown in logs and on status pages. -/
def shown (c : Configuration) : String := shownRecord "ConfigurationInternal" c.shownFields

/-! ### What follows from a record -/

/-- The mode is the geolocation mode exactly while detection by location is in
effect. -/
theorem mode_eq_autoGeo_iff (c : Configuration) : c.mode = .autoGeo ↔ c.geoBehavior = true := by
  unfold mode geoBehavior
  cases c.autoBehavior <;> simp

/-- The mode is off exactly while automatic detection is not in effect. -/
theorem mode_eq_off_iff (c : Configuration) : c.mode = .off ↔ c.autoBehavior = false := by
  unfold mode
  cases c.autoBehavior
  · simp
  · cases c.geoBehavior <;> simp

@[simp] theorem user_merge (c : Configuration) (change : ConfigurationChange) :
    (c.merge change).user = c.user := rfl

/-- Merging a change a second time has no further effect. -/
@[simp] theorem merge_merge_self (c : Configuration) (change : ConfigurationChange) :
    (c.merge change).merge change = c.merge change := by
  obtain ⟨auto, geo⟩ := change
  cases auto <;> cases geo <;> rfl

/-- The user's view names every setting. -/
@[simp] theorem isComplete_settings (c : Configuration) : c.settings.isComplete = true := rfl

end Configuration

end ZoneArbiter
