import ZoneArbiter.Configuration
import ZoneArbiter.Preferences.Inventory
import ZoneArbiter.Problem
import ZoneArbiter.Wire.Scalar

/-!
# ZoneArbiter.Preferences.Basic — how the program is set up

The preferences say how to log, how many zone changes to remember, and with which
user, zone and settings a device in memory starts. Each is looked for, in this
order, on the command line, among the values given outright, the environment, the
file `.env`, and the file of the deployment, `.env.NAME`
(`ZoneArbiter.Preferences.Inventory`). The name of the deployment is the value of
`ENVIRONMENT`.

Variables carry a common first part before the name of the preference, and the case
of names does not matter. The caller may ask for other rules
(`ZoneArbiter.Preferences.Rules`). What is found is read as leniently as a message
(`ZoneArbiter.Wire.Scalar`), and all that is wrong with it is told at once.
-/

namespace ZoneArbiter

/-- How the program is set up. -/
structure Preferences where
  /-- The name of the deployment. -/
  environment : String
  /-- Whether to log decisions that change nothing. -/
  debug : Bool
  /-- How many entries the change log keeps. -/
  changeLogSize : Int
  /-- The first user. -/
  user : Int
  /-- The first zone of the device. -/
  initialZone : Option String
  /-- Whether users may change settings. -/
  userConfigAllowed : Bool
  /-- Whether the device can detect its zone automatically. -/
  autoSupported : Bool
  /-- Whether the first user detects automatically. -/
  autoEnabled : Bool
  /-- Whether the device may use its location. -/
  locationEnabled : Bool
  /-- Whether the first user detects by location. -/
  geoEnabled : Bool
deriving Repr, DecidableEq

namespace Preferences

/-- A preference, or its default if nothing is found for it. -/
def Inventory.read {α : Type} (v : Inventory) (name : String) (fallback : α)
    (reader : Json → Wire.Checked α) : Wire.Checked α :=
  match v.find? name with
  | some j => (reader j).under (.field name)
  | none => .accepted fallback

variable [Numeral.Measure]

/-- An integer that is not negative. -/
def naturalNumber (j : Json) : Wire.Checked Int := (Wire.integer j).demand (0 ≤ ·) (.tooSmall 0)

/-- The preferences of a deployment, by what there is to find. -/
def check (deployment : String) (v : Inventory) : Wire.Checked Preferences :=
  Preferences.mk
    <$> v.read "environment" deployment Wire.text
    <*> v.read "debug" false Wire.truth
    <*> v.read "time_zone_change_log_size" 30 naturalNumber
    <*> v.read "user_id" 0 Wire.integer
    <*> v.read "initial_time_zone" none (Wire.optional Wire.text)
    <*> v.read "user_config_allowed" true Wire.truth
    <*> v.read "auto_detection_supported" true Wire.truth
    <*> v.read "auto_detection_enabled" true Wire.truth
    <*> v.read "location_enabled" true Wire.truth
    <*> v.read "geo_detection_enabled" false Wire.truth

/-- Find all preferences, or tell what is wrong. What is wrong with the places comes
before what is wrong with anything that is found. -/
def load (s : Sources) : Except Problem Preferences :=
  match s.inventory with
  | .error defect => .error (.source defect)
  | .ok v =>
      match check s.deployment v with
      | .accepted p => .ok p
      | .rejected issues => .error (.invalid "Settings" issues)

/-- The record that the first user starts with. -/
def configuration (p : Preferences) : Configuration where
  user := p.user
  userConfigAllowed := p.userConfigAllowed
  autoSupported := p.autoSupported
  autoEnabled := p.autoEnabled
  locationEnabled := p.locationEnabled
  geoEnabled := p.geoEnabled

end Preferences

end ZoneArbiter
