import ZoneArbiter.Capability
import ZoneArbiter.Suggestion
import ZoneArbiter.Wire.Model

/-!
# ZoneArbiter.Wire.Message — the six kinds of message

Configurations, configuration changes, capabilities, and the three kinds of
suggestion. Each kind is written with all its fields in the order of their
declaration, missing values as `null`.
-/

namespace ZoneArbiter.Wire

open ZoneArbiter.Text

variable [Numeral.Measure]

/-- The values of a closed family, in the order of declaration. -/
def capability : Json → Checked Capability :=
  member Capability.ofValue? (Capability.all.map Capability.value)

/-- A match type, by its value. -/
def matchType : Json → Checked MatchType :=
  member MatchType.ofValue? (MatchType.all.map MatchType.value)

/-- A quality, by its value. -/
def quality : Json → Checked Quality :=
  member Quality.ofValue? (Quality.all.map Quality.value)

/-- The complete record of a user. -/
def configurationModel : Model Configuration where
  name := "ConfigurationInternalPayload"
  frozen := true
  fields fields := Configuration.mk
    <$> required integer fields "user_id"
    <*> required truth fields "user_config_allowed"
    <*> required truth fields "auto_detection_supported"
    <*> required truth fields "auto_detection_enabled"
    <*> required truth fields "location_enabled"
    <*> required truth fields "geo_detection_enabled"
  encode c := .object
    [("user_id", .int c.user),
     ("user_config_allowed", .bool c.userConfigAllowed),
     ("auto_detection_supported", .bool c.autoSupported),
     ("auto_detection_enabled", .bool c.autoEnabled),
     ("location_enabled", .bool c.locationEnabled),
     ("geo_detection_enabled", .bool c.geoEnabled)]
  shownFields := Configuration.shownFields

/-- New values for a user's settings. -/
def changeModel : Model ConfigurationChange where
  name := "TimeZoneConfigurationPayload"
  frozen := true
  fields fields := ConfigurationChange.mk
    <$> defaulted (optional truth) none fields "auto_detection_enabled"
    <*> defaulted (optional truth) none fields "geo_detection_enabled"
  encode change := .object
    [("auto_detection_enabled", .ofOption .bool change.autoEnabled),
     ("geo_detection_enabled", .ofOption .bool change.geoEnabled)]
  shownFields := ConfigurationChange.shownFields

/-- What a user may do. -/
def capabilitiesModel : Model Capabilities where
  name := "CapabilitiesPayload"
  frozen := true
  fields fields := Capabilities.mk
    <$> required integer fields "user_id"
    <*> required capability fields "configure_auto_detection_enabled"
    <*> required capability fields "configure_geo_detection_enabled"
    <*> required capability fields "suggest_manual_time_zone"
  encode caps := .object
    [("user_id", .int caps.user),
     ("configure_auto_detection_enabled", .text caps.configureAuto.value),
     ("configure_geo_detection_enabled", .text caps.configureGeo.value),
     ("suggest_manual_time_zone", .text caps.suggestManual.value)]
  shownFields := Capabilities.shownFields

/-- The proposal of a telephony slot. -/
def telephonyModel : Model TelephonySuggestion where
  name := "TelephonySuggestionPayload"
  frozen := false
  fields fields := TelephonySuggestion.mk
    <$> required integer fields "slot_index"
    <*> defaulted (optional text) none fields "zone_id"
    <*> defaulted (optional matchType) none fields "match_type"
    <*> defaulted (optional quality) none fields "quality"
    <*> defaulted (list text) [] fields "debug_info"
  encode s := .object
    [("slot_index", .int s.slot),
     ("zone_id", .ofOption .text s.zone),
     ("match_type", .ofOption (fun m => .text m.value) s.matchType),
     ("quality", .ofOption (fun q => .text q.value) s.quality),
     ("debug_info", .texts s.debug)]
  shownFields s := s.shownFields shownList

/-- The proposal of geolocation. -/
def geoModel : Model GeoSuggestion where
  name := "GeolocationSuggestionPayload"
  frozen := false
  fields fields := GeoSuggestion.mk
    <$> required (optional (list text)) fields "zone_ids"
    <*> defaulted (list text) [] fields "debug_info"
  encode s := .object
    [("zone_ids", .ofOption .texts s.zones),
     ("debug_info", .texts s.debug)]
  shownFields s := s.shownFields shownList

/-- The zone that a user picks. -/
def manualModel : Model ManualSuggestion where
  name := "ManualSuggestionPayload"
  frozen := false
  fields fields := ManualSuggestion.mk <$> required text fields "zone_id"
  encode s := .object [("zone_id", .text s.zone)]
  shownFields := ManualSuggestion.shownFields

end ZoneArbiter.Wire
