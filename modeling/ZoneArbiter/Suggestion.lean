import ZoneArbiter.Text.Shown

/-!
# ZoneArbiter.Suggestion — who proposes a zone, and what they say

A zone is proposed by a telephony slot, by geolocation, or by a user. The first
two carry free-form debug lines. **Debug lines are no part of what is
suggested**: `TelephonySuggestion.agrees` and `GeoSuggestion.agrees` compare all
but them.
-/

namespace ZoneArbiter

open ZoneArbiter.Text

/-! ### Telephony -/

/-- How a telephony slot came to its zone. -/
inductive MatchType
  /-- By the country of the network. -/
  | networkCountryOnly
  /-- By the country and the offset that the network sends. -/
  | networkCountryAndOffset
  /-- An emulator was told the zone. -/
  | emulatorZoneId
  /-- A test network sends an offset only. -/
  | testNetworkOffsetOnly
deriving Repr, DecidableEq

namespace MatchType

/-- The value that stands for a match type outside this library. -/
def value : MatchType → String
  | .networkCountryOnly => "network_country_only"
  | .networkCountryAndOffset => "network_country_and_offset"
  | .emulatorZoneId => "emulator_zone_id"
  | .testNetworkOffsetOnly => "test_network_offset_only"

/-- The name of a match type. -/
def label : MatchType → String
  | .networkCountryOnly => "NETWORK_COUNTRY_ONLY"
  | .networkCountryAndOffset => "NETWORK_COUNTRY_AND_OFFSET"
  | .emulatorZoneId => "EMULATOR_ZONE_ID"
  | .testNetworkOffsetOnly => "TEST_NETWORK_OFFSET_ONLY"

/-- All match types, in the order of their declaration. -/
def all : List MatchType :=
  [.networkCountryOnly, .networkCountryAndOffset, .emulatorZoneId, .testNetworkOffsetOnly]

/-- The name of the family. -/
def family : String := "TelephonyMatchType"

/-- The match type that a value stands for. -/
def ofValue? (s : String) : Option MatchType := all.find? (·.value = s)

/-- The match type as it is shown in logs. -/
def shown (m : MatchType) : String := shownMember family m.label (quoted m.value)

/-- Matches made for a test, which outrank every other match. -/
def isTest : MatchType → Bool
  | .emulatorZoneId | .testNetworkOffsetOnly => true
  | .networkCountryOnly | .networkCountryAndOffset => false

end MatchType

/-- How ambiguous the zone of a telephony suggestion is. -/
inductive Quality
  /-- There is one zone it can be. -/
  | singleZone
  /-- There are several, and they keep the same time now. -/
  | multipleZonesSameOffset
  /-- There are several, and they keep different times. -/
  | multipleZonesDifferentOffsets
deriving Repr, DecidableEq

namespace Quality

/-- The value that stands for a quality outside this library. -/
def value : Quality → String
  | .singleZone => "single_zone"
  | .multipleZonesSameOffset => "multiple_zones_with_same_offset"
  | .multipleZonesDifferentOffsets => "multiple_zones_with_different_offsets"

/-- The name of a quality. -/
def label : Quality → String
  | .singleZone => "SINGLE_ZONE"
  | .multipleZonesSameOffset => "MULTIPLE_ZONES_WITH_SAME_OFFSET"
  | .multipleZonesDifferentOffsets => "MULTIPLE_ZONES_WITH_DIFFERENT_OFFSETS"

/-- All qualities, in the order of their declaration. -/
def all : List Quality :=
  [.singleZone, .multipleZonesSameOffset, .multipleZonesDifferentOffsets]

/-- The name of the family. -/
def family : String := "TelephonyQuality"

/-- The quality that a value stands for. -/
def ofValue? (s : String) : Option Quality := all.find? (·.value = s)

/-- The quality as it is shown in logs. -/
def shown (q : Quality) : String := shownMember family q.label (quoted q.value)

end Quality

/-- The proposal of one telephony slot. One without a zone withdraws whatever
the slot proposed before. -/
structure TelephonySuggestion where
  /-- The slot that proposes. -/
  slot : Int
  /-- The zone proposed. -/
  zone : Option String := none
  /-- How the slot came to it. -/
  matchType : Option MatchType := none
  /-- How ambiguous it is. -/
  quality : Option Quality := none
  /-- Lines for a reader of the logs. -/
  debug : List String := []
deriving Repr, DecidableEq

namespace TelephonySuggestion

/-- The same proposal, debug lines aside. -/
def agrees (a b : TelephonySuggestion) : Bool :=
  a.slot = b.slot && a.zone = b.zone && a.matchType = b.matchType && a.quality = b.quality

/-- The suggestion with further debug lines after its own. -/
def withDebug (s : TelephonySuggestion) (lines : List String) : TelephonySuggestion :=
  { s with debug := s.debug ++ lines }

/-- The fields with their shown values, in order; `brackets` shows the debug
lines. -/
def shownFields (s : TelephonySuggestion) (brackets : List String → String) :
    List (String × String) :=
  [("slot_index", shownInt s.slot),
   ("zone_id", shownOption quoted s.zone),
   ("match_type", shownOption MatchType.shown s.matchType),
   ("quality", shownOption Quality.shown s.quality),
   ("debug_info", brackets (s.debug.map quoted))]

/-- The suggestion as it is shown in logs and on status pages. -/
def shown (s : TelephonySuggestion) : String :=
  shownRecord "TelephonyTimeZoneSuggestion" (s.shownFields shownTuple)

/-- Debug lines leave the proposal as it is. -/
@[simp] theorem agrees_withDebug (s : TelephonySuggestion) (lines : List String) :
    s.agrees (s.withDebug lines) = true := by
  simp [agrees, withDebug]

end TelephonySuggestion

/-! ### Geolocation -/

/-- The proposal of geolocation. `zones` is missing while the location is
uncertain, empty if the location is known and lies in no zone, and otherwise
holds the candidates, the preferred one first. -/
structure GeoSuggestion where
  /-- The candidates. -/
  zones : Option (List String)
  /-- Lines for a reader of the logs. -/
  debug : List String := []
deriving Repr, DecidableEq

namespace GeoSuggestion

/-- The suggestion tells of a known location. -/
def isCertain (s : GeoSuggestion) : Bool := s.zones.isSome

/-- The same proposal, debug lines aside. -/
def agrees (a b : GeoSuggestion) : Bool := a.zones = b.zones

/-- The suggestion with further debug lines after its own. -/
def withDebug (s : GeoSuggestion) (lines : List String) : GeoSuggestion :=
  { s with debug := s.debug ++ lines }

/-- The fields with their shown values, in order; `brackets` shows sequences. -/
def shownFields (s : GeoSuggestion) (brackets : List String → String) :
    List (String × String) :=
  [("zone_ids", shownOption (fun zones => brackets (zones.map quoted)) s.zones),
   ("debug_info", brackets (s.debug.map quoted))]

/-- The candidates as they are shown in logs and on status pages. -/
def shownZones (zones : List String) : String := shownTuple (zones.map quoted)

/-- The suggestion as it is shown in logs. -/
def shown (s : GeoSuggestion) : String :=
  shownRecord "GeolocationTimeZoneSuggestion" (s.shownFields shownTuple)

/-- Debug lines leave the proposal as it is. -/
@[simp] theorem agrees_withDebug (s : GeoSuggestion) (lines : List String) :
    s.agrees (s.withDebug lines) = true := by
  simp [agrees, withDebug]

end GeoSuggestion

/-! ### Users -/

/-- The zone that a user picks by hand. -/
structure ManualSuggestion where
  /-- The zone picked. -/
  zone : String
deriving Repr, DecidableEq

/-- The fields with their shown values. -/
def ManualSuggestion.shownFields (s : ManualSuggestion) : List (String × String) :=
  [("zone_id", quoted s.zone)]

/-- The suggestion as it is shown in logs. -/
def ManualSuggestion.shown (s : ManualSuggestion) : String :=
  shownRecord "ManualTimeZoneSuggestion" s.shownFields

end ZoneArbiter
