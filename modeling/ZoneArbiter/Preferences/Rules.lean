import ZoneArbiter.Json.Value
import ZoneArbiter.Text.LowerCase

/-!
# ZoneArbiter.Preferences.Rules — how preferences are looked for

Where preferences are looked for, and under which names, is itself open to the
caller: among the values given outright, those whose names start with an underscore
set the rules. `Rules.of` reads them; what they leave out is as usual. Paths, the
encoding of files and the first part of names stay values here, as they are looked
at only when they are needed.
-/

namespace ZoneArbiter.Preferences

/-- How preferences are looked for. -/
structure Rules where
  /-- The paths of the environment files; what a later one says counts. -/
  files : Json
  /-- The encoding of the environment files. -/
  encoding : Json
  /-- The first part of the names of variables. -/
  stem : Json
  /-- Whether variables have that first part by right. If not, variables of files may
  still have it. -/
  stemmed : Bool
  /-- How often names are split, which takes a number. -/
  splits : Json
  /-- The paths of the directories with a file for each secret. -/
  secrets : Json
  /-- Whether the case of the names of variables and secrets matters. -/
  exactCase : Bool
  /-- Whether variables with an empty value are passed over. -/
  skipsEmpty : Bool
  /-- The value that stands for `null` in a variable, if one does. -/
  nullWord : Option String

namespace Rules

/-- A value that is not `null`, or a fallback. -/
def orElse (fallback : Json) : Option Json → Json
  | none | some .null => fallback
  | some j => j

/-- The rules that given values set for a deployment. -/
def of (deployment : String) (given : List (String × Json)) : Rules where
  files := (Json.lookup "_env_file" given).getD (.texts [".env." ++ deployment, ".env"])
  encoding := (Json.lookup "_env_file_encoding" given).getD .null
  stem := orElse (.text "TZ_DETECTOR_") (Json.lookup "_env_prefix" given)
  stemmed := match Json.lookup "_env_prefix_target" given with
    | none | some .null => true
    | some j => j.text? = some "variable" || j.text? = some "all"
  splits := (Json.lookup "_env_nested_max_split" given).getD .null
  secrets := (Json.lookup "_secrets_dir" given).getD .null
  exactCase := (Json.lookup "_case_sensitive" given).any Json.isOn
  skipsEmpty := (Json.lookup "_env_ignore_empty" given).any Json.isOn
  nullWord := (Json.lookup "_env_parse_none_str" given).bind Json.text?

/-- A name as it is compared. -/
def compared (r : Rules) (name : String) : String :=
  if r.exactCase then name else Text.lowerCase name

/-- Is this the name that is looked for? -/
def names (r : Rules) (wanted name : String) : Bool := r.compared name = r.compared wanted

/-- Does the value count? -/
def counts (r : Rules) (value : String) : Bool := !(r.skipsEmpty && value = "")

/-- What a variable's value stands for. -/
def meaning (r : Rules) (value : String) : Json :=
  if r.nullWord = some value then .null else .text value

end Rules

end ZoneArbiter.Preferences
