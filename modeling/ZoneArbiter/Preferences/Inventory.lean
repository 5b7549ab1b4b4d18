import ZoneArbiter.Preferences.CommandLine
import ZoneArbiter.Preferences.EnvFile
import ZoneArbiter.Preferences.FileName
import ZoneArbiter.Preferences.Rules

/-!
# ZoneArbiter.Preferences.Inventory — what there is to find

Preferences come from a command line, from values given outright, from the
environment, from environment files and from secrets, in this order: the first place
that knows a preference decides. Before anything is looked for, the files and the
command line are read and the rules are found to make sense (`Sources.inventory`);
then `Inventory.find?` looks through the places. A secret is a file of its own, with
the name of the variable and the value for content.
-/

namespace ZoneArbiter.Preferences

/-- Where preferences are looked for. -/
structure Sources where
  /-- Values given outright. -/
  given : List (String × Json) := []
  /-- The variables of the environment, in the order in which they were set. -/
  environment : List (String × String) := []
  /-- The files at hand, by name. -/
  files : List (String × String) := []

/-- What there is to find. -/
structure Inventory where
  /-- The rules to follow. -/
  rules : Rules
  /-- The first part of the names of variables. -/
  stem : String
  /-- What the command line chooses, in order. -/
  chosen : List (String × Json)
  /-- Values given outright. -/
  given : List (String × Json)
  /-- The variables of the environment, in the order in which they were set. -/
  environment : List (String × String)
  /-- The assignments of each environment file. -/
  assigned : List (List EnvFile.Assignment)
  /-- The files that may be secrets, by name. -/
  secrets : List (String × String)

namespace Sources

/-- The name of the deployment. -/
def deployment (s : Sources) : String := (s.environment.lookup "ENVIRONMENT").getD "local"

/-- The rules to follow. -/
def rules (s : Sources) : Rules := .of s.deployment s.given

/-- The name for the encoding of the system, which is UTF-8. -/
def systemEncoding : String := "locale"

/-- The encoding that a value names. `null` names that of the system. -/
def encodingOf : Json → Except SourceDefect Text.Encoding
  | .null => .ok .utf8
  | .text name =>
      if name.toList.contains (Char.ofNat 0) then .error .nullInName
      else if name = systemEncoding then .ok .utf8
      else match Text.Encoding.ofName? name with
        | some encoding => .ok encoding
        | none =>
            .error (if Text.Encoding.isTransform name then .notTextEncoding name
              else .unknownEncoding name)
  | j => .error (.notEncodingName j.family)

/-- The assignments of an environment file with this content. -/
def assignments (s : Sources) (content : String) :
    Except SourceDefect (List EnvFile.Assignment) := do
  match (← encodingOf s.rules.encoding).reread content with
  | .ok cs => .ok (EnvFile.evaluate s.environment cs)
  | .error defect => .error (.unreadable defect)

/-- The assignments of the environment file that a value leads to. A file that is
not there assigns nothing. -/
def fileAssignments (s : Sources) (j : Json) : Except SourceDefect (List EnvFile.Assignment) := do
  match ← FileName.follow (← FileName.ofValue j) with
  | .file name =>
      match s.files.lookup name with
      | some content => s.assignments content
      | none => .ok []
  | _ => .ok []

/-- The files in the directories for secrets. A directory that is not there holds
none. -/
def secrets (s : Sources) : Except SourceDefect (List (String × String)) := do
  let paths ← (← FileName.valuesOf s.rules.secrets).mapM FileName.ofValue
  let places ← paths.mapM FileName.follow
  let isFile : Place → Bool
    | .file name => s.files.any (·.1 = name)
    | _ => false
  if places.any isFile then .error .notDirectory
  else .ok (if places.contains .here then s.files else [])

/-- How often names are split must be a number, unless that is off. -/
def checkSplits (s : Sources) : Except SourceDefect Unit :=
  let j := s.rules.splits
  match j with
  | .text _ | .array _ | .object _ => if j.isOn then .error (.notNumber j.family) else .ok ()
  | _ => .ok ()

/-- The first part of the names of variables must have a length. -/
def measureStem (s : Sources) : Except SourceDefect Unit :=
  match s.rules.stem with
  | .text _ | .array _ | .object _ => .ok ()
  | j => .error (.unmeasured j.family)

/-- The first part of the names of variables. -/
def stem (s : Sources) : Except SourceDefect String :=
  match s.rules.stem with
  | .text stem => .ok stem
  | _ => .error .notStem

/-- All that there is to find. The environment files and the command line are read
before names are put together, and secrets come last. -/
def inventory (s : Sources) : Except SourceDefect Inventory := do
  s.checkSplits
  s.measureStem
  let assigned ← (← FileName.valuesOf s.rules.files).mapM s.fileAssignments
  let chosen ← (CommandLine.Line.of s.rules.exactCase s.given).choices
  let stem ← s.stem
  let secrets ← s.secrets
  return { rules := s.rules, stem, chosen, given := s.given, environment := s.environment,
           assigned, secrets }

end Sources

namespace Inventory

/-- The last value that the command line chooses for a name. -/
def inCommandLine (v : Inventory) (name : String) : Option Json := Json.lookup name v.chosen

/-- The first value given outright for a name, whatever the case of its letters. -/
def inGiven (v : Inventory) (name : String) : Option Json :=
  (v.given.find? fun entry => Text.lowerCase entry.1 = name).map (·.2)

/-- The value of a variable of the environment, of which the last one of a name
counts. -/
def inEnvironment (v : Inventory) (name : String) : Option String :=
  (v.environment.reverse.find? fun entry =>
    v.rules.names name entry.1 && v.rules.counts entry.2).map (·.2)

/-- What a file has to say of a variable: nothing, no value, or a value. -/
def inFile (v : Inventory) (wanted : String → Bool) (file : List EnvFile.Assignment) :
    Option (Option String) :=
  (file.reverse.find? fun entry => wanted entry.1 && entry.2.all v.rules.counts).map (·.2)

/-- The value of a variable in the files, of which the last one that mentions it
counts. -/
def valueInFiles (v : Inventory) (wanted : String → Bool) : Option String :=
  (v.assigned.reverse.findSome? (v.inFile wanted)).join

/-- The name of the variable for a preference. -/
def variableOf (v : Inventory) (name : String) : String :=
  if v.rules.stemmed then v.stem ++ name else name

/-- What the files say of a preference. A variable is also taken, as it is and before
the usual one, if its name is made of the first part and that of the preference as
both are compared by themselves. This differs from the usual name where variables
have no first part by right, and where the last letter of the first part has another
lower case than before a name. -/
def inFiles (v : Inventory) (name : String) : Option Json :=
  let usual := v.variableOf name
  let parted := v.rules.compared v.stem ++ name
  let apart :=
    if parted = v.rules.compared usual then none
    else (v.valueInFiles (v.rules.compared · = parted)).filter (· ≠ "")
  (apart.map Json.text).or ((v.valueInFiles (v.rules.names usual)).map v.rules.meaning)

/-- The text of a secret: the content of its file without the blanks at either end. -/
def secretText (content : String) : String :=
  let cs := EnvFile.unifyLineEnds content.toList
  String.ofList (Text.trimEnd Text.isSpace (cs.dropWhile Text.isSpace))

/-- The secret of a name. -/
def inSecrets (v : Inventory) (name : String) : Option String :=
  (v.secrets.find? fun file => v.rules.names name file.1).map fun file => secretText file.2

/-- What is found for a preference. Secrets are taken as they are. -/
def find? (v : Inventory) (name : String) : Option Json :=
  let written := v.variableOf name
  (v.inCommandLine name).or <| (v.inGiven name).or <|
    ((v.inEnvironment written).map v.rules.meaning).or <| (v.inFiles name).or <|
      (v.inSecrets written).map Json.text

end Inventory

end ZoneArbiter.Preferences
