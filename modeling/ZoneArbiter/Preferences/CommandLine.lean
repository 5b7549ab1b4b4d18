import ZoneArbiter.Json.Value
import ZoneArbiter.Preferences.SourceDefect
import ZoneArbiter.Text.Blank
import ZoneArbiter.Text.LowerCase

/-!
# ZoneArbiter.Preferences.CommandLine — preferences among arguments

The caller may pass the arguments of a command line. Each preference is an **option**
with its name behind two signs; the value is the argument after it, or follows an
equals sign. The rules may ask for other spellings, and for truth values that are
switched on and off without a value.

Arguments are sorted into pieces (`Layout.piece`) before they are read
(`readPieces`). What starts with the sign of options is an option even if none has
that spelling, unless it is a negative number or has a space in it, and so it is not
the value of the option before it.
-/

namespace ZoneArbiter.Preferences.CommandLine

open ZoneArbiter.Text

/-- The names of all preferences, with the default of those that are truth values. -/
def preferences : List (String × Option Bool) :=
  [("environment", none), ("debug", some false), ("time_zone_change_log_size", none),
   ("user_id", none), ("initial_time_zone", none), ("user_config_allowed", some true),
   ("auto_detection_supported", some true), ("auto_detection_enabled", some true),
   ("location_enabled", some true), ("geo_detection_enabled", some false)]

/-! ### Options -/

/-- What a spelling of an option asks for. -/
inductive Effect
  /-- To take a value. -/
  | take
  /-- To be switched on or off. -/
  | turn (on : Bool)
  /-- To be told about the options. -/
  | help
deriving Repr, DecidableEq

/-- An option. -/
structure Choice where
  /-- The name of what it chooses. -/
  name : String
  /-- Its spellings, and what they ask for. -/
  spellings : List (String × Effect)
deriving Repr, DecidableEq

/-- How truth values are chosen. -/
inductive Switching
  /-- By a value, as all others. -/
  | byValue
  /-- By one spelling for each of the two values. -/
  | bothWays
  /-- By one spelling for what is not the default. -/
  | oneWay
deriving Repr, DecidableEq

/-- How options are spelled. -/
structure Layout where
  /-- The sign that options start with. -/
  sign : Char := '-'
  /-- What stands before the names of preferences. -/
  stem : String := ""
  /-- Whether hyphens stand for the low lines of names. -/
  hyphens : Bool := false
  /-- How truth values are chosen. -/
  switching : Switching := .byValue
  /-- Further spellings, by the names they belong to. -/
  shortcuts : List (String × List String) := []
  /-- Whether the case of options matters. -/
  exactCase : Bool := false

namespace Layout

/-- A name as an option: with one sign if it is a single character, else with two. -/
def signed (l : Layout) (name : String) : String :=
  String.ofList (List.replicate (if name.length = 1 then 1 else 2) l.sign) ++ name

/-- The name of a preference among options. -/
def nameOf (l : Layout) (name : String) : String :=
  let joined := String.ofList (name.toList.map fun c => if c = '_' then '-' else c)
  l.stem ++ (if l.hyphens then joined else name)

/-- What stands before the name of an option that switches off. -/
def negation : String := "--no-"

/-- The spelling for switching off, of which there is one only with two hyphens. -/
def negated (spelling : String) : List (String × Effect) :=
  match spelling.toList with
  | '-' :: '-' :: rest => [(negation ++ String.ofList rest, .turn false)]
  | _ => []

/-- The spellings of an option that is spelled like this among others, for a preference
with this default. -/
def effects (l : Layout) (fallback : Option Bool) (name : String) : List (String × Effect) :=
  match l.switching, fallback with
  | .bothWays, some _ => (l.signed name, .turn true) :: negated (l.signed name)
  | .oneWay, some true => [(l.signed ("no-" ++ name), .turn false)]
  | .oneWay, some false => [(l.signed name, .turn true)]
  | _, _ => [(l.signed name, .take)]

/-- All options. -/
def choices (l : Layout) : List Choice :=
  ⟨"", [(l.signed "h", .help), (l.signed "help", .help)]⟩ ::
    preferences.map fun (name, fallback) =>
      let main := l.nameOf name
      ⟨name, (main :: (l.shortcuts.lookup main).getD []).flatMap (l.effects fallback)⟩

/-! ### Pieces -/

/-- What an argument is. -/
inductive Piece
  /-- No option. -/
  | plain (s : String)
  /-- The sign that no options follow. -/
  | close
  /-- A spelling of an option, and the value that came with it. -/
  | option (choice : Choice) (effect : Effect) (spelling : String) (given : Option String)
  /-- An option that does not exist. -/
  | stranger (s : String)
deriving Repr, DecidableEq

/-- Is the argument a negative number, with at most one line feed behind it? -/
def isNegative (s : String) : Bool :=
  let isDigits (cs : List Char) : Bool := !cs.isEmpty && cs.all Char.isDigit
  let body (cs : List Char) : Bool :=
    isDigits cs || match cs.dropWhile Char.isDigit with
      | '.' :: rest => isDigits rest
      | _ => false
  match s.toList with
  | '-' :: rest => body (if rest.getLast? = some '\n' then rest.dropLast else rest)
  | _ => false

/-- The piece for an option of this spelling, if there is one. -/
def spelled? (l : Layout) (spelling : String) (given : Option String) : Option Piece :=
  l.choices.findSome? fun choice =>
    (choice.spellings.lookup spelling).map fun effect => .option choice effect spelling given

/-- What stands before the first equals sign, and what follows it. -/
def splitAtEquals? (s : String) : Option (String × String) :=
  match s.toList.dropWhile (· ≠ '=') with
  | _ :: rest => some (String.ofList (s.toList.takeWhile (· ≠ '=')), String.ofList rest)
  | [] => none

/-- The pieces of options of one character each behind a common sign. One that takes a
value takes all that follows it. -/
def cluster (l : Layout) : List Char → List Piece
  | [] => []
  | c :: rest =>
      let value := String.ofList rest
      match l.spelled? (String.ofList [l.sign, c]) none, rest with
      | some found, [] => [found]
      | some (.option choice effect spelling _), d :: more =>
          if d = '=' then [.option choice effect spelling (some (String.ofList more))]
          else if effect = .take || d = l.sign then
            [.option choice effect spelling (some value)]
          else .option choice effect spelling none :: cluster l rest
      | _, _ => [.stranger (String.ofList (l.sign :: c :: rest))]

/-- What an argument is. -/
def piece (l : Layout) (s : String) : List Piece :=
  let whole := l.spelled? s none
  let withValue := (splitAtEquals? s).bind fun parts => l.spelled? parts.1 (some parts.2)
  let isCluster (c : Char) : Bool :=
    c ≠ l.sign && (l.spelled? (String.ofList [l.sign, c]) none).isSome
  let unknown : Piece :=
    if isNegative s || s.toList.contains ' ' then .plain s else .stranger s
  match s.toList with
  | [] => [.plain s]
  | sign :: rest =>
      if sign ≠ l.sign then [.plain s]
      else match whole.or withValue, rest with
        | some found, _ => [found]
        | none, [] => [.plain s]
        | none, c :: _ => if isCluster c then l.cluster rest else [unknown]

/-- The argument with its option in lower case, up to the first line feed behind it. -/
def lowered (l : Layout) (s : String) : String :=
  match s.toList with
  | [] => s
  | c :: rest =>
      let inName (c : Char) : Bool := c ≠ '=' && !isSpace c
      let name := rest.takeWhile inName
      if c = l.sign && !name.isEmpty then
        lowerCase (String.ofList (c :: name)) ++
          String.ofList ((rest.dropWhile inName).takeWhile (· ≠ '\n'))
      else s

/-- The pieces of a command line. -/
def pieces (l : Layout) : List String → List Piece
  | [] => []
  | "--" :: rest => .close :: rest.map .plain
  | s :: rest => l.piece s ++ l.pieces rest

end Layout

/-! ### Reading -/

/-- What is read from a command line. -/
structure Reading where
  /-- What was chosen, in order. -/
  chosen : List (String × Json) := []
  /-- The arguments that are left over. -/
  left : List String := []

/-- The reading with a choice in front. -/
def Reading.choose (r : Reading) (choice : Choice) (value : Json) : Reading :=
  { r with chosen := (choice.name, value) :: r.chosen }

/-- The reading with an argument left over in front. -/
def Reading.leave (r : Reading) (s : String) : Reading := { r with left := s :: r.left }

/-- Why a command line is not read to its end. -/
inductive Stop
  /-- An option has no value. -/
  | noValue (choice : Choice)
  /-- An option has a value that it does not take. -/
  | surplus (choice : Choice) (value : String)
  /-- Arguments are left over. -/
  | leftOver (arguments : List String)
  /-- To be told about the options. -/
  | help

/-- What is wrong with an option, in a sentence. -/
def aboutOption (choice : Choice) (sentence : String) : String :=
  "argument " ++ "/".intercalate (choice.spellings.map (·.1)) ++ ": " ++ sentence

/-- The defect of a command line; `final` says whether misuse is the end of the
program. -/
def Stop.defect (final : Bool) : Stop → SourceDefect
  | .noValue choice => .misused (aboutOption choice "expected one argument") final
  | .surplus choice value =>
      .misused (aboutOption choice ("ignored explicit argument " ++ quoted value)) final
  | .leftOver arguments =>
      .misused ("unrecognized arguments: " ++ " ".intercalate arguments) final
  | .help => .helpAsked

/-- Read the pieces of a command line. -/
def readPieces : List Layout.Piece → Except Stop Reading
  | [] => .ok {}
  | .plain s :: rest => (·.leave s) <$> readPieces rest
  | .stranger s :: rest => (·.leave s) <$> readPieces rest
  | .close :: rest => (·.leave "--") <$> readPieces rest
  | .option choice .take _ (some s) :: rest => (·.choose choice (.text s)) <$> readPieces rest
  | .option choice .take _ none :: .plain s :: rest =>
      (·.choose choice (.text s)) <$> readPieces rest
  | .option choice .take _ none :: _ => .error (.noValue choice)
  | .option choice (.turn _) _ (some s) :: _ => .error (.surplus choice s)
  | .option choice (.turn on) _ none :: rest => (·.choose choice (.bool on)) <$> readPieces rest
  | .option choice .help _ (some s) :: _ => .error (.surplus choice s)
  | .option _ .help _ none :: _ => .error .help

/-! ### The command line of the caller -/

/-- How the caller passes a command line. -/
structure Line where
  /-- The arguments. -/
  arguments : Json
  /-- What stands before the names of preferences. -/
  stem : Json
  /-- How options are spelled, what stands before names apart. -/
  layout : Layout
  /-- Whether arguments may be left over. -/
  lenient : Bool
  /-- Whether misuse is the end of the program. -/
  final : Bool
  /-- The value that stands for `null`, if one does. -/
  nullWord : Option String

namespace Line

/-- The texts of a value that is one or holds some. -/
def textsOf : Json → List String
  | .text s => [s]
  | .array items => items.filterMap Json.text?
  | _ => []

/-- The further spellings of a value. -/
def shortcutsOf : Json → List (String × List String)
  | .object fields => fields.map fun field => (field.1, textsOf field.2)
  | _ => []

/-- How a value asks for truth values to be chosen. -/
def switchingOf (j : Json) : Switching :=
  if !j.isOn then .byValue
  else match j with
    | .text "toggle" => .oneWay
    | _ => .bothWays

/-- The value that stands for `null`. A value that is off leaves it to the other one,
which says whether to avoid the word `null`. -/
def nullWordOf (word avoids : Json) : Option String :=
  if word.isOn then word.text?
  else match avoids with
    | .bool true => some "None"
    | _ => some "null"

/-- How given values pass a command line. -/
def of (exactCase : Bool) (given : List (String × Json)) : Line :=
  let value (name : String) : Json := (Json.lookup name given).getD .null
  { arguments := value "_cli_parse_args"
    stem := value "_cli_prefix"
    layout :=
      { sign := ((value "_cli_flag_prefix_char").text?.bind (·.toList.head?)).getD '-'
        hyphens := (value "_cli_kebab_case").isOn
        switching := switchingOf (value "_cli_implicit_flags")
        shortcuts := shortcutsOf (value "_cli_shortcuts")
        exactCase }
    lenient := (value "_cli_ignore_unknown_args").isOn
    final := match value "_cli_exit_on_error" with
      | .null => true
      | j => j.isOn
    nullWord := nullWordOf (value "_cli_parse_none_str") (value "_cli_avoid_json") }

/-- Is the text a name? Names consist of letters, digits and low lines, and no digit
comes first. -/
def isName (s : String) : Bool :=
  let isLetter (c : Char) : Bool := c.isAlpha || c = '_' || 0x80 ≤ c.toNat
  match s.toList with
  | [] => false
  | c :: rest => isLetter c && rest.all fun c => isLetter c || c.isDigit

/-- What stands before the names of preferences, with the point that ends it. -/
def usableStem (line : Line) : Except SourceDefect String :=
  match line.stem with
  | .text "" => .ok ""
  | .text stem =>
      let cs := stem.toList
      if cs.head? = some '.' || cs.getLast? = some '.' ||
          !isName (String.ofList (cs.filter (· ≠ '.'))) then .error (.unusableStem stem)
      else .ok (stem ++ ".")
  | j => if j.isOn then .error (.notOptionStem j.family) else .ok ""

/-- A value as an argument. What is off is empty. -/
def argument : Json → Except SourceDefect String
  | .text s => .ok s
  | j => if j.isOn then .error (.notArgument j.family) else .ok ""

/-- The arguments. A command line that is switched on without any has none. -/
def usableArguments (line : Line) : Except SourceDefect (List String) :=
  match line.arguments with
  | .null | .bool _ => .ok []
  | .array items => items.mapM argument
  | .int 0 => .ok []
  | .decimal d => if (Json.decimal d).isOn then .error (.notArguments "float") else .ok []
  | j => .error (.notArguments j.family)

/-- What the command line chooses, in order, with `null` for the word that stands for
it. -/
def choices (line : Line) : Except SourceDefect (List (String × Json)) :=
  match line.arguments with
  | .null => .ok []
  | _ => do
      let layout := { line.layout with stem := ← line.usableStem }
      let arguments ← line.usableArguments
      let arguments := if layout.exactCase then arguments else arguments.map layout.lowered
      match readPieces (layout.pieces arguments) with
      | .error stop => .error (stop.defect line.final)
      | .ok r =>
          if r.left.isEmpty || line.lenient then
            .ok <| r.chosen.map fun (name, value) =>
              (name, if value.text? = line.nullWord && line.nullWord.isSome then .null else value)
          else .error ((Stop.leftOver r.left).defect line.final)

end Line

end ZoneArbiter.Preferences.CommandLine
