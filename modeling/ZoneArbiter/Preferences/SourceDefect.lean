import ZoneArbiter.Text.Encoding
import ZoneArbiter.Text.Quoted

/-!
# ZoneArbiter.Preferences.SourceDefect — why preferences cannot be looked for

The places where preferences are looked for can be wrong in themselves: a path that
is none, or that cannot be followed, and files that cannot be read. Such a defect
comes before anything that is wrong with what is found.
-/

namespace ZoneArbiter.Preferences

open ZoneArbiter.Text

/-- Why preferences cannot be looked for. -/
inductive SourceDefect
  /-- A value that names no paths. -/
  | notPaths (family : String)
  /-- A value that is not a path. -/
  | notPath (family : String)
  /-- A path that starts at the home of a user who is not known. -/
  | noHome
  /-- A path that is too long to be followed. -/
  | nameTooLong (path : String)
  /-- A value that does not name an encoding. -/
  | notEncodingName (family : String)
  /-- A name with a null character in it. -/
  | nullInName
  /-- A name that no encoding has. -/
  | unknownEncoding (name : String)
  /-- A name of something that does not yield texts. -/
  | notTextEncoding (name : String)
  /-- A file with bytes that stand for nothing. -/
  | unreadable (defect : DecodingDefect)
  /-- A value that one cannot be taken off from. -/
  | notNumber (family : String)
  /-- A first part of the names of variables that has no length. -/
  | unmeasured (family : String)
  /-- A first part of the names of variables that is not a text. -/
  | notStem
  /-- A file in the place of a directory. -/
  | notDirectory
  /-- A value that is no list of arguments. -/
  | notArguments (family : String)
  /-- A value among arguments that is not a text. -/
  | notArgument (family : String)
  /-- A first part of the names of options that is not made of names. -/
  | unusableStem (stem : String)
  /-- A first part of the names of options that is not a text. -/
  | notOptionStem (family : String)
  /-- A command line that cannot be read, and whether that is the end of the program. -/
  | misused (sentence : String) (final : Bool)
  /-- A command line that asks about the options, which is the end of the program. -/
  | helpAsked
deriving Repr, DecidableEq

namespace SourceDefect

/-- The broad kind of a defect. -/
def kind : SourceDefect → String
  | .notPaths _ | .notPath _ | .notEncodingName _ | .notNumber _ | .unmeasured _ |
      .notArgument _ => "TypeError"
  | .noHome => "RuntimeError"
  | .nameTooLong _ => "OSError"
  | .nullInName => "ValueError"
  | .unknownEncoding _ | .notTextEncoding _ => "LookupError"
  | .unreadable defect => defect.kind
  | .notStem | .notDirectory | .notArguments _ | .unusableStem _ | .misused _ false =>
      "SettingsError"
  | .notOptionStem _ => "AttributeError"
  | .misused _ true | .helpAsked => "SystemExit"

/-- The text that tells a defect. -/
def message : SourceDefect → String
  | .notPaths family => "'" ++ family ++ "' object is not iterable"
  | .notPath family => "expected str, bytes or os.PathLike object, not " ++ family
  | .noHome => "Could not determine home directory."
  | .nameTooLong path => "[Errno 36] File name too long: " ++ quoted path
  | .notEncodingName family => "open() argument 'encoding' must be str or None, not " ++ family
  | .nullInName => "embedded null character"
  | .unknownEncoding name => "unknown encoding: " ++ name
  | .notTextEncoding name =>
      "'" ++ name ++ "' is not a text encoding; use codecs.open() to handle arbitrary codecs"
  | .unreadable defect => defect.message
  | .notNumber family => "unsupported operand type(s) for -: '" ++ family ++ "' and 'int'"
  | .unmeasured family => "object of type '" ++ family ++ "' has no len()"
  | .notStem => "error getting value for field \"environment\" from source \"EnvSettingsSource\""
  | .notDirectory => "secrets_dir must reference a directory, not a file"
  | .notArguments family =>
      "cli_parse_args must be a list or tuple of strings, received <class '" ++ family ++ "'>"
  | .notArgument family => "expected string or bytes-like object, got '" ++ family ++ "'"
  | .unusableStem stem => "CLI settings source prefix is invalid: " ++ stem
  | .notOptionStem family => "'" ++ family ++ "' object has no attribute 'startswith'"
  | .misused sentence false => "error parsing CLI: " ++ sentence
  | .misused _ true => "2"
  | .helpAsked => "0"

end SourceDefect

end ZoneArbiter.Preferences
