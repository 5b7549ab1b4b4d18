import ZoneArbiter.Json.Value
import ZoneArbiter.Preferences.SourceDefect

/-!
# ZoneArbiter.Preferences.FileName — where paths lead

Files are looked for in one directory, which holds no other directories. So a path
leads to a file only if nothing but a name is left of it once empty parts and parts
that stay where they are have been taken out, and to the directory itself if
nothing is left (`FileName.place`). A path may also start at the home of a user, or
be too long to be followed at all.
-/

namespace ZoneArbiter.Preferences

/-- Where a path leads. -/
inductive Place
  /-- To the directory of the files. -/
  | here
  /-- To the file of a name, if there is one. -/
  | file (name : String)
  /-- To where none of the files is. -/
  | elsewhere
deriving Repr, DecidableEq

namespace FileName

/-- The pieces of a text between slashes. -/
def pieces : List Char → List (List Char)
  | [] => [[]]
  | c :: rest =>
      match pieces rest with
      | [] => [[c]]
      | piece :: more => if c = '/' then [] :: piece :: more else (c :: piece) :: more

/-- The parts of a path that lead somewhere. -/
def parts (path : String) : List String :=
  ((pieces path.toList).filter fun piece => piece ≠ [] && piece ≠ ['.']).map String.ofList

/-- Does the path start at the root of all directories? -/
def isAbsolute (path : String) : Bool := path.toList.head? = some '/'

/-- The path in its shortest spelling. -/
def normal (path : String) : String :=
  let joined := "/".intercalate (parts path)
  if isAbsolute path then "/" ++ joined else if joined = "" then "." else joined

/-- The user at whose home the path starts, with the sign for homes in front. -/
def home? (path : String) : Option String :=
  if isAbsolute path then none
  else (parts path).head?.filter fun part => part.toList.head? = some '~'

/-- The homes that are known: of the user of the program, and of the superuser. -/
def knownHomes : List String := ["~", "~root"]

/-- Where the path leads. -/
def place (path : String) : Place :=
  match isAbsolute path, home? path, parts path with
  | false, none, [] => .here
  | false, none, [name] => .file name
  | _, _, _ => .elsewhere

/-- How many bytes a name may have. -/
def longestName : Nat := 255

/-- How many bytes a path may have. -/
def longestPath : Nat := 4095

/-- Is the path too long to be followed? Of its parts only the first one counts for
itself, steps upwards apart, as it is not a directory. A path with a null character
is not followed in the first place. -/
def isTooLong (path : String) : Bool :=
  !path.toList.contains (Char.ofNat 0) &&
    (longestPath < (normal path).utf8ByteSize ||
      ((parts path).dropWhile (· = "..")).head?.any fun name => longestName < name.utf8ByteSize)

/-! ### Following values -/

/-- The values that a value has for paths: itself, its items, or its names. -/
def valuesOf : Json → Except SourceDefect (List Json)
  | .null => .ok []
  | .text path => .ok [.text path]
  | .array items => .ok items
  | .object fields => .ok (fields.map fun field => .text field.1)
  | j => .error (.notPaths j.family)

/-- The path that a value is. -/
def ofValue : Json → Except SourceDefect String
  | .text path =>
      if (home? path).all knownHomes.contains then .ok path else .error .noHome
  | j => .error (.notPath j.family)

/-- Where a path leads, if it can be followed. -/
def follow (path : String) : Except SourceDefect Place :=
  if isTooLong path then .error (.nameTooLong (normal path)) else .ok (place path)

example : place ".env.local/." = .file ".env.local" := by decide +kernel

example : place ".env.a/b" = .elsewhere := by decide +kernel

example : place "./" = .here := by decide +kernel

end FileName

end ZoneArbiter.Preferences
