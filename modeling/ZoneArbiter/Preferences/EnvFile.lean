import ZoneArbiter.Text.Blank
import ZoneArbiter.Text.Encoding

/-!
# ZoneArbiter.Preferences.EnvFile — files that assign variables

An environment file is a list of assignments `NAME=value`, one to a line:

* blanks may stand around the name and the equals sign, the word `export` before
  the name, and a comment after the value or on a line of its own;
* a value may stand in single or double quotes; it may then hold line feeds, and
  its quotes and backslashes are escaped by a backslash. Double quotes also know
  the escapes for control characters;
* a value without quotes ends where a comment begins, which takes a blank before
  the `#`, so it may be empty but for a comment;
* a name without an equals sign is mentioned, with no value;
* a line that is none of this is passed over.

A value may refer to variables as `${NAME}` or `${NAME:-default}`. What the file
assigned before counts first, and then the environment.
-/

namespace ZoneArbiter.Preferences.EnvFile

open ZoneArbiter.Text

/-! ### Characters and lines -/

/-- Does the character separate words on one line? -/
def isInlineSpace (c : Char) : Bool := isSpace c && c ≠ '\n'

/-- The text with every line end, of whatever kind, as a line feed. -/
def unifyLineEnds : List Char → List Char
  | [] => []
  | '\r' :: '\n' :: rest => '\n' :: unifyLineEnds rest
  | c :: rest => (if c = '\r' then '\n' else c) :: unifyLineEnds rest

/-- What follows the line that the text starts in. -/
def skipLine (cs : List Char) : List Char := (cs.dropWhile (· ≠ '\n')).drop 1

/-! ### Quoted values -/

/-- The text up to the closing quote, and what follows the quote. A backslash and
the character after it belong together, so a quote there does not close. -/
def untilQuote (quote : Char) : List Char → Option (List Char × List Char)
  | [] => none
  | '\\' :: c :: rest => (untilQuote quote rest).map fun found => ('\\' :: c :: found.1, found.2)
  | c :: rest =>
      if c = quote then some ([], rest)
      else (untilQuote quote rest).map fun found => (c :: found.1, found.2)

/-- The text with its escapes replaced by what they stand for. -/
def unescape (meaning : Char → Option Char) : List Char → List Char
  | [] => []
  | '\\' :: c :: rest =>
      match meaning c with
      | some d => d :: unescape meaning rest
      | none => '\\' :: unescape meaning (c :: rest)
  | c :: rest => c :: unescape meaning rest

/-- The escapes in single quotes. -/
def singleEscape (c : Char) : Option Char := if c = '\\' ∨ c = '\'' then some c else none

/-- The escapes in double quotes. -/
def doubleEscape (c : Char) : Option Char :=
  if c = '\\' ∨ c = '\'' ∨ c = '"' then some c
  else if c = 'a' then some (Char.ofNat 7)
  else if c = 'b' then some (Char.ofNat 8)
  else if c = 'f' then some (Char.ofNat 12)
  else if c = 'n' then some '\n'
  else if c = 'r' then some '\r'
  else if c = 't' then some '\t'
  else if c = 'v' then some (Char.ofNat 11)
  else none

/-! ### Values without quotes -/

/-- The text before a comment; `afterSpace` says whether a blank stands before the
text. -/
def beforeComment : Bool → List Char → List Char
  | _, [] => []
  | afterSpace, c :: rest =>
      if c = '#' ∧ afterSpace then [] else c :: beforeComment (isSpace c) rest

/-- The value that the rest of a line holds; `afterSpace` says whether a blank stands
before it. -/
def plainValue (afterSpace : Bool) (line : List Char) : List Char :=
  trimEnd isSpace (beforeComment afterSpace line)

/-! ### Assignments -/

/-- What reading a part of a line yields: the part and what follows, or the place
where the line went wrong. -/
abbrev Found (α : Type) := Except (List Char) (α × List Char)

/-- The text after the word `export`, if that word and a blank begin it. -/
def skipExport (cs : List Char) : List Char :=
  let rest := cs.drop 6
  if "export".toList.isPrefixOf cs && (rest.head?.any isInlineSpace) then
    rest.dropWhile isInlineSpace
  else cs

/-- The name that is assigned to. A comment has none. -/
def readName (cs : List Char) : Found (Option (List Char)) :=
  match cs with
  | '#' :: _ => .ok (none, cs)
  | '\'' :: rest =>
      match rest.takeWhile (· ≠ '\''), rest.dropWhile (· ≠ '\'') with
      | _ :: _, _ :: after => .ok (some (rest.takeWhile (· ≠ '\'')), after)
      | _, _ => .error cs
  | _ =>
      let stops (c : Char) : Bool := c = '=' || c = '#' || isSpace c
      match cs.takeWhile (!stops ·) with
      | [] => .error cs
      | found => .ok (some found, cs.dropWhile (!stops ·))

/-- The value that is assigned; `afterSpace` says whether a blank stands before it. -/
def readValue (afterSpace : Bool) (cs : List Char) : Found (List Char) :=
  match cs with
  | [] => .ok ([], cs)
  | c :: rest =>
      if c = '\'' then
        match untilQuote c rest with
        | some (found, rest) => .ok (unescape singleEscape found, rest)
        | none => .error cs
      else if c = '"' then
        match untilQuote c rest with
        | some (found, rest) => .ok (unescape doubleEscape found, rest)
        | none => .error cs
      else .ok (plainValue afterSpace (cs.takeWhile (· ≠ '\n')), cs.dropWhile (· ≠ '\n'))

/-- What follows an equals sign and the blanks after it, if there is one. -/
def readAssigned (cs : List Char) : Found (Option (List Char)) :=
  match cs with
  | '=' :: rest =>
      (readValue (rest.head?.any isInlineSpace) (rest.dropWhile isInlineSpace)).map fun found =>
        (some found.1, found.2)
  | _ => .ok (none, cs)

/-- The end of a line, with blanks and a comment before it. -/
def readLineEnd (cs : List Char) : Except (List Char) (List Char) :=
  let afterSpace := cs.dropWhile isInlineSpace
  let afterComment :=
    match afterSpace with
    | '#' :: rest => rest.dropWhile (· ≠ '\n')
    | _ => cs
  match afterComment.dropWhile isInlineSpace with
  | [] => .ok []
  | '\n' :: rest => .ok rest
  | _ => .error afterComment

/-- A name, and the value assigned to it if there is one. -/
abbrev Assignment := String × Option String

/-- The assignment that a text starts with, if it starts with one, and what
follows its line. -/
def line (cs : List Char) : Option Assignment × List Char :=
  let found : Except (List Char) (Option Assignment × List Char) := do
    let (name, rest) ← readName (skipExport cs)
    let (value, rest) ← readAssigned (rest.dropWhile isInlineSpace)
    let rest ← readLineEnd rest
    .ok (name.map fun name => (String.ofList name, value.map String.ofList), rest)
  match found with
  | .ok found => found
  | .error place => (none, skipLine place)

/-- The assignments of a text in order, of at most `fuel` lines. -/
def lines : Nat → List Char → List Assignment
  | 0, _ => []
  | fuel + 1, cs =>
      match cs.dropWhile isSpace with
      | [] => []
      | cs =>
          let (found, rest) := line cs
          found.toList ++ lines fuel rest

/-- The assignments of a file, in order. -/
def assignments (content : List Char) : List Assignment :=
  let cs := unifyLineEnds (Encoding.dropMark content)
  lines (cs.length + 1) cs

/-! ### References -/

/-- A reference, after its opening brace: the name, the default, and what
follows. -/
def reference (cs : List Char) : Option (List Char × List Char × List Char) :=
  let closing := Char.ofNat 0x7d
  let name := cs.takeWhile fun c => c ≠ closing && c ≠ ':'
  match cs.dropWhile fun c => c ≠ closing && c ≠ ':' with
  | ':' :: '-' :: rest =>
      match rest.dropWhile (· ≠ closing) with
      | _ :: after => some (name, rest.takeWhile (· ≠ closing), after)
      | [] => none
  | c :: after => if c = closing then some (name, [], after) else none
  | [] => none

/-- The text with references replaced by the values of what they refer to; at most
`fuel` characters or references are gone through. -/
def expand (meaning : String → Option String) : Nat → List Char → List Char
  | 0, cs => cs
  | _, [] => []
  | fuel + 1, c :: rest =>
      match (if c = '$' then rest.head? else none) with
      | some opening =>
          if opening = Char.ofNat 0x7b then
            match reference (rest.drop 1) with
            | some (name, fallback, after) =>
                ((meaning (String.ofList name)).map String.toList).getD fallback ++
                  expand meaning fuel after
            | none => c :: expand meaning fuel rest
          else c :: expand meaning fuel rest
      | none => c :: expand meaning fuel rest

/-- The list with a value for a name, in the place of the value that the name has
if it has one. -/
def assign (name : String) (value : Option String) : List Assignment → List Assignment
  | [] => [(name, value)]
  | (n, v) :: rest =>
      if n = name then (name, value) :: rest else (n, v) :: assign name value rest

/-- The variables of a file with their values, in the order in which the names
first occur. References see what stands before them, and the environment. -/
def evaluate (environment : List (String × String)) (content : List Char) : List Assignment :=
  (assignments content).foldl (fun sofar (name, value?) =>
    let meaning (n : String) : Option String :=
      match sofar.lookup n with
      | some value => some (value.getD "")
      | none => environment.lookup n
    let value? := value?.map fun value =>
      String.ofList (expand meaning (value.length + 1) value.toList)
    assign name value? sofar) []

end ZoneArbiter.Preferences.EnvFile
