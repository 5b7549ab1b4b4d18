import ZoneArbiter.Text.Shown

/-!
# ZoneArbiter.Wire.Issue — what is wrong with a message

An issue says what is wrong and where: the place is the path of field names and
item numbers from the message down to the value. A reader collects the issues of
all fields, in the order of their declaration, so `Checked` accumulates: a
message is accepted only if every part of it is.
-/

namespace ZoneArbiter.Wire

/-- One step on the way from a message to a value inside it. -/
inductive Step
  /-- Into the field of a name. -/
  | field (name : String)
  /-- Into the item of a number, counted from zero. -/
  | item (index : Nat)
deriving Repr, DecidableEq

/-- What can be wrong with a value. -/
inductive Defect
  /-- The text is not of the grammar. -/
  | notJson
  /-- The message is not an object. -/
  | notObject
  /-- A required field is missing. -/
  | missing
  /-- A number that should be an integer is not finite. -/
  | notFinite
  /-- A number that should be an integer has a fraction. -/
  | fractional
  /-- A number that should be an integer does not fit 64 bits. -/
  | outOfRange
  /-- A string that should spell an integer does not. -/
  | notInteger
  /-- A value that cannot stand for an integer. -/
  | integerType
  /-- A string or an integer that should spell a truth value does not. -/
  | notTruth
  /-- A value that cannot stand for a truth value. -/
  | truthType
  /-- A value that is not a string. -/
  | textType
  /-- A value that is not an array. -/
  | arrayType
  /-- A value that is none of the listed ones. -/
  | notMember (values : List String)
  /-- An integer below its least value. -/
  | tooSmall (least : Int)
  /-- A field of a message that does not change. -/
  | frozen
deriving Repr, DecidableEq

/-- Something wrong at a place of a message. -/
structure Issue where
  /-- What is wrong. -/
  defect : Defect
  /-- Where, from the message down. -/
  path : List Step := []
deriving Repr, DecidableEq

/-- Choices in a sentence: commas, and an "or" before the last one. -/
def choices : List String → String
  | [] => ""
  | [last] => last
  | [first, last] => first ++ " or " ++ last
  | first :: rest => first ++ ", " ++ choices rest

namespace Defect

/-- The code of a defect. -/
def code : Defect → String
  | .notJson => "json_invalid"
  | .notObject => "model_type"
  | .missing => "missing"
  | .notFinite => "finite_number"
  | .fractional => "int_from_float"
  | .outOfRange => "int_parsing_size"
  | .notInteger => "int_parsing"
  | .integerType => "int_type"
  | .notTruth => "bool_parsing"
  | .truthType => "bool_type"
  | .textType => "string_type"
  | .arrayType => "list_type"
  | .notMember _ => "enum"
  | .tooSmall _ => "greater_than_equal"
  | .frozen => "frozen_instance"

/-- The sentence for a defect. A text that is not of the grammar has none. -/
def sentence? : Defect → Option String
  | .notJson => none
  | .notObject => some "Input should be an object"
  | .missing => some "Field required"
  | .notFinite => some "Input should be a finite number"
  | .fractional => some "Input should be a valid integer, got a number with a fractional part"
  | .outOfRange =>
      some "Unable to parse input string as an integer, exceeded maximum size"
  | .notInteger => some "Input should be a valid integer, unable to parse string as an integer"
  | .integerType => some "Input should be a valid integer"
  | .notTruth => some "Input should be a valid boolean, unable to interpret input"
  | .truthType => some "Input should be a valid boolean"
  | .textType => some "Input should be a valid string"
  | .arrayType => some "Input should be a valid array"
  | .notMember values =>
      some ("Input should be " ++ choices (values.map fun value => "'" ++ value ++ "'"))
  | .tooSmall least => some ("Input should be greater than or equal to " ++ toString least)
  | .frozen => some "Instance is frozen"

end Defect

/-- The issue seen from one step further out. -/
def Issue.under (step : Step) (issue : Issue) : Issue :=
  { issue with path := step :: issue.path }

/-- What checking a value yields: the value it stands for, or all that is wrong
with it. -/
inductive Checked (α : Type) where
  /-- Nothing is wrong. -/
  | accepted (value : α)
  /-- These issues were found. -/
  | rejected (issues : List Issue)
deriving Repr, DecidableEq

namespace Checked

variable {α β : Type}

/-- A value with one thing wrong, at the value itself. -/
def refuse (defect : Defect) : Checked α := .rejected [⟨defect, []⟩]

/-- The accepted value, converted. -/
def map (f : α → β) : Checked α → Checked β
  | .accepted a => .accepted (f a)
  | .rejected issues => .rejected issues

/-- Two checks of which both count: all issues of the first, then all issues of
the second. -/
def both (f : Checked (α → β)) (a : Checked α) : Checked β :=
  match f, a with
  | .accepted f, .accepted a => .accepted (f a)
  | .accepted _, .rejected issues => .rejected issues
  | .rejected issues, .accepted _ => .rejected issues
  | .rejected issues, .rejected more => .rejected (issues ++ more)

instance : Functor Checked where
  map := map

instance : Applicative Checked where
  pure := .accepted
  seq f a := both f (a ())

/-- The check seen from one step further out. -/
def under (step : Step) : Checked α → Checked α
  | .accepted a => .accepted a
  | .rejected issues => .rejected (issues.map (Issue.under step))

/-- A further condition on an accepted value. -/
def demand (condition : α → Bool) (defect : Defect) : Checked α → Checked α
  | .accepted a => if condition a then .accepted a else refuse defect
  | .rejected issues => .rejected issues

@[simp] theorem pure_eq (a : α) : (pure a : Checked α) = .accepted a := rfl

@[simp] theorem map_accepted (f : α → β) (a : α) :
    (f <$> (.accepted a : Checked α)) = .accepted (f a) := rfl

@[simp] theorem seq_accepted (f : α → β) (a : α) :
    ((.accepted f : Checked (α → β)) <*> .accepted a) = .accepted (f a) := rfl

end Checked

end ZoneArbiter.Wire
