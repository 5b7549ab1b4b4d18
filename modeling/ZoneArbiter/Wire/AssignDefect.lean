/-!
# ZoneArbiter.Wire.AssignDefect — why a message does not take a value

Each way in which a value cannot be put into a message, or leaves a message that
cannot be shown, with the text that tells it.
-/

namespace ZoneArbiter.Wire

/-- Why a value cannot be put into a message and shown there. -/
inductive AssignDefect
  /-- The message has no field of that name. -/
  | noField (model name : String)
  /-- What a message tells of itself cannot be set. -/
  | readOnly (model name : String)
  /-- What a message is known by elsewhere cannot be set. -/
  | notWritable (model name : String)
  /-- What kind of message it is cannot be set to a value. -/
  | notKind (name family : String)
  /-- All fields at once can be set to an object only. -/
  | notTable (name family : String)
  /-- A value stands where something is called to show the message. -/
  | notCallable (family : String)
  /-- A value lacks a part that is needed to show the message. -/
  | lacks (family part : String)
deriving Repr, DecidableEq

namespace AssignDefect

/-- The broad kind of a defect. -/
def kind : AssignDefect → String
  | .noField .. => "ValueError"
  | .readOnly .. | .notWritable .. | .lacks .. => "AttributeError"
  | .notKind .. | .notTable .. | .notCallable _ => "TypeError"

/-- The text that tells a defect. -/
def message : AssignDefect → String
  | .noField model name => "\"" ++ model ++ "\" object has no field \"" ++ name ++ "\""
  | .readOnly model name => "property '" ++ name ++ "' of '" ++ model ++ "' object has no setter"
  | .notWritable model name =>
      "attribute '" ++ name ++ "' of '" ++ model ++ "' objects is not writable"
  | .notKind name family => name ++ " must be set to a class, not '" ++ family ++ "' object"
  | .notTable name family => name ++ " must be set to a dictionary, not a '" ++ family ++ "'"
  | .notCallable family => "'" ++ family ++ "' object is not callable"
  | .lacks family part => "'" ++ family ++ "' object has no attribute '" ++ part ++ "'"

end AssignDefect

end ZoneArbiter.Wire
