import ZoneArbiter.Json.Reader
import ZoneArbiter.Json.Writer
import ZoneArbiter.Problem
import ZoneArbiter.Text.Shown
import ZoneArbiter.Wire.Scalar

/-!
# ZoneArbiter.Wire.Model — how a kind of message is read and written

A model says, for one kind of value, how its fields are read and how it is
written. Everything else is the same for all models: a message is the compact
text of an object, fields that the model does not know are passed over, and a
text that is not of the grammar is refused as such.
-/

namespace ZoneArbiter.Wire

/-- How values of one kind travel. -/
structure Model (α : Type) where
  /-- The name of the kind. -/
  name : String
  /-- Whether a message stays as it was made. -/
  frozen : Bool
  /-- Read the fields of a message. -/
  fields : List (String × Json) → Checked α
  /-- The message for a value. -/
  encode : α → Json
  /-- The fields of a message with their shown values, in order. -/
  shownFields : α → List (String × String)

namespace Model

variable [Numeral.Measure] {α : Type}

/-- The value of a message. -/
def check (m : Model α) : Json → Checked α
  | .object fields => m.fields fields
  | _ => .refuse .notObject

/-- The value that a text holds. -/
def read (m : Model α) (s : String) : Checked α :=
  match Json.parse? s with
  | some j => m.check j
  | none => .refuse .notJson

/-- The value that a text holds, or the problem of having none. -/
def receive (m : Model α) (s : String) : Except Problem α :=
  match m.read s with
  | .accepted a => .ok a
  | .rejected issues => .error (.invalid m.name issues)

/-- The text for a value. -/
def write (m : Model α) (a : α) : String := (m.encode a).compact

/-- A message as it is shown. -/
def shown (m : Model α) (a : α) : String := Text.shownRecord m.name (m.shownFields a)

end Model

end ZoneArbiter.Wire
