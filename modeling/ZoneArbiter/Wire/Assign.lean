import ZoneArbiter.Json.Shown
import ZoneArbiter.Wire.Model

/-!
# ZoneArbiter.Wire.Assign — putting values into messages

A message that is not frozen takes a value for each of its fields, unchecked. It
takes values under **private names** too, which start with an underscore, even if it
is frozen. Most private values show nowhere. Some names, though, stand for what is
used to show a message: its fields all at once, further fields, what is known of the
fields, and what is called for a part of the text. A value under such a name changes
how the message is shown (`Model.shownWith`), or leaves nothing to show it with.
-/

namespace ZoneArbiter.Wire

/-- What can be asked of every message but not put into one. -/
def readOnlyNames : List String :=
  ["model_extra", "model_fields_set", "__fields_set__", "__fields__"]

/-- The private names for what is called to show a message, in the order of the
calls. -/
def callNames : List String := ["__repr_name__", "__repr_str__", "__repr_args__"]

/-- The private name for what is known of the fields. -/
def fieldTableName : String := "__pydantic_fields__"

/-- The private name for what is known of fields that are worked out. -/
def computedTableName : String := "__pydantic_computed_fields__"

/-- The private name for further fields. -/
def furtherName : String := "__pydantic_extra__"

/-- Is the name private? -/
def isPrivate (name : String) : Bool := name.toList.head? = some '_'

/-- The fields with one shown value in the place of another. -/
def putField (field value : String) (fields : List (String × String)) :
    List (String × String) :=
  fields.map fun entry => if entry.1 = field then (field, value) else entry

/-- No value can be called. -/
def checkCalls (told : List (String × Json)) : Except AssignDefect Unit :=
  match callNames.findSome? fun name => Json.lookup name told with
  | some value => .error (.notCallable value.family)
  | none => .ok ()

/-- Nothing can be worked out from a value, so there must be nothing to work out. -/
def checkComputed (told : List (String × Json)) : Except AssignDefect Unit :=
  match Json.lookup computedTableName told with
  | none | some (.object []) => .ok ()
  | some (.object (entry :: _)) => .error (.lacks entry.2.family "repr")
  | some value => .error (.lacks value.family "items")

/-- The entries that are shown: those with the names of fields. If a value stands for
what is known of the fields, nothing is known of those that it leaves out, and what
it has for a field does not say whether to show it. -/
def shownEntries (names : List String) (told : List (String × Json))
    (entries : List (String × String)) : Except AssignDefect (List (String × String)) :=
  match Json.lookup fieldTableName told with
  | none => .ok (entries.filter fun entry => entry.1 ∈ names)
  | some (.object table) =>
      match entries.findSome? fun entry => (Json.lookup entry.1 table).filter Json.isOn with
      | some value => .error (.lacks value.family "repr")
      | none => .ok []
  | some value => .error (.lacks value.family "get")

/-- The further fields that a value stands for, as they are shown. -/
def shownFurther : Json → Except AssignDefect (List (String × String))
  | .null => .ok []
  | .object fields => .ok (Json.shownEach fields)
  | value => .error (.lacks value.family "items")

namespace Model

variable {α : Type}

/-- A message as it is shown when it holds these entries and, among them, these
private values. -/
def shownWith (m : Model α) (names : List String) (told : List (String × Json))
    (entries : List (String × String)) : Except AssignDefect String := do
  checkCalls told
  checkComputed told
  return Text.shownRecord m.name (← shownEntries names told entries)

/-- A message, as it is shown, with a value put under a private name. -/
def assignPrivate (m : Model α) (a : α) (name : String) (value : Json) :
    Except AssignDefect String :=
  let fields := m.shownFields a
  let names := fields.map (·.1)
  if name ∈ readOnlyNames then .error (.readOnly m.name name)
  else if name = "__weakref__" then .error (.notWritable m.name name)
  else if name = "__class__" then .error (.notKind name value.family)
  else if name = "__dict__" then
    match value with
    | .object given => m.shownWith names given (Json.shownEach given)
    | _ => .error (.notTable name value.family)
  else if name = furtherName then
    (shownFurther value).map fun further => Text.shownRecord m.name (fields ++ further)
  else m.shownWith names [(name, value)] (fields ++ [(name, value.shown)])

/-- A message, as it is shown, with a value put into one of its fields. The message
must have the field and must not be frozen. -/
def assignField (m : Model α) (a : α) (name : String) (value : Json) :
    Except AssignDefect String :=
  let fields := m.shownFields a
  if name ∈ readOnlyNames then .error (.readOnly m.name name)
  else if fields.any (·.1 = name) then
    .ok (Text.shownRecord m.name (putField name value.shown fields))
  else .error (.noField m.name name)

/-- A message, as it is shown, with a value put under a name. -/
def assign (m : Model α) (a : α) (name : String) (value : Json) : Except Problem String :=
  if isPrivate name then (m.assignPrivate a name value).mapError .unassignable
  else if m.frozen then .error (.invalid m.name [⟨.frozen, [.field name]⟩])
  else (m.assignField a name value).mapError .unassignable

end Model

end ZoneArbiter.Wire
