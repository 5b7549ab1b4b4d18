import ZoneArbiter.ChangeLog
import ZoneArbiter.Fault
import ZoneArbiter.Json.Value
import ZoneArbiter.Preferences.SourceDefect
import ZoneArbiter.Text.Shown
import ZoneArbiter.Wire.AssignDefect
import ZoneArbiter.Wire.Issue

/-!
# ZoneArbiter.Problem — why a request has no answer

Each way in which a request can come to nothing, with the text that tells it and
the broad kind that it belongs to.
-/

namespace ZoneArbiter

open ZoneArbiter.Text

/-- Why a request has no answer. -/
inductive Problem
  /-- A value stands for no member of a closed family. -/
  | notMember (family shownValue : String)
  /-- An integer is not the size of a change log. -/
  | unusableSize (defect : ChangeLog.SizeDefect)
  /-- Something outside the engine failed. -/
  | fault (f : Fault)
  /-- There is no record of a user to load. -/
  | noRecord (user : Int)
  /-- A field of a value that does not change. -/
  | immutable (field : String)
  /-- A message does not take a value. -/
  | unassignable (defect : Wire.AssignDefect)
  /-- The places of the preferences are wrong. -/
  | source (defect : Preferences.SourceDefect)
  /-- A message, or the preferences, do not pass their checks. -/
  | invalid (model : String) (issues : List Wire.Issue)
deriving Repr, DecidableEq

namespace Problem

/-- The broad kind of a problem. -/
def kind : Problem → String
  | .notMember .. | .unusableSize .negative => "ValueError"
  | .unusableSize .beyondWord => "OverflowError"
  | .fault (.reported _) => "RuntimeError"
  | .fault (.noDate _) => "OverflowError"
  | .noRecord _ => "LookupError"
  | .immutable _ => "FrozenInstanceError"
  | .unassignable defect => defect.kind
  | .source defect => defect.kind
  | .invalid .. => "ValidationError"

/-- The text that tells a problem. -/
def message : Problem → String
  | .notMember family shownValue => shownValue ++ " is not a valid " ++ family
  | .unusableSize .negative => "maxlen must be non-negative"
  | .unusableSize .beyondWord => "Python int too large to convert to C ssize_t"
  | .fault f => f.message
  | .noRecord user => "no configuration for " ++ shownInt user
  | .immutable field => "cannot assign to field " ++ quoted field
  | .unassignable defect => defect.message
  | .source defect => defect.message
  | .invalid model _ => model

/-- A step of a path as a value. -/
def stepJson : Wire.Step → Json
  | .field name => .text name
  | .item index => .int index

/-- An issue as a value. -/
def issueJson (issue : Wire.Issue) : Json :=
  .object <|
    [("type", .text issue.defect.code), ("loc", .array (issue.path.map stepJson))] ++
      issue.defect.sentence?.toList.map fun sentence => ("msg", .text sentence)

/-- A problem as a value. -/
def toJson (p : Problem) : Json :=
  .object <|
    [("error", .text p.kind), ("message", .text p.message)] ++
      match p with
      | .invalid _ issues => [("errors", .array (issues.map issueJson))]
      | _ => []

end Problem

end ZoneArbiter
