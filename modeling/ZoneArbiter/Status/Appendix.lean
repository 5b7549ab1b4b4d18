import ZoneArbiter.Fault
import ZoneArbiter.Json.Writer
import ZoneArbiter.Status.Page

/-!
# ZoneArbiter.Status.Appendix — a component's own part of a status page

Components may register to add to the status page. An appendix writes a line with
its name and the arguments of the request, moves the indent, writes its lines,
and may fail after that; what it wrote before it failed stays on the page, and so
does its indent.
-/

namespace ZoneArbiter.Status

/-- What a component adds to a status page. -/
structure Appendix where
  /-- The name of the component. -/
  name : String
  /-- How far it moves the indent. -/
  shift : Int := 0
  /-- The lines it writes. -/
  lines : List String := []
  /-- How it fails after that, if it does. -/
  fault : Option Fault := none
deriving Repr, DecidableEq

namespace Appendix

/-- The arguments of a request, as the first line of an appendix shows them. -/
def shownArguments (args : List String) : String := (Json.texts args).spaced

/-- The page with everything that the appendix writes. -/
def write (a : Appendix) (args : List String) (page : Page) : Page :=
  ((page.line (a.name ++ " " ++ shownArguments args)).shift a.shift).lines a.lines

/-- Write the appendix to the page, then fail if it is to. -/
def run (a : Appendix) (args : List String) : EStateM Fault Page Unit := do
  modify (a.write args)
  match a.fault with
  | none => return ()
  | some f => throw f

end Appendix

end ZoneArbiter.Status
