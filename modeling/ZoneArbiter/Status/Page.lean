import ZoneArbiter.Text.Shown

/-!
# ZoneArbiter.Status.Page — an indented page, line by line

A page is written from top to bottom. Each line starts with the indent unit as
often as the current depth says. Taking back more indents than were made leaves
the depth at zero.
-/

namespace ZoneArbiter.Status

/-- A page while it is written. -/
structure Page where
  /-- What one level of depth puts before a line. -/
  unit : String := "  "
  /-- The depth of the next line. -/
  depth : Nat := 0
  /-- What has been written. -/
  text : String := ""
deriving Repr, DecidableEq

/-- A text a number of times. -/
def repeated : Nat → String → String
  | 0, _ => ""
  | n + 1, s => s ++ repeated n s

namespace Page

/-- Write one line. The text may itself hold line feeds; only its start is
indented. -/
def line (page : Page) (text : String) : Page :=
  { page with text := page.text ++ (repeated page.depth page.unit ++ text ++ "\n") }

/-- Write lines in order. -/
def lines (page : Page) (texts : List String) : Page := texts.foldl line page

/-- One level deeper. -/
def indent (page : Page) : Page := { page with depth := page.depth + 1 }

/-- One level back, and never above the top level. -/
def dedent (page : Page) : Page := { page with depth := page.depth - 1 }

/-- A number of levels deeper, or back if the number is negative. -/
def shift (page : Page) (levels : Int) : Page :=
  { page with depth := (page.depth + levels).toNat }

@[simp] theorem dedent_indent (page : Page) : page.indent.dedent = page := by
  simp [indent, dedent]

@[simp] theorem depth_line (page : Page) (text : String) :
    (page.line text).depth = page.depth := rfl

@[simp] theorem depth_lines (page : Page) (texts : List String) :
    (page.lines texts).depth = page.depth := by
  induction texts generalizing page with
  | nil => rfl
  | cons text rest ih => exact ih (page.line text)

end Page

end ZoneArbiter.Status
