/-
  Syllabus.Path
  ─────────────
  **WHERE SOMETHING STANDS INSIDE A VALUE.**

  A path leads from a value to a part of it, one member name or item index at
  a time.  It is written in two ways: dotted, in reports on a course, and
  rooted at `$`, in reports on a single ill-typed field.
-/
import Syllabus.Decimal.Digits

namespace Syllabus

/-- One step into a value. -/
inductive Step where
  /-- To the member of this name. -/
  | key (name : String)
  /-- To the item at this index. -/
  | index (i : Nat)
  deriving DecidableEq, Repr

/-- The steps from a value to one of its parts. -/
abbrev Path := List Step

namespace Step

/-- A step in a dotted path. -/
def text : Step → String
  | .key name => name
  | .index i => toString i

/-- A step in a rooted path. -/
def suffix : Step → String
  | .key name => "." ++ name
  | .index i => s!"[{i}]"

end Step

namespace Path

/-- The steps with points between them. -/
def dotted (path : Path) : String := ".".intercalate (path.map Step.text)

/-- The dotted path, unless it has nothing to show. -/
def location? (path : Path) : Option String :=
  let text := dotted path
  if text.isEmpty then none else some text

/-- The steps from the root `$`. -/
def rooted (path : Path) : String := "$" ++ String.join (path.map Step.suffix)

end Path

end Syllabus
