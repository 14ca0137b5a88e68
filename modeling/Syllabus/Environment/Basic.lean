/-
  Syllabus.Environment.Basic
  ──────────────────────────
  **ENVIRONMENTS OF A PROCESS.**

  An environment gives texts to names.  A variable may be absent, which is not
  the same as empty.
-/
import Syllabus.Text.Blank
import Syllabus.Text.Case
import Syllabus.Text.Split

namespace Syllabus

/-- An environment: variables with their values, each name once. -/
abbrev Environment := List (String × String)

namespace Environment

/-- The value of a variable, if it is set. -/
def get? (name : String) : Environment → Option String
  | [] => none
  | (k, v) :: rest => if k = name then some v else get? name rest

/-- The value of a variable, or another one if it is not set. -/
def getD (e : Environment) (name other : String) : String := (get? name e).getD other

/-- Sets a variable. -/
def set (name value : String) : Environment → Environment
  | [] => [(name, value)]
  | (k, v) :: rest => if k = name then (k, value) :: rest else (k, v) :: set name value rest

/-- The words for "yes". -/
def affirmations : List String := ["1", "true", "yes", "on"]

/-- Whether a text says yes. -/
def isYes (s : String) : Bool := affirmations.contains (Text.lower (Text.strip s))

/-- Whether a variable says yes; an absent one counts as what is given. -/
def flag (e : Environment) (name : String) (absent : Bool) : Bool :=
  match get? name e with
  | some s => isYes s
  | none => absent

/-- The trimmed parts of a list with commas that are not blank. -/
def listed (s : String) : List String :=
  ((Text.splitOn ',' s.toList).map fun cs => Text.strip (String.ofList cs)).filter fun s => !s.isEmpty

end Environment

end Syllabus
