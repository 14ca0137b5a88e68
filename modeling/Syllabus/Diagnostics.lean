/-
  Syllabus.Diagnostics
  ────────────────────
  **WHAT WENT WRONG, AND WHERE IN THE COURSE.**

  A collector keeps the diagnostics of one run in the order in which they are
  found, together with a stack of steps that says where in the course the run
  is.  Entering a place puts its steps on the stack, leaving it takes as many
  off again; a diagnostic records the stack of the moment.
-/
import Syllabus.Path

namespace Syllabus

/-! ## §1. Diagnostics. -/

/-- How bad something is. -/
inductive Severity where
  /-- Worth knowing. -/
  | info
  /-- It shows, but something else stands in its place. -/
  | warning
  /-- It is broken. -/
  | error
  deriving DecidableEq, Repr

/-- The name of a severity. -/
def Severity.name : Severity → String
  | .info => "info"
  | .warning => "warning"
  | .error => "error"

/-- One thing that went wrong. -/
structure Diagnostic where
  /-- What kind of thing. -/
  code : String
  /-- What happened, in words. -/
  message : String
  /-- Where it happened. -/
  path : Path
  /-- How bad it is. -/
  severity : Severity
  deriving DecidableEq, Repr

/-- The diagnostic as a line of text: its message, after its place if it has one. -/
def Diagnostic.text (d : Diagnostic) : String :=
  match d.path.location? with
  | some location => location ++ ": " ++ d.message
  | none => d.message

/-! ## §2. The collector. -/

/-- The diagnostics of a run, and where in the course it is. -/
structure Collector where
  /-- What has been found, in order. -/
  entries : List Diagnostic := []
  /-- The steps to the present place. -/
  stack : Path := []
  deriving DecidableEq, Repr

namespace Collector

/-- Goes on to a place further in. -/
def enter (steps : Path) (c : Collector) : Collector := { c with stack := c.stack ++ steps }

/-- Goes back by a number of steps. -/
def leave (count : Nat) (c : Collector) : Collector :=
  { c with stack := c.stack.take (c.stack.length - count) }

/-- Records a diagnostic at the present place. -/
def add (code message : String) (severity : Severity) (c : Collector) : Collector :=
  { c with entries := c.entries ++ [⟨code, message, c.stack, severity⟩] }

/-- The warnings. -/
def warnings (c : Collector) : List Diagnostic := c.entries.filter (·.severity = .warning)

/-- The errors. -/
def errors (c : Collector) : List Diagnostic := c.entries.filter (·.severity = .error)

end Collector

end Syllabus
