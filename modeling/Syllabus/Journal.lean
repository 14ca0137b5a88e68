/-
  Syllabus.Journal
  ────────────────
  **WRITING WITH A RECORD OF WHAT WAS GIVEN UP.**

  Blocks are built from whatever the author wrote, so building never stops;
  what cannot be shown is shown as something less, and that is *reported*: it
  is logged, and recorded by the collector of the run.  A builder that is
  called without a collector still logs.  The journal holds both records, so
  that they can be compared:

      report      logs a degradation and records it
      unrecorded  runs a builder without the collector: its log lines stay
      scope       runs something at a place further in
-/
import Syllabus.Diagnostics
import Syllabus.Log

namespace Syllabus

/-! ## §1. The journal. -/

/-- What a run writes to the log. -/
inductive Remark where
  /-- A degradation, with its code. -/
  | degradation (channel : Channel) (code message : String)
  /-- Anything else. -/
  | plain (line : LogLine)
  deriving DecidableEq, Repr

/-- The log line of a remark. -/
def Remark.line : Remark → LogLine
  | .degradation channel code message => ⟨channel, .warning, code ++ ": " ++ message⟩
  | .plain line => line

/-- The records of a run. -/
structure Journal where
  /-- The diagnostics. -/
  collector : Collector := {}
  /-- The log, in order. -/
  remarks : List Remark := []
  deriving DecidableEq, Repr

/-- A journal that starts from a collector. -/
def Journal.of (collector : Collector) : Journal := { collector }

/-- The log lines of a run. -/
def Journal.lines (j : Journal) : List LogLine := j.remarks.map Remark.line

/-! ## §2. Writing. -/

/-- Something that is built while records are kept. -/
abbrev Writing := StateM Journal

namespace Writing

/-- Records a diagnostic without logging it. -/
def record (code message : String) (severity : Severity) : Writing Unit :=
  modify fun j => { j with collector := j.collector.add code message severity }

/-- Writes a log line. -/
def log (channel : Channel) (level : Level) (message : String) : Writing Unit :=
  modify fun j => { j with remarks := j.remarks ++ [.plain ⟨channel, level, message⟩] }

/-- Logs a degradation and records it. -/
def report (channel : Channel) (code message : String) (severity : Severity) : Writing Unit :=
  modify fun j =>
    { collector := j.collector.add code message severity
      remarks := j.remarks ++ [.degradation channel code message] }

/-- Runs without the collector: nothing is recorded, but the log is kept. -/
def unrecorded {α : Type} (w : Writing α) : Writing α := fun j =>
  let (a, after) := w j
  (a, { after with collector := j.collector })

/-- Enters a place. -/
def enter (steps : Path) : Writing Unit :=
  modify fun j => { j with collector := j.collector.enter steps }

/-- Leaves as many steps as were entered. -/
def leave (count : Nat) : Writing Unit :=
  modify fun j => { j with collector := j.collector.leave count }

end Writing

end Syllabus
