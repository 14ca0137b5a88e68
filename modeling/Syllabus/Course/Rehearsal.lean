/-
  Syllabus.Course.Rehearsal
  ─────────────────────────
  **BUILDING A COURSE WITHOUT SENDING IT.**

  A rehearsal reviews a course and builds its page with failures isolated, so
  that the whole course is built whatever happens.  Its errors are those of
  the review and the failures of builders; what building records besides is
  only listed, since the review has found it too.
-/
import Syllabus.Course.Page
import Syllabus.Course.Review
import Syllabus.Course.Statistics

namespace Syllabus

/-- What a rehearsal comes to. -/
structure Rehearsal where
  /-- What blocks the course. -/
  errors : List String
  /-- What is bad style. -/
  warnings : List String
  /-- Counts of its items. -/
  statistics : Statistics
  /-- How many blocks its page has at the top. -/
  generatedBlocks : Nat
  /-- What building recorded. -/
  diagnostics : List Diagnostic
  deriving DecidableEq, Repr

/-- Whether nothing blocks the course. -/
def Rehearsal.valid (r : Rehearsal) : Bool := r.errors.isEmpty

/-- The codes of errors that a review finds too. -/
def reviewedCodes : List String := ["malformed_item"]

/-- The errors of building that no review finds. -/
def buildErrors (found : Collector) : List String :=
  (found.errors.filter fun d => !reviewedCodes.contains d.code).map Diagnostic.text

/-- Builds something on a fresh journal. -/
def Building.fresh {α : Type} (b : Building α) : Except Failure α × Journal := b.run.run {}

/-- Rehearses a course, with some builders out of order. -/
def Course.rehearse (failing : Tag → Option String) (course : Json) :
    Except Text.NumeralError (Rehearsal × List Remark) := do
  let (verdict, _) := (Review.course course).run {}
  let spec ← Course.ofJson course
  let (blocks, journal) := (spec.page { failing, isolate := true }).fresh
  pure
    ({ errors := verdict.errors ++ buildErrors journal.collector
       warnings := verdict.warnings
       statistics := Statistics.ofCourse course
       generatedBlocks := match blocks with
         | .ok bs => bs.length
         | .error _ => 0
       diagnostics := journal.collector.entries },
     journal.remarks)

end Syllabus
