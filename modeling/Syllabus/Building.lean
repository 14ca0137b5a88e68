/-
  Syllabus.Building
  ─────────────────
  **BUILDING THAT CAN BREAK OFF.**

  The builder of a tag may be out of order; it then fails with a message.
  Building is writing that can end in such a failure.  The journal is kept
  either way, and a place that was entered is left on both ways out.
-/
import Syllabus.Item.Tag
import Syllabus.Journal

namespace Syllabus

/-! ## §1. The type. -/

/-- What a builder that is out of order says. -/
structure Failure where
  /-- Its message. -/
  message : String
  deriving DecidableEq, Repr

/-- Something that is built while records are kept, unless it breaks off. -/
abbrev Building := ExceptT Failure (StateM Journal)

/-- How items are built. -/
structure BuildOptions where
  /-- The tags whose builders are out of order, with what they say. -/
  failing : Tag → Option String := fun _ => none
  /-- Whether a failure is kept to the item that it happens in. -/
  isolate : Bool := false

namespace Building

/-! ## §2. Places and failures. -/

/-- Runs something at a place further in, and leaves the place however it ends. -/
def scope {α : Type} (steps : Path) (b : Building α) : Building α := fun j =>
  let (r, after) := b.run.run { j with collector := j.collector.enter steps }
  (r, { after with collector := after.collector.leave steps.length })

/-- Writing never breaks off. -/
def ofWriting {α : Type} (w : Writing α) : Building α := fun j =>
  let (a, after) := w j
  (.ok a, after)

/-- Breaks off. -/
def fail {α : Type} (message : String) : Building α := throw ⟨message⟩

/-- Runs something; if it breaks off, goes on with what the failure is turned into. -/
def recover {α : Type} (b : Building α) (handle : Failure → Building α) : Building α := fun j =>
  match b.run.run j with
  | (.ok a, after) => (.ok a, after)
  | (.error e, after) => (handle e).run.run after

end Building

end Syllabus
