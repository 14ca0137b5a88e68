/-
  Syllabus.RichText.Input
  ───────────────────────
  **WHAT A BLOCK CAN BE GIVEN AS ITS TEXT.**

  A string, in which markup may count; segments that the author styled; or
  runs that are ready.  Blank segments and blank runs are dropped, and when
  nothing is left there is no text.  A segment that does not fit is logged and
  dropped.
-/
import Syllabus.Item.Reading
import Syllabus.RichText.Markup

namespace Syllabus

/-! ## §1. The type. -/

/-- The text of a block, in any of its forms. -/
inductive TextInput where
  /-- No text. -/
  | nothing
  /-- A string. -/
  | text (text : String)
  /-- Styled segments. -/
  | segments (segments : List Segment)
  /-- Values that are to be read as styled segments. -/
  | loose (values : List Json)
  /-- Runs. -/
  | runs (runs : List Run)

/-- The text that an item has. -/
def Wording.input : Wording → TextInput
  | .plain s => .text s
  | .segments ss => .segments ss

/-- The text that a value stands for.  The first item of a list decides what all of it is. -/
def TextInput.ofJson : Json → TextInput
  | .str s => .text s
  | .arr (v :: vs) =>
      if Run.isRun v then .runs (((v :: vs).filter Run.isRun).map .given) else .loose (v :: vs)
  | _ => .nothing

/-! ## §2. Segments. -/

/-- The style of a segment. -/
def Segment.style (s : Segment) : Style :=
  { bold := s.bold, italic := s.italic, strikethrough := s.strikethrough,
    underline := s.underline, code := s.code, color := s.color }

/-- The run of a segment, unless it is blank. -/
def Segment.run? (s : Segment) : Writing (Option Run) :=
  if Text.isBlank s.text then pure none
  else do
    let run ← Run.linked s.text s.style (Json.ofOption s.link)
    pure (some run)

/-- The segment that a value describes; `null` members count as absent. -/
def Segment.ofJson? (v : Json) : Writing (Option Segment) :=
  match v with
  | .obj ms =>
      match Converter.segment (.obj (Json.withoutNulls ms)) with
      | .ok s => pure (some s)
      | .error e => do
          Writing.log .richText .warning ("Dropping malformed text segment: " ++ e.message)
          pure none
  | _ => pure none

/-- The run of a value that is to be read as a segment. -/
def Segment.looseRun? (v : Json) : Writing (Option Run) := do
  match ← Segment.ofJson? v with
  | some s => s.run?
  | none => pure none

/-- The runs of values that are to be read as segments. -/
def Segment.looseRuns (vs : List Json) : Writing (List Run) := do
  let runs ← vs.mapM Segment.looseRun?
  pure (runs.filterMap id)

/-- The runs of segments. -/
def Segment.runs (ss : List Segment) : Writing (List Run) := do
  let runs ← ss.mapM Segment.run?
  pure (runs.filterMap id)

/-! ## §3. Runs of an input. -/

/-- The runs, if there are any. -/
def someRuns (runs : List Run) : Option (List Run) := if runs.isEmpty then none else some runs

namespace TextInput

/-- The runs of a text; none when there is nothing to show. -/
def runs? (markup : Bool) : TextInput → Writing (Option (List Run))
  | .nothing => pure none
  | .text s =>
      let trimmed := Text.strip s
      if trimmed.isEmpty then pure none
      else if markup then do
        let runs ← Markup.runs trimmed
        pure (some runs)
      else pure (some [Run.plain trimmed])
  | .segments ss => do
      let runs ← Segment.runs ss
      pure (someRuns runs)
  | .loose vs => do
      let runs ← Segment.looseRuns vs
      pure (someRuns runs)
  | .runs rs => pure (someRuns (rs.filter fun r => !Text.isBlank r.content))

/-- The runs of a block that must show something: a blank one if need be. -/
def runsOrBlank (markup : Bool) (input : TextInput) : Writing (List Run) := do
  let runs ← input.runs? markup
  pure (runs.getD [Run.blank])

end TextInput

end Syllabus
