/-
  Syllabus.Course.Page
  ────────────────────
  **THE BODY OF A COURSE PAGE.**

  A page opens with navigation, the description of the course and what there
  is to know about it at a glance; then come the sections, each behind a rule
  and under its heading; and it closes with a rule and congratulations.
-/
import Syllabus.Course.Basic
import Syllabus.Item.Blocks

namespace Syllabus

/-! ## §1. The head of a page. -/

/-- What every page starts with. -/
def navigation : List Block := [.breadcrumb, Block.makeTableOfContents "gray", .divider]

/-- The description of a course. -/
def Course.descriptionBlocks (c : Course) : Writing (List Block) :=
  match c.description with
  | some s => do
      let b ← Block.makeCallout (.text s) "📖" "blue_background" [] true
      pure [b]
  | none => pure []

/-- The estimated time, the prerequisites and the objectives, as far as they are given. -/
def Course.metadataColumns (c : Course) : Writing (List (List Block)) := do
  let time ← c.estimatedTime.toList.mapM Template.estimatedTime
  let before ← if c.prerequisites.isEmpty then pure [] else do
    let b ← Template.prerequisites c.prerequisites
    pure [b]
  let goals ← if c.objectives.isEmpty then pure [] else do
    let b ← Template.objectives c.objectives
    pure [b]
  pure ((time ++ before ++ goals).map fun b => [b])

/-- The metadata of a course, next to each other if there are several, and a rule. -/
def Course.metadataBlocks (c : Course) : Writing (List Block) := do
  match ← c.metadataColumns with
  | [] => pure []
  | [column] => pure (column ++ [.divider])
  | columns => pure [Block.makeColumns columns, .divider]

/-! ## §2. Sections. -/

/-- The heading of a section, and what it is about. -/
def Section.headBlocks (s : Section) : Writing (List Block) := do
  let heading ← Block.makeHeading .one (.text s.title) (s.color.getD "blue") s.toggleable [] true
  let about ← match s.description with
    | some d => Block.makeParagraph (.text d) "gray" [] true
    | none => pure none
  pure (.divider :: heading :: about.toList)

/-- The blocks of a section. -/
def Section.blocks (options : BuildOptions) (s : Section) : Building (List Block) := do
  let head ← Building.ofWriting s.headBlocks
  let content ← Building.scope [.key "content"] (buildItems options s.content)
  pure (head ++ content)

/-- The blocks of sections, from an index on. -/
def sectionBlocks (options : BuildOptions) : (index : Nat) → List Section → Building (List Block)
  | _, [] => pure []
  | index, s :: rest => do
      let blocks ← Building.scope [.key "sections", .index index] (s.blocks options)
      let others ← sectionBlocks options (index + 1) rest
      pure (blocks ++ others)

/-! ## §3. The page. -/

/-- The blocks in front of the sections. -/
def Course.header (c : Course) : Writing (List Block) := do
  let description ← c.descriptionBlocks
  let metadata ← c.metadataBlocks
  pure (navigation ++ description ++ metadata)

/-- The blocks after the sections. -/
def pageFooter : Writing (List Block) := do
  let closing ← Template.courseComplete
  pure [.divider, closing]

/-- The body of the page of a course. -/
def Course.page (options : BuildOptions) (c : Course) : Building (List Block) := do
  let header ← Building.ofWriting c.header
  let sections ← sectionBlocks options 0 c.sections
  let footer ← Building.ofWriting pageFooter
  pure (header ++ sections ++ footer)

end Syllabus
