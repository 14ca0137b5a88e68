/-
  Syllabus.Item.Blocks
  ────────────────────
  **FROM ITEMS TO BLOCKS.**

  Every item gives blocks: a known one those of its tag, an unrecognised or
  ill-typed one a visible paragraph in its place.  What is nested in an item
  is built from where it stands in the item's members, at the place that
  leads there, and before the item's own text.

      buildItem    the blocks of one item
      buildItems   the blocks of a list of items, one place for each

  A failure of a builder ends the whole run, or, when failures are isolated,
  leaves a paragraph that says so in place of the item.
-/
import Syllabus.Building
import Syllabus.Template.Basic

namespace Syllabus

/-! ## §1. Known items. -/

/-- What is nested in an item: its own nested items, and those of its two sides. -/
structure Nested where
  /-- The blocks of the nested items. -/
  children : Building (List Block)
  /-- The blocks of the items nested in the left side. -/
  left : Building (List Block)
  /-- The blocks of the items nested in the right side. -/
  right : Building (List Block)

/-- An item without anything nested in it. -/
def Nested.none : Nested := ⟨pure [], pure [], pure []⟩

/-- A text, or another one if it is empty. -/
def orElse (s other : String) : String := if s.isEmpty then other else s

/-- An optional text, or another one if it is absent or empty. -/
def orElse? (s other : Option String) : Option String := if (s.getD "").isEmpty then other else s

/-- A list, or another one if it is empty. -/
def orItems (xs others : List String) : List String := if xs.isEmpty then others else xs

/-- The level of a heading. -/
def TextKind.level? : TextKind → Option HeadingLevel
  | .heading1 => some .one
  | .heading2 => some .two
  | .heading3 => some .three
  | _ => none

/-- The blocks of a text. -/
def TextFields.build (f : TextFields) (kind : TextKind) (color : String) (nested : Nested) :
    Building (List Block) :=
  match kind, kind.level? with
  | _, some level => do
      let children ← if f.toggleable then nested.children else pure []
      let b ← Building.ofWriting
        (Block.makeHeading level f.text.input color f.toggleable children true)
      pure [b]
  | .paragraph, none => do
      let b ← Building.ofWriting (Block.makeParagraph f.text.input color [] true)
      pure b.toList
  | .quote, none => do
      let b ← Building.ofWriting (Block.makeQuote f.text.input color [] true)
      pure [b]
  | _, none => do
      let children ← nested.children
      let b ← Building.ofWriting
        (Block.makeCallout f.text.input (f.icon.getD "") color children true)
      pure [b]

/-- The marker of the entries of a list. -/
def ListKind.marker : (kind : ListKind) → (checked : Bool) → Marker
  | .bulleted, _ => .bullet
  | .numbered, _ => .number
  | .checklist, checked => .box checked

/-- The entries of a whole list; blank ones are passed over. -/
def ListKind.entries (kind : ListKind) (items : List String) : Writing (List Block) :=
  (items.filter fun s => !Text.isBlank s).mapM fun s =>
    Block.makeEntry (kind.marker false) (.text s) Color.default [] true

/-- The block of a media item. -/
def MediaFields.build (f : MediaFields) : MediaTag → Writing Block
  | .image => Block.makeMedia .image (.str f.url) f.caption
  | .video => Block.makeMedia .video (.str f.url) f.caption
  | .audio => Block.makeMedia .audio (.str f.url) f.caption
  | .pdf => Block.makeMedia .pdf (.str f.url) f.caption
  | .file => Block.makeFile (.str f.url) f.name f.caption
  | .embed => Block.makeEmbed (.str f.url)
  | .bookmark => Block.makeBookmark (.str f.url) f.caption
  | .linkPreview => Block.makeLinkPreview (.str f.url) f.caption

/-- The block of a layout item. -/
def LayoutKind.block (color : String) : LayoutKind → Block
  | .divider => .divider
  | .tableOfContents => Block.makeTableOfContents color
  | .breadcrumb => .breadcrumb

/-- The rows of a table, its headers first. -/
def TableFields.allRows (f : TableFields) : List (List String) :=
  match f.headers with
  | some (h :: hs) => (h :: hs) :: f.rows
  | _ => f.rows

/-- The blocks of a table; none when its first row is missing or empty. -/
def TableFields.build (f : TableFields) : Writing (List Block) :=
  match f.allRows with
  | (c :: cs) :: rest => do
      let b ← Block.makeTable (((c :: cs) :: rest).map fun row => row.map .str) f.hasColumnHeader
        f.hasRowHeader
      pure [b]
  | _ => do
      Writing.report .compiler "empty_table" "Table has no rows; skipped" .warning
      pure []

/-- The blocks of one side of a comparison, without its title. -/
def SideFields.build (s : SideFields) (nested : Building (List Block)) : Building (List Block) := do
  let points ← Building.ofWriting (ListKind.bulleted.entries s.items)
  let children ← nested
  pure (points ++ children)

/-- The blocks of a comparison; a rule when a side is missing. -/
def ComparisonFields.build (f : ComparisonFields) (nested : Nested) : Building (List Block) :=
  match f.left, f.right with
  | some l, some r => do
      let left ← Building.scope [.key "left"] (l.build nested.left)
      let right ← Building.scope [.key "right"] (r.build nested.right)
      let b ← Building.ofWriting (Template.comparison l.title left r.title right)
      pure [b]
  | _, _ => do
      Building.ofWriting (Writing.report .compiler "comparison_incomplete"
        "Comparison needs both left and right sides; emitting a divider" .warning)
      pure [.divider]

/-- The blocks of a step.  A number of zero counts as one. -/
def StepFields.build (f : StepFields) (nested : Nested) : Building (List Block) := do
  let children ← nested.children
  let b ← Building.ofWriting
    (Template.step (if f.stepNumber = 0 then 1 else f.stepNumber) (orElse f.text f.title)
      (orElse? f.description f.caption) children)
  pure [b]

/-- The block of an exercise. -/
def ExerciseFields.build (f : ExerciseFields) : Writing Block :=
  Template.exercise (orElse (orElse f.text f.title) "Exercise") (orItems f.instructions f.items)
    f.solution (.str f.language)

/-- The blocks of a reference to a synced block; none without an identifier. -/
def syncedReference (blockId : String) : Writing (List Block) :=
  if Text.isBlank blockId then do
    Writing.report .compiler "synced_reference_missing_id"
      "syncedBlockReference needs a blockId; skipped" .warning
    pure []
  else pure [.syncedReference (Text.strip blockId)]

/-- One block. -/
def Building.single (w : Writing Block) : Building (List Block) := do
  let b ← Building.ofWriting w
  pure [b]

/-- The blocks of known content. -/
def Content.build (nested : Nested) (color : String) : Content → Building (List Block)
  | .text kind f => f.build kind color nested
  | .note kind s => Building.single (Template.note s kind)
  | .code f => Building.single (Block.makeCode (orElse f.code f.text) (.str f.language) f.caption)
  | .equation f => pure [Block.makeEquation (orElse f.expression f.text)]
  | .codeWithExplanation f =>
      Building.ofWriting
        (Template.codeWithExplanation (orElse f.code f.text) (.str f.language) f.explanations)
  | .entry kind f => do
      let children ← nested.children
      Building.single (Block.makeEntry (kind.marker f.checked) f.text.input color children true)
  | .group kind items => Building.ofWriting (kind.entries items)
  | .toggle f => do
      let children ← nested.children
      Building.single (Block.makeToggle f.text.input color children true)
  | .media tag f => Building.single (f.build tag)
  | .layout kind => pure [kind.block color]
  | .table f => Building.ofWriting f.build
  | .comparison f => f.build nested
  | .definition f =>
      Building.single
        (Template.definition f.term (orElse f.definition f.text) "purple_background")
  | .step f => f.build nested
  | .exercise f => Building.single f.build
  | .quiz f => Building.single (Template.quiz (orElse f.question f.text) f.options f.correctIndex)
  | .summary items => Building.single (Template.summary items)
  | .objectives f => Building.single (Template.objectives (orItems f.objectives f.items))
  | .prerequisites items => Building.single (Template.prerequisites items)
  | .estimatedTime minutes =>
      Building.single (Template.estimatedTime (if minutes = 0 then 30 else minutes))
  | .syncedBlock _ => do
      let children ← nested.children
      pure [.synced children]
  | .syncedBlockReference blockId => Building.ofWriting (syncedReference blockId)

/-! ## §2. Other items. -/

/-- What stands for an item with an unrecognised tag. -/
def unknownNotice (tag text : String) : String :=
  let label := "[Unknown block type: " ++ orElse tag "(missing)" ++ "]"
  let text := Text.strip text
  if text.isEmpty then label else label ++ " " ++ text

/-- The block of an item with an unrecognised tag. -/
def buildUnknown (tag text : String) : Writing Block := do
  Writing.report .compiler "unknown_item_type"
    ("Unknown content item type " ++ Text.quoted tag) .warning
  pure (Block.notice (unknownNotice tag text))

/-- The block of an item that does not fit. -/
def buildMalformed (tag error : String) : Writing Block := do
  Writing.report .compiler "malformed_item" ("Invalid " ++ tag ++ " item: " ++ error) .error
  pure (Block.notice ("[Invalid " ++ tag ++ " item: " ++ error ++ "]"))

/-- The blocks of known content, unless its builder is out of order. -/
def Content.buildWith (options : BuildOptions) (nested : Nested) (color : Option String)
    (content : Content) : Building (List Block) :=
  match options.failing content.tag with
  | some message => Building.fail message
  | none => content.build nested (color.getD Color.default)

/-- What a failure leaves in place of an item. -/
def leaveNotice (tag : Tag) (failure : Failure) : Building (List Block) :=
  Building.single do
    Writing.log .compiler .error ("Failed to build " ++ tag.name ++ " item")
    Writing.record "item_build_failed"
      ("Failed to build " ++ tag.name ++ " item: " ++ failure.message) .error
    pure (Block.notice ("[Failed to build " ++ tag.name ++ " item]"))

/-- The blocks of an item. -/
def Item.build (options : BuildOptions) (nested : Nested) : Item → Building (List Block)
  | .known color content =>
      let built := content.buildWith options nested color
      if options.isolate then Building.recover built (leaveNotice content.tag) else built
  | .unknown tag text => Building.single (buildUnknown tag text)
  | .malformed tag error => Building.single (buildMalformed tag error)

/-! ## §3. Items in their places. -/

mutual

/-- The blocks of the item that a value stands for. -/
def buildItem (options : BuildOptions) : Json → Building (List Block)
  | .obj ms =>
      (Item.ofMembers ms).build options
        ⟨buildNested options ms, buildSide options "left" ms, buildSide options "right" ms⟩
  | v => (Item.ofJson v).build options Nested.none
termination_by structural v => v

/-- The blocks of the items of a list, from an index on. -/
def buildFrom (options : BuildOptions) : (index : Nat) → List Json → Building (List Block)
  | _, [] => pure []
  | index, v :: rest => do
      let blocks ← Building.scope [.index index] (buildItem options v)
      let others ← buildFrom options (index + 1) rest
      pure (blocks ++ others)
termination_by structural _ vs => vs

/-- The blocks of the nested items among members. -/
def buildNested (options : BuildOptions) : List (String × Json) → Building (List Block)
  | [] => pure []
  | (key, v) :: rest =>
      if key = "children" then Building.scope [.key "children"] (buildArray options v)
      else buildNested options rest
termination_by structural ms => ms

/-- The blocks of the items of an array; none for any other value. -/
def buildArray (options : BuildOptions) : Json → Building (List Block)
  | .arr vs => buildFrom options 0 vs
  | _ => pure []
termination_by structural v => v

/-- The blocks of the items that are nested in a side. -/
def buildSide (options : BuildOptions) (side : String) :
    List (String × Json) → Building (List Block)
  | [] => pure []
  | (key, v) :: rest =>
      if key = side then buildWithin options v else buildSide options side rest
termination_by structural ms => ms

/-- The blocks of the items that are nested in an object; none for any other value. -/
def buildWithin (options : BuildOptions) : Json → Building (List Block)
  | .obj ms => buildNested options ms
  | _ => pure []
termination_by structural v => v

end

/-- The blocks of a list of items. -/
def buildItems (options : BuildOptions) (items : List Json) : Building (List Block) :=
  buildFrom options 0 items

end Syllabus
