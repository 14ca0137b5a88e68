/-
  Syllabus.Block.Building
  ───────────────────────
  **ONE BUILDER FOR EACH KIND OF BLOCK.**

  A builder never fails.  A paragraph without text is no block at all; every
  other block that must show a text shows a blank run.  Where a URL is needed
  and what was given is no absolute web address, a paragraph that names it
  stands in its place and the fault is reported.  Code that is too long is
  cut, and its cut is marked and reported.
-/
import Syllabus.Block.Basic
import Syllabus.Language
import Syllabus.RichText.Input

namespace Syllabus.Block

/-! ## §1. Parts of blocks. -/

/-- A color of a block. -/
def colored (color : String) : String := Color.normalize color Color.default

/-- The runs of a caption; a blank one has none. -/
def captionRuns (caption : Option String) : List Run :=
  match caption with
  | some s => if Text.isBlank s then [] else [Run.plain s]
  | none => []

/-- A paragraph of one run in which markup means nothing. -/
def notice (text : String) : Block := .paragraph [Run.plain text] Color.default []

/-! ## §2. Texts. -/

/-- A paragraph, unless there is nothing to show. -/
def makeParagraph (input : TextInput) (color : String) (children : List Block) (markup : Bool) :
    Writing (Option Block) := do
  match ← input.runs? markup with
  | some runs => pure (some (.paragraph runs (colored color) children))
  | none => pure none

/-- A heading.  Only a heading that can be folded keeps children. -/
def makeHeading (level : HeadingLevel) (input : TextInput) (color : String) (toggleable : Bool)
    (children : List Block) (markup : Bool) : Writing Block := do
  let runs ← input.runsOrBlank markup
  pure (.heading level runs (colored color) toggleable (if toggleable then children else []))

/-- The icon of a callout without one. -/
def defaultIcon : String := "💡"

/-- A callout; without an icon it gets the default one. -/
def makeCallout (input : TextInput) (icon : String) (color : String) (children : List Block)
    (markup : Bool) : Writing Block := do
  let runs ← input.runsOrBlank markup
  pure (.callout runs (if icon.isEmpty then defaultIcon else icon) (colored color) children)

/-- A block quote. -/
def makeQuote (input : TextInput) (color : String) (children : List Block) (markup : Bool) :
    Writing Block := do
  let runs ← input.runsOrBlank markup
  pure (.quote runs (colored color) children)

/-- A list entry. -/
def makeEntry (marker : Marker) (input : TextInput) (color : String) (children : List Block)
    (markup : Bool) : Writing Block := do
  let runs ← input.runsOrBlank markup
  pure (.entry marker runs (colored color) children)

/-- A toggle. -/
def makeToggle (input : TextInput) (color : String) (children : List Block) (markup : Bool) :
    Writing Block := do
  let runs ← input.runsOrBlank markup
  pure (.toggle runs (colored color) children)

/-- The level that a value gives, if it gives one. -/
def levelOf? : Json → Option HeadingLevel
  | .int 1 => some .one
  | .int 2 => some .two
  | .int 3 => some .three
  | _ => none

/-- The report of a value that gives no level. -/
def badLevelMessage (v : Json) : String := "heading level must be 1, 2 or 3, got " ++ v.shown

/-! ## §3. Code and equations. -/

/-- The most characters of a code block. -/
def maxCodeChars : Nat := 50000

/-- What code that is cut ends in. -/
def truncationMark : String := "\n\n// ... code truncated"

/-- Consecutive pieces of at most `size + 1` items.  The budget bounds their number. -/
def piecesOf {α : Type} (size : Nat) : (budget : Nat) → List α → List (List α)
  | 0, _ => []
  | budget + 1, xs =>
      if xs.isEmpty then [] else xs.take (size + 1) :: piecesOf size budget (xs.drop (size + 1))

/-- Consecutive pieces of a list, each of `size` items but for the last, which may have fewer.  A
size of zero counts as one. -/
def chunks {α : Type} (size : Nat) (xs : List α) : List (List α) := piecesOf (size - 1) xs.length xs

/-- Consecutive pieces of a text; an empty text is one empty piece. -/
def textChunks (size : Nat) (s : String) : List String :=
  if s.isEmpty then [""] else (chunks size s.toList).map String.ofList

/-- Code without blanks around it, cut if it is too long. -/
def fittedCode (content : String) : Writing String := do
  let code := Text.strip content
  if maxCodeChars < code.length then
    Writing.report .blocks "code_truncated"
      s!"Code block truncated from {code.length} to {maxCodeChars} chars" .warning
    pure (Text.takeChars (maxCodeChars - truncationMark.length) code ++ truncationMark)
  else pure code

/-- A code block.  The code is spread over as many runs as it needs. -/
def makeCode (content : String) (language : Json) (caption : Option String) : Writing Block := do
  let code ← fittedCode content
  pure (.code ((textChunks Run.maxChars code).map Run.plain)
    (Language.ofJson language Language.default) (captionRuns caption))

/-- An equation. -/
def makeEquation (expression : String) : Block := .equation (Text.strip expression)

/-! ## §4. Addresses. -/

/-- The paragraph that stands for a block whose URL is no web address. -/
def badUrl (kind : String) (url : Json) : Writing Block := do
  Writing.report .blocks "invalid_url" (kind ++ ": invalid URL " ++ url.quoted) .warning
  pure (notice ("[Invalid " ++ kind ++ " URL: " ++ url.shown ++ "]"))

/-- A block made from the trimmed URL, if it is an absolute web address. -/
def withUrl (kind : String) (url : Json) (make : String → Block) : Writing Block :=
  match url with
  | .str s => if Url.isWeb s then pure (make (Text.strip s)) else badUrl kind url
  | _ => badUrl kind url

/-- Media at a URL. -/
def makeMedia (kind : MediaKind) (url : Json) (caption : Option String) : Writing Block :=
  withUrl kind.name url fun address => .media kind address (captionRuns caption)

/-- The name of a file without one. -/
def fileName (name : Option String) : String :=
  let trimmed := Text.strip (name.getD "")
  if trimmed.isEmpty then "file" else trimmed

/-- A file at a URL. -/
def makeFile (url : Json) (name caption : Option String) : Writing Block :=
  withUrl "file" url fun address => .file address (captionRuns caption) (fileName name)

/-- An embedded page. -/
def makeEmbed (url : Json) : Writing Block := withUrl "embed" url .embed

/-- A bookmark. -/
def makeBookmark (url : Json) (caption : Option String) : Writing Block :=
  withUrl "bookmark" url fun address => .bookmark address (captionRuns caption)

/-- A bookmark in place of a link preview, which only the remote side can make. -/
def makeLinkPreview (url : Json) (caption : Option String) : Writing Block := do
  Writing.report .blocks "link_preview_downgraded"
    ("link_preview cannot be created through the API; emitting a bookmark for " ++ url.quoted)
    .warning
  makeBookmark url caption

/-! ## §5. Layout. -/

/-- A table of contents. -/
def makeTableOfContents (color : String) : Block := .tableOfContents (colored color)

/-- The runs of a table cell.  A text is shown as it is, a list is read as segments or runs, and any
other value is shown in words. -/
def cellRuns (cell : Json) : Writing (List Run) :=
  match cell with
  | .str s => pure [Run.plain s]
  | .arr _ => Writing.unrecorded ((TextInput.ofJson cell).runsOrBlank true)
  | .null => pure [Run.blank]
  | v => pure [Run.plain v.shown]

/-- A row of a table, brought to its width: longer rows are cut, and shorter ones are filled up with
blank cells. -/
def makeRow (width index : Nat) (row : List Json) : Writing (List (List Run)) := do
  let cells ← (row.take width).mapM cellRuns
  if row.length ≠ width then
    Writing.log .blocks .warning s!"table row {index} has {row.length} cells, expected {width}"
  pure (cells ++ List.replicate (width - cells.length) [Run.blank])

/-- Rows of a table, from an index on. -/
def makeRows (width : Nat) : (index : Nat) → List (List Json) → Writing (List (List (List Run)))
  | _, [] => pure []
  | index, row :: rest => do
      let cells ← makeRow width index row
      let others ← makeRows width (index + 1) rest
      pure (cells :: others)

/-- A table, as wide as its first row. -/
def makeTable (rows : List (List Json)) (columnHeader rowHeader : Bool) : Writing Block := do
  let width := (rows.head?.getD []).length
  let cells ← makeRows width 0 rows
  pure (.table width columnHeader rowHeader cells)

/-- Columns of equal width. -/
def makeColumns (columns : List (List Block)) : Block := .columns (columns.map fun c => (c, .null))

end Syllabus.Block
