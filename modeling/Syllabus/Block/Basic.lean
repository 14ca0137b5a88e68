/-
  Syllabus.Block.Basic
  ────────────────────
  **BLOCKS: WHAT A PAGE IS MADE OF.**

  A page is a list of blocks, and most kinds of blocks may hold further ones.
  `Block.toJson` writes a block in the final form: an envelope that names the
  type of the block, and its payload under that name.  A block that a caller
  hands over ready-made is passed on.
-/
import Syllabus.Item.Tag
import Syllabus.RichText.Run

namespace Syllabus

/-! ## §1. The type. -/

/-- The level of a heading. -/
inductive HeadingLevel where
  /-- The highest. -/
  | one
  /-- The middle one. -/
  | two
  /-- The lowest. -/
  | three
  deriving DecidableEq, Repr

/-- The number of a level. -/
def HeadingLevel.number : HeadingLevel → Nat
  | .one => 1
  | .two => 2
  | .three => 3

/-- What marks an entry of a list. -/
inductive Marker where
  /-- A bullet. -/
  | bullet
  /-- A number. -/
  | number
  /-- A box, ticked or not. -/
  | box (checked : Bool)
  deriving DecidableEq, Repr

/-- What is shown from an address elsewhere. -/
inductive MediaKind where
  /-- An image. -/
  | image
  /-- A video. -/
  | video
  /-- A sound. -/
  | audio
  /-- A PDF document. -/
  | pdf
  deriving DecidableEq, Repr

/-- The name of a kind of media. -/
def MediaKind.name : MediaKind → String
  | .image => "image"
  | .video => "video"
  | .audio => "audio"
  | .pdf => "pdf"

/-- A block. -/
inductive Block where
  /-- A paragraph. -/
  | paragraph (text : List Run) (color : String) (children : List Block)
  /-- A heading. -/
  | heading (level : HeadingLevel) (text : List Run) (color : String) (toggleable : Bool)
      (children : List Block)
  /-- A box with an icon. -/
  | callout (text : List Run) (icon : String) (color : String) (children : List Block)
  /-- A block quote. -/
  | quote (text : List Run) (color : String) (children : List Block)
  /-- An entry of a list. -/
  | entry (marker : Marker) (text : List Run) (color : String) (children : List Block)
  /-- A text that hides blocks until it is opened. -/
  | toggle (text : List Run) (color : String) (children : List Block)
  /-- Code. -/
  | code (text : List Run) (language : String) (caption : List Run)
  /-- An equation. -/
  | equation (expression : String)
  /-- Media at a URL. -/
  | media (kind : MediaKind) (url : String) (caption : List Run)
  /-- A file at a URL. -/
  | file (url : String) (caption : List Run) (name : String)
  /-- An embedded page. -/
  | embed (url : String)
  /-- A bookmark. -/
  | bookmark (url : String) (caption : List Run)
  /-- A horizontal rule. -/
  | divider
  /-- A table of contents. -/
  | tableOfContents (color : String)
  /-- A breadcrumb trail. -/
  | breadcrumb
  /-- Columns next to each other, each with its blocks and a width ratio or `null`. -/
  | columns (parts : List (List Block × Json))
  /-- A table: its width, whether it has headers, and its cells row by row. -/
  | table (width : Nat) (columnHeader rowHeader : Bool) (rows : List (List (List Run)))
  /-- A block that may be shown elsewhere too. -/
  | synced (children : List Block)
  /-- What a synced block elsewhere shows. -/
  | syncedReference (blockId : String)
  /-- A block that was handed over in its final form. -/
  | given (value : Json)

namespace Block

/-- The blocks among values that are handed over, in which `null` stands for no block. -/
def givenList (vs : List Json) : List Block := (vs.filter fun v => v ≠ .null).map .given

/-! ## §2. The final form. -/

/-- A payload in the envelope of a type. -/
def envelope (type : String) (payload : List (String × Json)) : Json :=
  .obj [("object", .str "block"), ("type", .str type), (type, .obj payload)]

/-- The children member, unless there are none. -/
def childrenMember (children : List Json) : List (String × Json) :=
  if children.isEmpty then [] else [("children", .arr children)]

/-- The type of a list entry. -/
def Marker.typeName : Marker → String
  | .bullet => "bulleted_list_item"
  | .number => "numbered_list_item"
  | .box _ => "to_do"

/-- What a list entry has besides its text. -/
def Marker.members : Marker → List (String × Json)
  | .box checked => [("checked", .bool checked)]
  | _ => []

/-- One row of a table. -/
def rowJson (row : List (List Run)) : Json :=
  envelope "table_row" [("cells", .arr (row.map Run.listJson))]

/-- The width member of a column, unless it is `null`. -/
def widthMember (width : Json) : List (String × Json) :=
  if width = .null then [] else [("width_ratio", width)]

mutual

/-- A block in its final form. -/
def toJson : Block → Json
  | .paragraph text color children =>
      envelope "paragraph"
        ([("rich_text", Run.listJson text), ("color", .str color)]
          ++ childrenMember (listToJson children))
  | .heading level text color toggleable children =>
      envelope s!"heading_{level.number}"
        ([("rich_text", Run.listJson text), ("color", .str color),
          ("is_toggleable", .bool toggleable)] ++ childrenMember (listToJson children))
  | .callout text icon color children =>
      envelope "callout"
        ([("rich_text", Run.listJson text),
          ("icon", .obj [("type", .str "emoji"), ("emoji", .str icon)]), ("color", .str color)]
          ++ childrenMember (listToJson children))
  | .quote text color children =>
      envelope "quote"
        ([("rich_text", Run.listJson text), ("color", .str color)]
          ++ childrenMember (listToJson children))
  | .entry marker text color children =>
      envelope (Marker.typeName marker)
        ([("rich_text", Run.listJson text)] ++ Marker.members marker ++ [("color", .str color)]
          ++ childrenMember (listToJson children))
  | .toggle text color children =>
      envelope "toggle"
        [("rich_text", Run.listJson text), ("color", .str color),
          ("children", .arr (listToJson children))]
  | .code text language caption =>
      envelope "code"
        [("rich_text", Run.listJson text), ("language", .str language),
          ("caption", Run.listJson caption)]
  | .equation expression => envelope "equation" [("expression", .str expression)]
  | .media kind url caption =>
      envelope kind.name
        [("type", .str "external"), ("external", .obj [("url", .str url)]),
          ("caption", Run.listJson caption)]
  | .file url caption name =>
      envelope "file"
        [("type", .str "external"), ("external", .obj [("url", .str url)]),
          ("caption", Run.listJson caption), ("name", .str name)]
  | .embed url => envelope "embed" [("url", .str url)]
  | .bookmark url caption =>
      envelope "bookmark" [("url", .str url), ("caption", Run.listJson caption)]
  | .divider => envelope "divider" []
  | .tableOfContents color => envelope "table_of_contents" [("color", .str color)]
  | .breadcrumb => envelope "breadcrumb" []
  | .columns parts => envelope "column_list" [("children", .arr (columnsToJson parts))]
  | .table width columnHeader rowHeader rows =>
      envelope "table"
        [("table_width", .nat width), ("has_column_header", .bool columnHeader),
          ("has_row_header", .bool rowHeader), ("children", .arr (rows.map rowJson))]
  | .synced children =>
      envelope "synced_block" [("synced_from", .null), ("children", .arr (listToJson children))]
  | .syncedReference blockId =>
      envelope "synced_block" [("synced_from", .obj [("block_id", .str blockId)])]
  | .given value => value
termination_by structural b => b

/-- Blocks in their final form. -/
def listToJson : List Block → List Json
  | [] => []
  | b :: rest => toJson b :: listToJson rest
termination_by structural bs => bs

/-- Columns in their final form. -/
def columnsToJson : List (List Block × Json) → List Json
  | [] => []
  | (blocks, width) :: rest =>
      envelope "column" (("children", .arr (listToJson blocks)) :: widthMember width)
        :: columnsToJson rest
termination_by structural cs => cs

end

end Block

end Syllabus
