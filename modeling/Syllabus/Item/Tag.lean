/-
  Syllabus.Item.Tag
  ─────────────────
  **THE CLOSED SET OF ITEM TYPES.**

  Every content item names its type by a tag.  There are 43 canonical tags,
  grouped by the fields that their items have, and seven synonyms.  A tag is
  trimmed before it is looked up; the catalogue lists what authors may write.
-/
import Syllabus.Text.Blank

namespace Syllabus

/-! ## §1. The tags. -/

/-- The items that are a text of their own. -/
inductive TextKind where
  /-- A paragraph. -/
  | paragraph
  /-- A heading of the first level. -/
  | heading1
  /-- A heading of the second level. -/
  | heading2
  /-- A heading of the third level. -/
  | heading3
  /-- A block quote. -/
  | quote
  /-- A callout. -/
  | callout
  deriving DecidableEq, Repr

/-- The kinds of notes. -/
inductive NoteKind where
  /-- Useful information. -/
  | info
  /-- Something to be careful about. -/
  | warning
  /-- Good advice. -/
  | tip
  /-- Something to stay away from. -/
  | danger
  deriving DecidableEq, Repr

/-- The kinds of lists. -/
inductive ListKind where
  /-- With bullets. -/
  | bulleted
  /-- With numbers. -/
  | numbered
  /-- With boxes to tick. -/
  | checklist
  deriving DecidableEq, Repr

/-- The items that show what a URL points to. -/
inductive MediaTag where
  /-- An image. -/
  | image
  /-- A video. -/
  | video
  /-- An audio file. -/
  | audio
  /-- A PDF document. -/
  | pdf
  /-- A file to download. -/
  | file
  /-- An embedded page. -/
  | embed
  /-- A bookmark. -/
  | bookmark
  /-- A link preview. -/
  | linkPreview
  deriving DecidableEq, Repr

/-- The items without content of their own. -/
inductive LayoutKind where
  /-- A horizontal rule. -/
  | divider
  /-- A table of contents. -/
  | tableOfContents
  /-- A breadcrumb trail. -/
  | breadcrumb
  deriving DecidableEq, Repr

/-- The type of a content item. -/
inductive Tag where
  /-- A text. -/
  | text (kind : TextKind)
  /-- A note. -/
  | note (kind : NoteKind)
  /-- A code block. -/
  | code
  /-- An equation. -/
  | equation
  /-- A code block explained line by line. -/
  | codeWithExplanation
  /-- One entry of a list. -/
  | entry (kind : ListKind)
  /-- A whole list. -/
  | group (kind : ListKind)
  /-- A collapsed text. -/
  | toggle
  /-- What a URL points to. -/
  | media (tag : MediaTag)
  /-- Layout without content. -/
  | layout (kind : LayoutKind)
  /-- A table. -/
  | table
  /-- Two sides next to each other. -/
  | comparison
  /-- A term and its definition. -/
  | definition
  /-- A numbered step. -/
  | step
  /-- An exercise. -/
  | exercise
  /-- A question with several answers. -/
  | quiz
  /-- The key points of a chapter. -/
  | summary
  /-- Learning objectives. -/
  | objectives
  /-- What has to be known before. -/
  | prerequisites
  /-- How long it takes. -/
  | estimatedTime
  /-- A block whose content may be shown elsewhere too. -/
  | syncedBlock
  /-- The content of a block that is somewhere else. -/
  | syncedBlockReference
  deriving DecidableEq, Repr

namespace Tag

/-! ## §2. Their names. -/

/-- The canonical name of a tag. -/
def name : Tag → String
  | .text .paragraph => "paragraph"
  | .text .heading1 => "heading1"
  | .text .heading2 => "heading2"
  | .text .heading3 => "heading3"
  | .text .quote => "quote"
  | .text .callout => "callout"
  | .note .info => "info"
  | .note .warning => "warning"
  | .note .tip => "tip"
  | .note .danger => "danger"
  | .code => "code"
  | .equation => "equation"
  | .codeWithExplanation => "codeWithExplanation"
  | .entry .bulleted => "bullet"
  | .entry .numbered => "numbered"
  | .entry .checklist => "todo"
  | .group .bulleted => "bullets"
  | .group .numbered => "numberedList"
  | .group .checklist => "todoList"
  | .toggle => "toggle"
  | .media .image => "image"
  | .media .video => "video"
  | .media .audio => "audio"
  | .media .pdf => "pdf"
  | .media .file => "file"
  | .media .embed => "embed"
  | .media .bookmark => "bookmark"
  | .media .linkPreview => "linkPreview"
  | .layout .divider => "divider"
  | .layout .tableOfContents => "tableOfContents"
  | .layout .breadcrumb => "breadcrumb"
  | .table => "table"
  | .comparison => "comparison"
  | .definition => "definition"
  | .step => "step"
  | .exercise => "exercise"
  | .quiz => "quiz"
  | .summary => "summary"
  | .objectives => "objectives"
  | .prerequisites => "prerequisites"
  | .estimatedTime => "estimatedTime"
  | .syncedBlock => "syncedBlock"
  | .syncedBlockReference => "syncedBlockReference"

/-- All tags. -/
def all : List Tag :=
  [.text .paragraph, .text .heading1, .text .heading2, .text .heading3, .text .quote,
    .text .callout, .note .info, .note .warning, .note .tip, .note .danger, .code, .equation,
    .codeWithExplanation, .entry .bulleted, .entry .numbered, .entry .checklist,
    .group .bulleted, .group .numbered, .group .checklist, .toggle, .media .image, .media .video,
    .media .audio, .media .pdf, .media .file, .media .embed, .media .bookmark,
    .media .linkPreview, .layout .divider, .layout .tableOfContents, .layout .breadcrumb, .table,
    .comparison, .definition, .step, .exercise, .quiz, .summary, .objectives, .prerequisites,
    .estimatedTime, .syncedBlock, .syncedBlockReference]

/-- Other names that authors use, and the tags they stand for. -/
def synonyms : List (String × Tag) :=
  [("bulletedListItem", .entry .bulleted), ("numberedListItem", .entry .numbered),
    ("columns", .comparison), ("exercice", .exercise), ("quickQuiz", .quiz),
    ("chapterSummary", .summary), ("learningObjectives", .objectives)]

/-- The tag of a name as it stands, synonyms included. -/
def ofName? (s : String) : Option Tag :=
  match all.find? (·.name = s) with
  | some tag => some tag
  | none => synonyms.lookup s

/-- The tag that an author's text names, apart from blanks around it. -/
def resolve? (s : String) : Option Tag := ofName? (Text.strip s)

/-! ## §3. The catalogue. -/

/-- The names that authors may use, in groups. -/
def catalogue : List (String × List String) :=
  [("text", ["paragraph", "heading1", "heading2", "heading3", "quote", "callout"]),
    ("notes", ["info", "warning", "tip", "danger"]),
    ("lists", ["bullet", "bullets", "numbered", "numberedList", "todo", "todoList", "toggle"]),
    ("media", ["image", "video", "audio", "pdf", "file", "embed", "bookmark", "linkPreview"]),
    ("code", ["code", "equation", "codeWithExplanation"]),
    ("layout", ["divider", "table", "columns", "comparison", "tableOfContents", "breadcrumb",
      "syncedBlock", "syncedBlockReference"]),
    ("courseTemplates", ["definition", "step", "exercice", "exercise", "quiz", "quickQuiz",
      "summary", "objectives", "prerequisites", "estimatedTime"])]

end Tag

end Syllabus
