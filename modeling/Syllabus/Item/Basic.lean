/-
  Syllabus.Item.Basic
  ───────────────────
  **CONTENT ITEMS, ONE SHAPE FOR EACH GROUP OF TAGS.**

  An item that could be read has the fields of its group, with the defaults of
  those that the author left out.  Nested items stay as they were written and
  are read when they are built.  Nothing is lost on the way: an item with an
  unrecognised tag and an item whose fields do not fit are items too.
-/
import Syllabus.Item.Tag
import Syllabus.Json.Basic

namespace Syllabus

/-! ## §1. Text with styles. -/

/-- A piece of text that the author styled, in which markup means nothing. -/
structure Segment where
  /-- The text. -/
  text : String := ""
  /-- In bold. -/
  bold : Bool := false
  /-- In italics. -/
  italic : Bool := false
  /-- Struck through. -/
  strikethrough : Bool := false
  /-- Underlined. -/
  underline : Bool := false
  /-- In a fixed-width font. -/
  code : Bool := false
  /-- The name of a color. -/
  color : String := "default"
  /-- Where the text links to. -/
  link : Option String := none
  deriving DecidableEq, Repr

/-- The text of an item: with markup, or in styled segments. -/
inductive Wording where
  /-- A text in which markup counts. -/
  | plain (text : String)
  /-- Styled segments. -/
  | segments (segments : List Segment)
  deriving DecidableEq, Repr

/-! ## §2. The fields of each group. -/

/-- The fields of a text. -/
structure TextFields where
  /-- What it says. -/
  text : Wording := .plain ""
  /-- The icon of a callout. -/
  icon : Option String := none
  /-- Whether a heading can be folded. -/
  toggleable : Bool := false
  /-- Nested items. -/
  children : List Json := []
  deriving DecidableEq

/-- The fields of a code block. -/
structure CodeFields where
  /-- The code. -/
  code : String := ""
  /-- The code, if it is not under its own name. -/
  text : String := ""
  /-- The language that it is in. -/
  language : String := "javascript"
  /-- A caption. -/
  caption : Option String := none
  deriving DecidableEq

/-- The fields of an equation. -/
structure EquationFields where
  /-- The equation. -/
  expression : String := ""
  /-- The equation, if it is not under its own name. -/
  text : String := ""
  deriving DecidableEq

/-- A line of code and what it does. -/
structure Explanation where
  /-- The line. -/
  line : String := ""
  /-- What it does. -/
  explanation : String := ""
  deriving DecidableEq

/-- The fields of a code block that is explained. -/
structure ExplainedCodeFields where
  /-- The code. -/
  code : String := ""
  /-- The code, if it is not under its own name. -/
  text : String := ""
  /-- The language that it is in. -/
  language : String := "javascript"
  /-- The explanations. -/
  explanations : List Explanation := []
  deriving DecidableEq

/-- The fields of a list entry. -/
structure EntryFields where
  /-- What it says. -/
  text : Wording := .plain ""
  /-- Whether its box is ticked. -/
  checked : Bool := false
  /-- Nested items. -/
  children : List Json := []
  deriving DecidableEq

/-- The fields of a toggle. -/
structure ToggleFields where
  /-- The text that is always visible. -/
  text : Wording := .plain ""
  /-- Nested items. -/
  children : List Json := []
  deriving DecidableEq

/-- The fields of a media item. -/
structure MediaFields where
  /-- Where it is. -/
  url : String := ""
  /-- A caption. -/
  caption : Option String := none
  /-- The name of a file. -/
  name : Option String := none
  deriving DecidableEq

/-- The fields of a table. -/
structure TableFields where
  /-- Its rows. -/
  rows : List (List String) := []
  /-- A row of headers on top of them. -/
  headers : Option (List String) := none
  /-- Whether the first row is a header. -/
  hasColumnHeader : Bool := true
  /-- Whether the first column is a header. -/
  hasRowHeader : Bool := false
  deriving DecidableEq

/-- One side of a comparison. -/
structure SideFields where
  /-- Its title. -/
  title : String := ""
  /-- Its points. -/
  items : List String := []
  /-- Nested items. -/
  children : List Json := []
  deriving DecidableEq

/-- The fields of a comparison. -/
structure ComparisonFields where
  /-- The left side. -/
  left : Option SideFields := none
  /-- The right side. -/
  right : Option SideFields := none
  deriving DecidableEq

/-- The fields of a definition. -/
structure DefinitionFields where
  /-- What is defined. -/
  term : String := ""
  /-- Its definition. -/
  definition : String := ""
  /-- Its definition, if it is not under its own name. -/
  text : String := ""
  deriving DecidableEq

/-- The fields of a step. -/
structure StepFields where
  /-- Its number. -/
  stepNumber : Int := 1
  /-- What to do. -/
  text : String := ""
  /-- What to do, if it is not under the name of a text. -/
  title : String := ""
  /-- How to do it. -/
  description : Option String := none
  /-- How to do it, if there is no description. -/
  caption : Option String := none
  /-- Nested items. -/
  children : List Json := []
  deriving DecidableEq

/-- The fields of an exercise. -/
structure ExerciseFields where
  /-- What to do. -/
  text : String := ""
  /-- What to do, if it is not under the name of a text. -/
  title : String := ""
  /-- Instructions, one by one. -/
  instructions : List String := []
  /-- Instructions, if they are not under their own name. -/
  items : List String := []
  /-- A solution. -/
  solution : Option String := none
  /-- The language of the solution. -/
  language : String := "plain text"
  deriving DecidableEq

/-- The fields of a quiz. -/
structure QuizFields where
  /-- The question. -/
  question : String := ""
  /-- The question, if it is not under its own name. -/
  text : String := ""
  /-- The answers to choose from. -/
  options : List String := []
  /-- Which of them is right, from zero. -/
  correctIndex : Int := 0
  deriving DecidableEq

/-- The fields of learning objectives. -/
structure ObjectivesFields where
  /-- The objectives. -/
  objectives : List String := []
  /-- The objectives, if they are not under their own name. -/
  items : List String := []
  deriving DecidableEq

/-! ## §3. Items. -/

/-- A content item whose tag is known and whose fields fit. -/
inductive Content where
  /-- A text. -/
  | text (kind : TextKind) (fields : TextFields)
  /-- A note. -/
  | note (kind : NoteKind) (text : String)
  /-- A code block. -/
  | code (fields : CodeFields)
  /-- An equation. -/
  | equation (fields : EquationFields)
  /-- A code block explained line by line. -/
  | codeWithExplanation (fields : ExplainedCodeFields)
  /-- One entry of a list. -/
  | entry (kind : ListKind) (fields : EntryFields)
  /-- A whole list. -/
  | group (kind : ListKind) (items : List String)
  /-- A collapsed text. -/
  | toggle (fields : ToggleFields)
  /-- What a URL points to. -/
  | media (tag : MediaTag) (fields : MediaFields)
  /-- Layout without content. -/
  | layout (kind : LayoutKind)
  /-- A table. -/
  | table (fields : TableFields)
  /-- Two sides next to each other. -/
  | comparison (fields : ComparisonFields)
  /-- A term and its definition. -/
  | definition (fields : DefinitionFields)
  /-- A numbered step. -/
  | step (fields : StepFields)
  /-- An exercise. -/
  | exercise (fields : ExerciseFields)
  /-- A question with several answers. -/
  | quiz (fields : QuizFields)
  /-- The key points of a chapter. -/
  | summary (items : List String)
  /-- Learning objectives. -/
  | objectives (fields : ObjectivesFields)
  /-- What has to be known before. -/
  | prerequisites (items : List String)
  /-- How many minutes it takes. -/
  | estimatedTime (minutes : Int)
  /-- A block whose content may be shown elsewhere too. -/
  | syncedBlock (children : List Json)
  /-- The content of a block that is somewhere else. -/
  | syncedBlockReference (blockId : String)
  deriving DecidableEq

/-- A content item. -/
inductive Item where
  /-- A known item, with the color that the author gave it. -/
  | known (color : Option String) (content : Content)
  /-- An item with an unrecognised tag, as the author wrote it. -/
  | unknown (tag : String) (text : String)
  /-- An item whose fields do not fit its tag, or a value that is no item at all. -/
  | malformed (tag : String) (error : String)
  deriving DecidableEq

/-- The tag of known content. -/
def Content.tag : Content → Tag
  | .text kind _ => .text kind
  | .note kind _ => .note kind
  | .code _ => .code
  | .equation _ => .equation
  | .codeWithExplanation _ => .codeWithExplanation
  | .entry kind _ => .entry kind
  | .group kind _ => .group kind
  | .toggle _ => .toggle
  | .media tag _ => .media tag
  | .layout kind => .layout kind
  | .table _ => .table
  | .comparison _ => .comparison
  | .definition _ => .definition
  | .step _ => .step
  | .exercise _ => .exercise
  | .quiz _ => .quiz
  | .summary _ => .summary
  | .objectives _ => .objectives
  | .prerequisites _ => .prerequisites
  | .estimatedTime _ => .estimatedTime
  | .syncedBlock _ => .syncedBlock
  | .syncedBlockReference _ => .syncedBlockReference

end Syllabus
