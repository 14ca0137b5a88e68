/-
  Syllabus.Item.Reading
  ─────────────────────
  **READING ITEMS: EVERY VALUE IS SOME ITEM.**

  `Item.ofJson` never fails.  A bare string is a paragraph.  An object is read
  by its tag; members that are `null` count as absent, and numbers in lists of
  texts stand for their own text.  What does not fit is a malformed item that
  carries the report.
-/
import Syllabus.Conversion
import Syllabus.Item.Basic
import Syllabus.Json.Shown

namespace Syllabus

/-! ## §1. Numbers among texts. -/

/-- The members whose entries are texts. -/
def textListNames : List String := ["options", "items", "instructions", "objectives", "headers"]

/-- The members that hold the sides of a comparison. -/
def sideNames : List String := ["left", "right"]

/-- A number as its text; any other value as it is. -/
def numberText : Json → Json
  | .int n => .str (Decimal.decimal n)
  | .float x => .str (Json.numberLayout.text x)
  | v => v

/-- The numbers in a list as texts. -/
def numberTexts : Json → Json
  | .arr vs => .arr (vs.map numberText)
  | v => v

/-- The numbers in the cells of rows as texts. -/
def cellTexts : Json → Json
  | .arr rows => .arr (rows.map numberTexts)
  | v => v

/-- A member with its numbers among texts as texts. -/
def textMember (name : String) (v : Json) : Json :=
  if textListNames.contains name then numberTexts v
  else if name = "rows" then cellTexts v
  else v

/-- The side of a comparison as it is read: without `null` members, and with numbers among texts as
texts. -/
def sideMember (name : String) (v : Json) : Json :=
  match v with
  | .obj ms =>
      if sideNames.contains name then
        .obj ((Json.withoutNulls ms).map fun (k, v) => (k, textMember k v))
      else .obj ms
  | v => v

/-- The members of an item as they are read. -/
def readableMembers (ms : List (String × Json)) : List (String × Json) :=
  (Json.withoutNulls ms).map fun (k, v) => (k, sideMember k (textMember k v))

/-! ## §2. Segments and wordings. -/

/-- The fields of a segment. -/
def Segment.fields : List (Field Segment) :=
  [.of "text" Converter.text (fun a s => { s with text := a }),
    .of "bold" Converter.truth (fun a s => { s with bold := a }),
    .of "italic" Converter.truth (fun a s => { s with italic := a }),
    .of "strikethrough" Converter.truth (fun a s => { s with strikethrough := a }),
    .of "underline" Converter.truth (fun a s => { s with underline := a }),
    .of "code" Converter.truth (fun a s => { s with code := a }),
    .of "color" Converter.text (fun a s => { s with color := a }),
    .of "link" Converter.optionalText (fun a s => { s with link := a })]

namespace Converter

/-- A styled segment. -/
def segment : Converter Segment := record Segment.fields {}

/-- A text, or styled segments. -/
def wording : Converter Wording
  | .str s => .ok (.plain s)
  | .arr vs => (itemsFrom segment 0 vs).map .segments
  | v => mismatch .textOrList v

/-- Texts. -/
def texts : Converter (List String) := list text

/-- Nested items, as they are written. -/
def nested : Converter (List Json) := list anything

end Converter

/-! ## §3. The fields of each group. -/

/-- The fields of a text. -/
def TextFields.fields : List (Field TextFields) :=
  [.of "text" Converter.wording (fun a r => { r with text := a }),
    .of "icon" Converter.optionalText (fun a r => { r with icon := a }),
    .of "toggleable" Converter.truth (fun a r => { r with toggleable := a }),
    .of "children" Converter.nested (fun a r => { r with children := a })]

/-- The fields of a code block. -/
def CodeFields.fields : List (Field CodeFields) :=
  [.of "code" Converter.text (fun a r => { r with code := a }),
    .of "text" Converter.text (fun a r => { r with text := a }),
    .of "language" Converter.text (fun a r => { r with language := a }),
    .of "caption" Converter.optionalText (fun a r => { r with caption := a })]

/-- The fields of an equation. -/
def EquationFields.fields : List (Field EquationFields) :=
  [.of "expression" Converter.text (fun a r => { r with expression := a }),
    .of "text" Converter.text (fun a r => { r with text := a })]

/-- The fields of an explanation. -/
def Explanation.fields : List (Field Explanation) :=
  [.of "line" Converter.text (fun a r => { r with line := a }),
    .of "explanation" Converter.text (fun a r => { r with explanation := a })]

/-- The fields of a code block that is explained. -/
def ExplainedCodeFields.fields : List (Field ExplainedCodeFields) :=
  [.of "code" Converter.text (fun a r => { r with code := a }),
    .of "text" Converter.text (fun a r => { r with text := a }),
    .of "language" Converter.text (fun a r => { r with language := a }),
    .of "explanations" (Converter.list (Converter.record Explanation.fields {}))
      (fun a r => { r with explanations := a })]

/-- The fields of a list entry. -/
def EntryFields.fields : List (Field EntryFields) :=
  [.of "text" Converter.wording (fun a r => { r with text := a }),
    .of "checked" Converter.truth (fun a r => { r with checked := a }),
    .of "children" Converter.nested (fun a r => { r with children := a })]

/-- The fields of a toggle. -/
def ToggleFields.fields : List (Field ToggleFields) :=
  [.of "text" Converter.wording (fun a r => { r with text := a }),
    .of "children" Converter.nested (fun a r => { r with children := a })]

/-- The fields of a media item. -/
def MediaFields.fields : List (Field MediaFields) :=
  [.of "url" Converter.text (fun a r => { r with url := a }),
    .of "caption" Converter.optionalText (fun a r => { r with caption := a }),
    .of "name" Converter.optionalText (fun a r => { r with name := a })]

/-- The fields of a table. -/
def TableFields.fields : List (Field TableFields) :=
  [.of "rows" (Converter.list Converter.texts) (fun a r => { r with rows := a }),
    .of "headers" (Converter.optionalList Converter.text) (fun a r => { r with headers := a }),
    .of "hasColumnHeader" Converter.truth (fun a r => { r with hasColumnHeader := a }),
    .of "hasRowHeader" Converter.truth (fun a r => { r with hasRowHeader := a })]

/-- The fields of one side of a comparison. -/
def SideFields.fields : List (Field SideFields) :=
  [.of "title" Converter.text (fun a r => { r with title := a }),
    .of "items" Converter.texts (fun a r => { r with items := a }),
    .of "children" Converter.nested (fun a r => { r with children := a })]

/-- The fields of a comparison. -/
def ComparisonFields.fields : List (Field ComparisonFields) :=
  [.of "left" (Converter.optionalRecord SideFields.fields {}) (fun a r => { r with left := a }),
    .of "right" (Converter.optionalRecord SideFields.fields {}) (fun a r => { r with right := a })]

/-- The fields of a definition. -/
def DefinitionFields.fields : List (Field DefinitionFields) :=
  [.of "term" Converter.text (fun a r => { r with term := a }),
    .of "definition" Converter.text (fun a r => { r with definition := a }),
    .of "text" Converter.text (fun a r => { r with text := a })]

/-- The fields of a step. -/
def StepFields.fields : List (Field StepFields) :=
  [.of "stepNumber" Converter.integer (fun a r => { r with stepNumber := a }),
    .of "text" Converter.text (fun a r => { r with text := a }),
    .of "title" Converter.text (fun a r => { r with title := a }),
    .of "description" Converter.optionalText (fun a r => { r with description := a }),
    .of "caption" Converter.optionalText (fun a r => { r with caption := a }),
    .of "children" Converter.nested (fun a r => { r with children := a })]

/-- The fields of an exercise. -/
def ExerciseFields.fields : List (Field ExerciseFields) :=
  [.of "text" Converter.text (fun a r => { r with text := a }),
    .of "title" Converter.text (fun a r => { r with title := a }),
    .of "instructions" Converter.texts (fun a r => { r with instructions := a }),
    .of "items" Converter.texts (fun a r => { r with items := a }),
    .of "solution" Converter.optionalText (fun a r => { r with solution := a }),
    .of "language" Converter.text (fun a r => { r with language := a })]

/-- The fields of a quiz. -/
def QuizFields.fields : List (Field QuizFields) :=
  [.of "question" Converter.text (fun a r => { r with question := a }),
    .of "text" Converter.text (fun a r => { r with text := a }),
    .of "options" Converter.texts (fun a r => { r with options := a }),
    .of "correctIndex" Converter.integer (fun a r => { r with correctIndex := a })]

/-- The fields of learning objectives. -/
def ObjectivesFields.fields : List (Field ObjectivesFields) :=
  [.of "objectives" Converter.texts (fun a r => { r with objectives := a }),
    .of "items" Converter.texts (fun a r => { r with items := a })]

/-! ## §4. Records with a color. -/

/-- The color of an item together with its own fields. -/
abbrev Colored (σ : Type) := Option String × σ

/-- The fields of an item: its color, and those of its group. -/
def Colored.fields {σ : Type} (own : List (Field σ)) : List (Field (Colored σ)) :=
  .of "color" Converter.optionalText (fun a r => (a, r.2))
    :: own.map fun f => { name := f.name, put := fun v r => (f.put v r.2).map fun s => (r.1, s) }

/-- Reads the members of an item into its color and content. -/
def readContent {σ : Type} (own : List (Field σ)) (defaults : σ) (build : σ → Content)
    (ms : List (String × Json)) : Except ConversionError (Option String × Content) :=
  (readMembers (Colored.fields own) ms (none, defaults)).map fun (color, r) => (color, build r)

/-- The content that members describe under a tag. -/
def Content.ofMembers (ms : List (String × Json)) :
    Tag → Except ConversionError (Option String × Content)
  | .text kind => readContent TextFields.fields {} (.text kind) ms
  | .note kind =>
      readContent [.of "text" Converter.text (fun a _ => a)] "" (.note kind) ms
  | .code => readContent CodeFields.fields {} .code ms
  | .equation => readContent EquationFields.fields {} .equation ms
  | .codeWithExplanation => readContent ExplainedCodeFields.fields {} .codeWithExplanation ms
  | .entry kind => readContent EntryFields.fields {} (.entry kind) ms
  | .group kind =>
      readContent [.of "items" Converter.texts (fun a _ => a)] [] (.group kind) ms
  | .toggle => readContent ToggleFields.fields {} .toggle ms
  | .media tag => readContent MediaFields.fields {} (.media tag) ms
  | .layout kind => readContent [] () (fun _ => .layout kind) ms
  | .table => readContent TableFields.fields {} .table ms
  | .comparison => readContent ComparisonFields.fields {} .comparison ms
  | .definition => readContent DefinitionFields.fields {} .definition ms
  | .step => readContent StepFields.fields {} .step ms
  | .exercise => readContent ExerciseFields.fields {} .exercise ms
  | .quiz => readContent QuizFields.fields {} .quiz ms
  | .summary => readContent [.of "items" Converter.texts (fun a _ => a)] [] .summary ms
  | .objectives => readContent ObjectivesFields.fields {} .objectives ms
  | .prerequisites =>
      readContent [.of "items" Converter.texts (fun a _ => a)] [] .prerequisites ms
  | .estimatedTime =>
      readContent [.of "minutes" Converter.integer (fun a _ => a)] 30 .estimatedTime ms
  | .syncedBlock =>
      readContent [.of "children" Converter.nested (fun a _ => a)] [] .syncedBlock ms
  | .syncedBlockReference =>
      readContent [.of "blockId" Converter.text (fun a _ => a)] "" .syncedBlockReference ms

/-! ## §5. Items. -/

/-- The tag that a value names. -/
def Tag.ofJson? : Json → Option Tag
  | .str s => Tag.resolve? s
  | _ => none

namespace Item

/-- The report of a value that is no item. -/
def notAnObject : String := "content item must be an object"

/-- What an unrecognised tag is called; an absent one is empty. -/
def unknownTag : Json → String
  | .null => ""
  | v => v.shown

/-- The item that the members of an object describe. -/
def ofMembers (ms : List (String × Json)) : Item :=
  let named := (Json.lookup "type" ms).getD .null
  match Tag.ofJson? named with
  | none => .unknown (unknownTag named) (((Json.lookup "text" ms).bind Json.str?).getD "")
  | some tag =>
      match Content.ofMembers (readableMembers ms) tag with
      | .ok (color, content) => .known color content
      | .error e => .malformed tag.name e.message

/-- The item that a value stands for. -/
def ofJson : Json → Item
  | .str s => .known none (.text .paragraph { text := .plain s })
  | .obj ms => ofMembers ms
  | v => .malformed v.entryKind notAnObject

/-- The tag of an item that could be read. -/
def tag? : Item → Option Tag
  | .known _ content => some content.tag
  | _ => none

/-- Whether the item is one that does not fit. -/
def isMalformed : Item → Bool
  | .malformed .. => true
  | _ => false

end Item

end Syllabus
