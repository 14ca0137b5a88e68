/-
  Syllabus.RichText.Run
  ─────────────────────
  **RUNS: PIECES OF TEXT IN ONE STYLE.**

  A run never is empty and never is long: a blank text becomes one unstyled
  space, and a text of more than 2000 characters is cut and ends in three
  points.  A link that is no absolute web address is reported and dropped, and
  the text stays.  Runs that a caller hands over ready-made are passed on.
-/
import Syllabus.Color
import Syllabus.Item.Basic
import Syllabus.Journal
import Syllabus.Json.Shown
import Syllabus.Url.Basic

namespace Syllabus

/-! ## §1. The types. -/

/-- How a run looks. -/
structure Style where
  /-- In bold. -/
  bold : Bool := false
  /-- In italics. -/
  italic : Bool := false
  /-- Struck through. -/
  strikethrough : Bool := false
  /-- Underlined. -/
  underline : Bool := false
  /-- In a fixed-width font. -/
  code : Bool := false
  /-- In a color. -/
  color : String := Color.default
  deriving DecidableEq, Repr

/-- A piece of text in one style. -/
inductive Run where
  /-- A run that was built here. -/
  | text (content : String) (link : Option String) (style : Style)
  /-- A run that was handed over in its final form. -/
  | given (value : Json)
  deriving DecidableEq

namespace Run

/-! ## §2. Building runs. -/

/-- The most characters of a run. -/
def maxChars : Nat := 2000

/-- What a text that is cut ends in. -/
def ellipsis : String := "..."

/-- A text cut to the length of a run. -/
def clipped (content : String) : String :=
  if maxChars < content.length then
    Text.takeChars (maxChars - ellipsis.length) content ++ ellipsis
  else content

/-- The run that keeps a block valid when there is nothing to show. -/
def blank : Run := .text " " none {}

/-- A run of a text, with a link that has been checked. -/
def of (content : String) (style : Style) (link : Option String) : Run :=
  if Text.isBlank content then blank
  else .text (clipped content) link { style with color := Color.normalize style.color Color.default }

/-- A run without a link and in the default style. -/
def plain (content : String) : Run := of content {} none

/-- A run in bold. -/
def bold (content : String) : Run := of content { bold := true } none

/-- A run in a fixed-width font. -/
def code (content : String) : Run := of content { code := true } none

/-- The report of a link that is dropped. -/
def badLinkMessage (link : Json) : String :=
  s!"Link {link.quoted} is not an absolute http(s) URL; keeping the label as plain text"

/-- The link that a value gives, if it is a web address; one that is not is reported. -/
def checkedLink (link : Json) : Writing (Option String) :=
  if !link.isTruthy then pure none
  else match link with
    | .str url =>
        if Url.isWeb url then pure (some url)
        else do
          Writing.report .richText "invalid_link" (badLinkMessage link) .warning
          pure none
    | _ => do
        Writing.report .richText "invalid_link" (badLinkMessage link) .warning
        pure none

/-- A run of a text, with a link as the author wrote it. -/
def linked (content : String) (style : Style) (link : Json) : Writing Run := do
  let link ← checkedLink link
  pure (of content style link)

/-! ## §3. Runs that are handed over. -/

/-- Whether a value is a run in its final form. -/
def isRun (v : Json) : Bool :=
  v.member? "type" == some (.str "text") && (v.member "text").isObject

/-- The text of a run in its final form. -/
def givenContent (v : Json) : String := (((v.member "text").member? "content").bind Json.str?).getD ""

/-- The text of a run. -/
def content : Run → String
  | .text content _ _ => content
  | .given v => givenContent v

/-- The texts of the runs among values, one after the other. -/
def plainText (vs : List Json) : String := String.join ((vs.filter isRun).map givenContent)

/-! ## §4. The final form. -/

/-- A style in its final form; every flag is written. -/
def styleJson (s : Style) : Json :=
  .obj [("bold", .bool s.bold), ("italic", .bool s.italic), ("strikethrough", .bool s.strikethrough),
    ("underline", .bool s.underline), ("code", .bool s.code), ("color", .str s.color)]

/-- A link in its final form. -/
def linkJson : Option String → Json
  | some url => .obj [("url", .str url)]
  | none => .null

/-- A run in its final form. -/
def toJson : Run → Json
  | .text content link style =>
      .obj [("type", .str "text"),
        ("text", .obj [("content", .str content), ("link", linkJson link)]),
        ("annotations", styleJson style)]
  | .given v => v

/-- Runs in their final form. -/
def listJson (runs : List Run) : Json := .arr (runs.map toJson)

end Run

end Syllabus
