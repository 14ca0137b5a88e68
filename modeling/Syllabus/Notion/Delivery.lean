/-
  Syllabus.Notion.Delivery
  ────────────────────────
  **FROM A COURSE TO A PAGE.**

  The page of a course is created with the first batch of its blocks; the
  others are appended in order.  A request that fails ends the delivery, and
  what was sent before stays on the page.
-/
import Syllabus.Course.Page
import Syllabus.Notion.Call

namespace Syllabus.Notion

/-! ## §1. Where a page hangs. -/

/-- Where a page hangs. -/
inductive Parent where
  /-- In a database. -/
  | database (id : String)
  /-- Under another page. -/
  | page (id : String)
  deriving DecidableEq, Repr

namespace Parent

/-- How many digits the id of a database has. -/
def databaseIdLength : Nat := 32

/-- Whether a text is the bare id of a database: hexadecimal digits and nothing else. -/
def isDatabaseId (id : String) : Bool :=
  id.toList.length == databaseIdLength && id.toList.all fun c => (Json.hexDigit? c).isSome

/-- The parent that an id names. -/
def ofId (id : String) : Parent :=
  let id := Text.strip id
  if isDatabaseId id then .database id else .page id

/-- The members that name a parent. -/
def members : Parent → List (String × Json)
  | .database id => [("database_id", .str id)]
  | .page id => [("page_id", .str id)]

/-- The property that the title of a page goes to. -/
def titleProperty : Parent → String
  | .database _ => "Name"
  | .page _ => "title"

end Parent

/-! ## §2. How a page looks. -/

/-- The properties that give a page its title. -/
def titleProperties (title name : String) : List (String × Json) :=
  [(name, .obj [("title", .arr [.obj [("type", .str "text"),
    ("text", .obj [("content", .str title)])]])])]

/-- A picture somewhere on the web. -/
def external (url : String) : Json :=
  .obj [("type", .str "external"), ("external", .obj [("url", .str url)])]

/-- The icon of a page: a picture if it is a web address, else a character. -/
def pageIcon (icon : Option String) : Json :=
  match icon.filter fun s => !s.isEmpty with
  | none => .null
  | some s =>
      if Url.isWeb s then external s else .obj [("type", .str "emoji"), ("emoji", .str s)]

/-- The cover of a page, and what is logged when there is none because its address is no good. -/
def pageCover (cover : Option String) : Json × List LogLine :=
  match cover.filter fun s => !s.isEmpty with
  | none => (.null, [])
  | some s =>
      if Url.isWeb s then (external s, [])
      else (.null, [⟨.materializer, .warning, "Ignoring cover with invalid URL " ++ Text.quoted s⟩])

/-! ## §3. Delivery. -/

/-- What a delivery comes to. -/
structure Delivered where
  /-- The page. -/
  page : Page
  /-- How many sections the course has. -/
  sections : Nat
  /-- How many blocks were sent. -/
  blocks : Nat
  /-- In how many requests. -/
  batches : Nat
  deriving DecidableEq, Repr

namespace Connection

/-- Creates the page of a course under its parent and fills it with blocks. -/
def deliver (c : Connection) (course : Course) (blocks : List Json) : Call Delivered := do
  let parent := Parent.ofId course.parentId
  let (first, others) := cutList c.client.batchSize blocks
  Call.log .materializer .info
    s!"Creating course page {Text.quoted course.title} with {blocks.length} blocks under {(Json.obj parent.members).quoted}"
  let (cover, remarks) := pageCover course.cover
  Call.logAll remarks
  let page ← c.createPage parent.members (titleProperties course.title parent.titleProperty) first
    (pageIcon course.icon) cover
  let more ← if others.isEmpty then pure 0 else c.append page.summary.id.shown others
  Call.log .materializer .info
    s!"Course page {page.summary.id.shown} created in {1 + more} batch(es)"
  pure ⟨page, course.sections.length, blocks.length, 1 + more⟩

/-- Appends blocks to a page, and says how many. -/
def appendContent (c : Connection) (id : String) (blocks : List Json) : Call Nat := do
  let _ ← c.append id blocks
  pure blocks.length

end Connection

end Syllabus.Notion
