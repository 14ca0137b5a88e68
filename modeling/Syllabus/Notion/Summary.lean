/-
  Syllabus.Notion.Summary
  ───────────────────────
  **PAGES AND DATABASES IN SHORT.**

  Of what the remote side says about a page or a database only some members
  are passed on, as they are; the title is read from its styled text, and the
  two flags are truth values.  A page keeps its title in a property of its
  own, the first one that is of that type; a database has it directly.
-/
import Syllabus.Json.Shown

namespace Syllabus.Notion

/-! ## §1. Texts. -/

/-- The text of one piece of styled text. -/
def pieceText (piece : Json) : String :=
  match piece with
  | .obj ms => ((Json.lookup "plain_text" ms).map Json.shown).getD ""
  | _ => ""

/-- The text of a list of pieces; none for any other value. -/
def piecesText (v : Json) : String := String.join (v.items.map pieceText)

/-- What a title says when there is none. -/
def untitled : String := "Untitled"

/-- A text, or the word for a missing title. -/
def titled (s : String) : String := if s.isEmpty then untitled else s

/-- The first member that is a title property. -/
def titleProperty? (members : List (String × Json)) : Option Json :=
  (members.find? fun (_, p) => p.member "type" = .str "title").map Prod.snd

/-- The title in a list of pieces or in the properties of a page. -/
def titleOf (source : Json) : String :=
  match source with
  | .arr _ => titled (piecesText source)
  | .obj ms => match titleProperty? ms with
    | some p => titled (piecesText (p.member "title"))
    | none => untitled
  | _ => untitled

/-! ## §2. Summaries. -/

/-- A value that counts as true, or another one. -/
def truthyOr (v other : Json) : Json := if v.isTruthy then v else other

/-- What pages and databases have in common. -/
structure Summary where
  /-- The id. -/
  id : Json
  /-- The title. -/
  title : String
  /-- The address. -/
  url : Json
  /-- The icon. -/
  icon : Json
  /-- The cover. -/
  cover : Json
  /-- Where it hangs. -/
  parent : Json
  /-- The properties. -/
  properties : Json
  /-- When it was created. -/
  createdTime : Json
  /-- When it was changed last. -/
  lastEditedTime : Json
  /-- Whether it is archived. -/
  archived : Bool
  /-- Whether it is in the trash. -/
  inTrash : Bool
  deriving DecidableEq, Repr

/-- The summary of an object whose title is read from somewhere in it. -/
def Summary.of (v titleSource : Json) : Summary where
  id := v.member "id"
  title := titleOf titleSource
  url := v.member "url"
  icon := v.member "icon"
  cover := v.member "cover"
  parent := v.member "parent"
  properties := truthyOr (v.member "properties") (.obj [])
  createdTime := v.member "created_time"
  lastEditedTime := v.member "last_edited_time"
  archived := (v.member "archived").isTruthy
  inTrash := (v.member "in_trash").isTruthy

/-- The members of a summary. -/
def Summary.members (s : Summary) : List (String × Json) :=
  [("id", s.id), ("title", .str s.title), ("url", s.url), ("icon", s.icon), ("cover", s.cover),
    ("parent", s.parent), ("properties", s.properties), ("created_time", s.createdTime),
    ("last_edited_time", s.lastEditedTime), ("archived", .bool s.archived),
    ("in_trash", .bool s.inTrash)]

/-- A page in short. -/
structure Page where
  /-- What it has in common with databases. -/
  summary : Summary
  deriving DecidableEq, Repr

/-- The page that an object describes. -/
def Page.of (v : Json) : Page := ⟨Summary.of v (truthyOr (v.member "properties") (.obj []))⟩

/-- A page as an object. -/
def Page.toJson (p : Page) : Json := .obj (("object", .str "page") :: p.summary.members)

/-- A database in short. -/
structure Database where
  /-- What it has in common with pages. -/
  summary : Summary
  /-- What it is about. -/
  description : String
  /-- Its data sources, if it names any. -/
  dataSources : List Json
  deriving DecidableEq, Repr

/-- The database that an object describes. -/
def Database.of (v : Json) : Database where
  summary := Summary.of v (truthyOr (v.member "title") (.arr []))
  description := piecesText (v.member "description")
  dataSources := (v.member "data_sources").items

/-- The members that name the data sources: all of them and the id of the first. -/
def Database.sourceMembers (d : Database) : List (String × Json) :=
  match d.dataSources with
  | [] => []
  | first :: _ =>
      [("data_sources", .arr d.dataSources), ("default_data_source_id", first.member "id")]

/-- A database as an object. -/
def Database.toJson (d : Database) : Json :=
  .obj (("object", .str "database") :: d.summary.members
    ++ ("description", .str d.description) :: d.sourceMembers)

/-- Something that a search finds. -/
inductive Finding where
  /-- A page. -/
  | page (p : Page)
  /-- A database. -/
  | database (d : Database)
  deriving DecidableEq, Repr

/-- The finding that an object describes: a database if it says so, else a page. -/
def Finding.of (v : Json) : Finding :=
  if v.member "object" = .str "database" then .database (.of v) else .page (.of v)

/-- A finding as an object. -/
def Finding.toJson : Finding → Json
  | .page p => p.toJson
  | .database d => d.toJson

end Syllabus.Notion
