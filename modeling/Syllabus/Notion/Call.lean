/-
  Syllabus.Notion.Call
  ────────────────────
  **WHAT A CLIENT CAN DO.**

  Pages and databases are searched for, read, created and changed, and blocks
  are listed and appended.  A listing comes in pages: each answer says whether
  there is more and from which cursor on, and the next request asks from
  there.  Blocks are appended in batches, one request each, in order; a batch
  that fails ends the call, and what was sent before stays.
-/
import Syllabus.Notion.Client
import Syllabus.Notion.Summary

namespace Syllabus.Notion

/-! ## §1. Search. -/

/-- What a search asks for. -/
def searchBody (query kind : Option String) : Json :=
  let filled (s : Option String) : Option String := s.filter fun t => !t.isEmpty
  .obj (("sort", .obj [("direction", .str "descending"), ("timestamp", .str "last_edited_time")])
    :: (filled query).toList.map (fun q => ("query", .str q))
    ++ (filled kind).toList.map fun k =>
      ("filter", .obj [("property", .str "object"), ("value", .str k)]))

/-- The things in a value that is gone through one by one: the items of an array, the names of an
object's members, the characters of a string. -/
def each (v : Json) : Except CallError (List Json) :=
  match v with
  | .arr xs => .ok xs
  | .obj ms => .ok (ms.map fun (k, _) => .str k)
  | .str s => .ok (s.toList.map fun c => .str (String.singleton c))
  | _ => .error .notIterable

/-- The results that an answer brings. -/
def results (answer : Json) : Except CallError (List Json) :=
  match answer.member? "results" with
  | some v => each v
  | none => .ok []

/-- Whether a result is of the kind that was asked for. -/
def isOfKind (kind : Option String) (v : Json) : Bool :=
  match kind.filter fun k => !k.isEmpty with
  | some k => v.member "object" = .str k
  | none => true

namespace Connection

/-- Searches for pages and databases, the last edited first. -/
def search (c : Connection) (query : Option String := none) (kind : Option String := none) :
    Call (List Finding) := do
  let answer ← c.sendForObject .post "/search" [] (some (searchBody query kind))
  let found ← Call.ofExcept (results answer)
  pure ((found.filter fun v => v.isObject && isOfKind kind v).map .of)

/-- Whether the token is accepted. -/
def test (c : Connection) : Call Bool := fun s =>
  match (c.send .get "/users/me").run.run s with
  | (.ok _, after) => (.ok true, after)
  | (.error (.remote e), after) =>
      (Call.log .client .warning ("Notion connection test failed: " ++ e.message)
        >>= fun _ => pure false : Call Bool) after
  | (.error e, after) => (.error e, after)

/-! ## §2. Reading. -/

/-- Reads a page. -/
def page (c : Connection) (id : String) : Call Page := do
  let v ← c.sendForObject .get s!"/pages/{id}"
  pure (.of v)

/-- Reads a database. -/
def database (c : Connection) (id : String) : Call Database := do
  let v ← c.sendForObject .get s!"/databases/{id}"
  pure (.of v)

/-- Reads a data source, as it is. -/
def dataSource (c : Connection) (id : String) : Call Json := c.send .get s!"/data_sources/{id}"

/-- The data sources of a database. -/
def dataSources (c : Connection) (id : String) : Call (List Json) := do
  let d ← c.database id
  pure d.dataSources

end Connection

/-! ## §3. Listings. -/

/-- How many blocks a page of a listing has at most. -/
def listingPageSize : Nat := 100

/-- A value as a parameter of a query. -/
def parameterText : Json → String
  | .null => ""
  | .bool true => "true"
  | .bool false => "false"
  | v => v.shown

/-- The parameters that ask for a page of a listing. -/
def listingParameters (cursor : Option Json) : List (String × String) :=
  let cursors := match cursor with
    | some (.arr xs) => xs
    | some v => [v]
    | none => []
  ("page_size", toString listingPageSize)
    :: cursors.map fun v => ("start_cursor", parameterText v)

/-- Where a listing goes on, if an answer says that there is more. -/
def nextCursor? (answer : Json) : Option Json :=
  if (answer.member "has_more").isTruthy && (answer.member "next_cursor").isTruthy then
    some (answer.member "next_cursor")
  else none

namespace Connection

/-- The children of a block from a cursor on, in at most `patience` pages. -/
def childrenFrom (c : Connection) (id : String) :
    (patience : Nat) → (cursor : Option Json) → Call (List Json)
  | 0, _ => throw .endless
  | patience + 1, cursor => do
      let answer ← c.sendForObject .get s!"/blocks/{id}/children" (listingParameters cursor)
      let found ← Call.ofExcept (results answer)
      match nextCursor? answer with
      | none => pure found
      | some next => do
          let others ← c.childrenFrom id patience (some next)
          pure (found ++ others)

/-- All children of a block. -/
def children (c : Connection) (id : String) : Call (List Json) := c.childrenFrom id c.patience none

end Connection

/-! ## §4. Writing. -/

/-- What creates a page. -/
def pageBody (parent properties : List (String × Json)) (children : List Json)
    (icon cover : Json) : Json :=
  let given (name : String) (v : Json) : List (String × Json) :=
    if v.isTruthy then [(name, v)] else []
  .obj ([("parent", .obj parent), ("properties", .obj properties), ("children", .arr children)]
    ++ given "icon" icon ++ given "cover" cover)

namespace Connection

/-- Creates a page, with its first batch of children. -/
def createPage (c : Connection) (parent properties : List (String × Json)) (children : List Json)
    (icon cover : Json) : Call Page := do
  match Json.lookup "data_source_id" parent with
  | some id => Call.log .client .info s!"Creating page under data source {id.shown}"
  | none => pure ()
  let v ← c.sendForObject .post "/pages" [] (some (pageBody parent properties children icon cover))
  pure (.of v)

/-- Changes the properties of a page. -/
def updatePage (c : Connection) (id : String) (properties : List (String × Json)) : Call Page := do
  let v ← c.sendForObject .patch s!"/pages/{id}" [] (some (.obj [("properties", .obj properties)]))
  pure (.of v)

/-- Sends batches to a block, of which there are `count` in all and `index` is the first of these. -/
def appendFrom (c : Connection) (id : String) (count : Nat) :
    (index : Nat) → List (List Json) → Call Unit
  | _, [] => pure ()
  | index, batch :: rest => do
      Call.log .client .info s!"Appending batch {index}/{count} ({batch.length} blocks) to {id}"
      let _ ← c.send .patch s!"/blocks/{id}/children" [] (some (.obj [("children", .arr batch)]))
      c.appendFrom id count (index + 1) rest

/-- Appends blocks to a block, and says in how many batches. -/
def append (c : Connection) (id : String) (blocks : List Json) : Call Nat := do
  let parts := batches c.client.batchSize blocks
  c.appendFrom id parts.length 1 parts
  pure parts.length

end Connection

end Syllabus.Notion
