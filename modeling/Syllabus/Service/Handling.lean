/-
  Syllabus.Service.Handling
  ─────────────────────────
  **HOW TASKS ARE CARRIED OUT.**

  Carrying out a task sends requests to the remote side and ends with what the
  answer says or with an interruption.  A course is created only if it is
  complete and its review finds no error; until then nothing is sent.

      Handling.createCourse   the gate, and the delivery behind it
      Task.carryOut           what the answer to each task says
-/
import Syllabus.Course.Rehearsal
import Syllabus.Notion.Delivery
import Syllabus.Service.Catalogue
import Syllabus.Service.Payload
import Syllabus.Service.Task

namespace Syllabus.Service

/-! ## §1. Handling. -/

/-- Something that is done to answer a request. -/
abbrev Handling := ExceptT Interruption (StateM Notion.Session)

namespace Handling

/-- Calls the remote side. -/
def ofCall {α : Type} (c : Notion.Call α) : Handling α := fun s =>
  match c.run.run s with
  | (.ok a, after) => (.ok a, after)
  | (.error e, after) => (.error (.ofCallError e), after)

/-- Gives a result or is interrupted. -/
def ofExcept {α : Type} (r : Except Interruption α) : Handling α := fun s => (r, s)

/-- Logs lines. -/
def logAll (lines : List LogLine) : Handling Unit := ofCall (Notion.Call.logAll lines)

/-- Turns the request down because of what it says. -/
def refuse {α : Type} (reason : String) : Handling α := throw (.badRequest (.str reason))

/-- What an answer says that reports success. -/
def success (members : List (String × Json)) : Json := .obj (("success", .bool true) :: members)

/-! ## §2. Pages and databases. -/

/-- The query of a search. -/
def queryOf (fields : List (String × Json)) : Option String :=
  (Json.lookup "query" fields).bind Json.str?

/-- Searches, and lists what is found under a name. -/
def search (c : Notion.Connection) (name : String) (kind : Option String) (p : Payload) :
    Handling Json := do
  let fields ← ofExcept (p.optionalFields searchForm)
  let found ← ofCall (c.search (queryOf fields) kind)
  pure (success [(name, .arr (found.map Notion.Finding.toJson))])

/-- The answer that shows a page. -/
def pageAnswer (p : Notion.Page) : Json := success [("page", p.toJson)]

/-- Lists the blocks on a page, which have to be objects. -/
def listBlocks (c : Notion.Connection) (id : String) : Handling Json := do
  let blocks ← ofCall (c.children id)
  if blocks.all Json.isObject then pure (success [("blocks", .arr blocks)])
  else throw (.broken .listing)

/-- The members of a field that holds an object. -/
def membersIn (name : String) (fields : List (String × Json)) : List (String × Json) :=
  ((Json.lookup name fields).bind Json.obj?).getD []

/-- Creates a page. -/
def createPage (c : Notion.Connection) (p : Payload) : Handling Json := do
  let fields ← ofExcept (p.fields pageForm)
  let given (name : String) : Json := (Json.lookup name fields).getD .null
  if (membersIn "parent" fields).isEmpty || (membersIn "properties" fields).isEmpty then
    refuse "Missing required fields: parent, properties"
  else do
    let page ← ofCall (c.createPage (membersIn "parent" fields) (membersIn "properties" fields)
      (given "children").items (given "icon") (given "cover"))
    pure (pageAnswer page)

/-- Changes a page. -/
def updatePage (c : Notion.Connection) (id : String) (p : Payload) : Handling Json := do
  let fields ← ofExcept (p.fields changeForm)
  let page ← ofCall (c.updatePage id (membersIn "properties" fields))
  pure (pageAnswer page)

/-- Appends blocks as they are. -/
def appendBlocks (c : Notion.Connection) (id : String) (p : Payload) : Handling Json := do
  let fields ← ofExcept (p.fields anyForm)
  match Json.lookup "blocks" fields with
  | some (.arr blocks) => do
      let batches ← ofCall (c.append id blocks)
      logAll [⟨.pages, .info, s!"Appended {blocks.length} raw blocks to {id}"⟩]
      pure (success [("message", .str "Blocks appended successfully"),
        ("blocksAdded", .nat blocks.length), ("batches", .nat batches)])
  | _ => refuse "blocks must be an array"

/-! ## §3. Courses. -/

/-- The review of a course. -/
def verdictOn (course : Json) : Review.Verdict := ((Review.course course).run {}).1

/-- Reviews a course. -/
def validateCourse (course : Json) : Json :=
  let verdict := verdictOn course
  let statistics := Statistics.ofCourse course
  success [("valid", .bool verdict.valid), ("errors", .strings verdict.errors),
    ("warnings", .strings verdict.warnings), ("stats", statistics.toJson),
    ("recommendations", .strings statistics.recommendations)]

/-- A diagnostic as an object. -/
def diagnosticJson (d : Diagnostic) : Json :=
  .obj [("code", .str d.code), ("message", .str d.message),
    ("path", Json.ofOption d.path.location?), ("severity", .str d.severity.name)]

/-- A rehearsal as an object. -/
def rehearsalJson (r : Rehearsal) : Json :=
  .obj [("valid", .bool r.valid), ("errors", .strings r.errors), ("warnings", .strings r.warnings),
    ("stats", r.statistics.toJson), ("generatedBlocks", .nat r.generatedBlocks),
    ("diagnostics", .arr (r.diagnostics.map diagnosticJson))]

/-- Reads a time that is part of something, or is interrupted. -/
def timed {α : Type} (r : Except Text.NumeralError α) : Handling α :=
  ofExcept (r.mapError fun e => .broken (.time e))

/-- Rehearses a course. -/
def dryRun (course : Json) : Handling Json := do
  let (rehearsal, remarks) ← timed (Course.rehearse (fun _ => none) course)
  logAll (remarks.map Remark.line)
  pure (rehearsalJson rehearsal)

/-- Builds blocks, with what is logged and recorded meanwhile. -/
def built (b : Building (List Block)) : List Json × Journal :=
  match b.fresh with
  | (.ok blocks, journal) => (Block.listToJson blocks, journal)
  | (.error _, journal) => ([], journal)

/-- Whether a course says where it goes, what it is called and what is in it. -/
def isComplete (course : Course) : Bool :=
  !course.parentId.isEmpty && !course.title.isEmpty && !course.sections.isEmpty

/-- The course that a body describes, if it is complete and its review finds no error. -/
def admitted (body : Json) : Except Interruption Course := do
  let course ← (Course.ofJson body).mapError fun e => .broken (.time e)
  let verdict := verdictOn body
  if !isComplete course then
    throw (.badRequest (.str "Missing required fields: parentId, title, sections"))
  else if !verdict.valid then
    throw (.badRequest (.obj [("error", .str "Course validation failed"),
      ("details", .strings verdict.errors), ("warnings", .strings verdict.warnings)]))
  else pure course

/-- The lines about what is bad style in a course. -/
def warningLines (course : Course) (verdict : Review.Verdict) : List LogLine :=
  verdict.warnings.map fun w => ⟨.courses, .warning, s!"Course {Text.quoted course.title}: {w}"⟩

/-- The line about a course that is built. -/
def builtLine (course : Course) (blocks : List Json) (journal : Journal) : LogLine :=
  ⟨.courses, .info,
    s!"Compiled course {Text.quoted course.title} into {blocks.length} blocks ({journal.collector.entries.length} diagnostics)"⟩

/-- The answer that tells what was delivered. -/
def deliveryAnswer (d : Notion.Delivered) : Json :=
  success [("page", d.page.toJson), ("stats", .obj [("sectionsCreated", .nat d.sections),
    ("blocksCreated", .nat d.blocks)])]

/-- Creates the page of a course that is admitted. -/
def createCourse (c : Notion.Connection) (body : Json) : Handling Json := do
  let course ← ofExcept (admitted body)
  let (blocks, journal) := built (course.page {})
  logAll (warningLines course (verdictOn body) ++ journal.lines ++ [builtLine course blocks journal])
  let delivered ← ofCall (c.deliver course blocks)
  pure (deliveryAnswer delivered)

/-- Appends items of a course to a page. -/
def appendContent (c : Notion.Connection) (id : String) (p : Payload) : Handling Json := do
  let fields ← ofExcept (p.fields anyForm)
  match Json.lookup "content" fields with
  | some (.arr (first :: others)) => do
      let (blocks, journal) := built (buildItems {} (first :: others))
      logAll journal.lines
      if blocks.isEmpty then refuse "No valid blocks generated from content"
      else do
        let added ← ofCall (c.appendContent id blocks)
        pure (success [("message", .str "Content appended successfully"),
          ("blocksAdded", .nat added)])
  | _ => refuse "Missing or invalid content array"

end Handling

/-! ## §4. Tasks. -/

/-- What carrying out tasks depends on. -/
structure Setup where
  /-- The way to the remote side, if there is a client. -/
  connection : Option Notion.Connection
  /-- The environment. -/
  environment : Environment
  /-- The origins that may ask from elsewhere. -/
  allowedOrigins : List String
  /-- The time. -/
  time : String

/-- The way to the remote side. -/
def Setup.connected (s : Setup) : Handling Notion.Connection :=
  match s.connection with
  | some c => pure c
  | none => throw .unconfigured

namespace Task

/-- Carries out a task with what the body of its request holds. -/
def run (s : Setup) (p : Payload) : Task → Handling Json
  | .health => pure (healthReport s.time)
  | .search => do
      let c ← s.connected
      Handling.search c "results" none p
  | .searchPages => do
      let c ← s.connected
      Handling.search c "pages" (some "page") p
  | .searchDatabases => do
      let c ← s.connected
      Handling.search c "databases" (some "database") p
  | .page id => do
      let c ← s.connected
      let page ← Handling.ofCall (c.page id)
      pure (Handling.pageAnswer page)
  | .pageBlocks id => do
      let c ← s.connected
      Handling.listBlocks c id
  | .database id => do
      let c ← s.connected
      let d ← Handling.ofCall (c.database id)
      pure (Handling.success [("database", d.toJson)])
  | .createPage => do
      let c ← s.connected
      Handling.createPage c p
  | .updatePage id => do
      let c ← s.connected
      Handling.updatePage c id p
  | .appendBlocks id => do
      let c ← s.connected
      Handling.appendBlocks c id p
  | .validateCourse => pure (Handling.validateCourse p.toJson)
  | .dryRun => Handling.dryRun p.toJson
  | .createCourse => do
      let c ← s.connected
      Handling.createCourse c p.toJson
  | .appendContent id => do
      let c ← s.connected
      Handling.appendContent c id p
  | .blockTypes => pure catalogueReport

/-- Whether a task has a body to read. -/
def readsBody : Task → Bool
  | .health | .page _ | .pageBlocks _ | .database _ | .blockTypes => false
  | _ => true

/-- Carries out a task with the body of its request. -/
def carryOut (s : Setup) (headers : Headers) (body : String) (t : Task) : Handling Json := do
  let p ← if t.readsBody then Handling.ofExcept (Payload.read headers body) else pure .absent
  t.run s p

end Task

end Syllabus.Service
