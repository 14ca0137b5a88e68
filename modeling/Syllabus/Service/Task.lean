/-
  Syllabus.Service.Task
  ─────────────────────
  **WHAT THE SERVICE CAN BE ASKED FOR.**

  A request names a task by its method and its path; a path may carry the id
  of a page or a database.  The routes are tried in order and the first that
  fits counts.  Where only the method does not fit, the first of these routes
  says which one would; and a path with slashes too many at its end is sent to
  the path without them.
-/
import Syllabus.Text.Split

namespace Syllabus.Service

/-! ## §1. Tasks. -/

/-- What the service can be asked for. -/
inductive Task where
  /-- Whether it works. -/
  | health
  /-- To search for pages and databases. -/
  | search
  /-- To search for pages. -/
  | searchPages
  /-- To search for databases. -/
  | searchDatabases
  /-- A page. -/
  | page (id : String)
  /-- The blocks on a page. -/
  | pageBlocks (id : String)
  /-- A database. -/
  | database (id : String)
  /-- To create a page. -/
  | createPage
  /-- To change a page. -/
  | updatePage (id : String)
  /-- To append blocks to a page. -/
  | appendBlocks (id : String)
  /-- To review a course. -/
  | validateCourse
  /-- To rehearse a course. -/
  | dryRun
  /-- To create the page of a course. -/
  | createCourse
  /-- To append items of a course to a page. -/
  | appendContent (id : String)
  /-- What authors may write. -/
  | blockTypes
  deriving DecidableEq, Repr

/-! ## §2. Routes. -/

/-- A part of a path between slashes. -/
inductive PathPart where
  /-- A word. -/
  | word (s : String)
  /-- An id, which is not empty. -/
  | id
  deriving DecidableEq, Repr

/-- A way to name a task. -/
structure Route where
  /-- The method. -/
  method : String
  /-- The path, part by part. -/
  path : List PathPart
  /-- The task, given the id in the path. -/
  task : (id : String) → Task

/-- Whether a part of a path is a word; at the end of the path a line may end after it. -/
def isWord (w : String) (atEnd : Bool) (part : List Char) : Bool :=
  part = w.toList || (atEnd && part = w.toList ++ ['\n'])

/-- The ids in a path that fits. -/
def idsIn? : List PathPart → List (List Char) → Option (List String)
  | [], [] => some []
  | .word w :: rest, part :: parts =>
      if isWord w parts.isEmpty part then idsIn? rest parts else none
  | .id :: rest, part :: parts =>
      if part.isEmpty then none else (idsIn? rest parts).map (String.ofList part :: ·)
  | _, _ => none

/-- The task that a route names by a path, if the path fits. -/
def Route.task? (r : Route) (path : List Char) : Option Task :=
  match path with
  | '/' :: rest => (idsIn? r.path (Text.splitOn '/' rest)).map fun ids => r.task (ids.head?.getD "")
  | _ => none

/-- The routes, in the order in which they are tried. -/
def routes : List Route :=
  [⟨"GET", [.word "health"], fun _ => .health⟩,
    ⟨"POST", [.word "api", .word "search"], fun _ => .search⟩,
    ⟨"POST", [.word "api", .word "search-pages"], fun _ => .searchPages⟩,
    ⟨"POST", [.word "api", .word "search-databases"], fun _ => .searchDatabases⟩,
    ⟨"GET", [.word "api", .word "page", .id], .page⟩,
    ⟨"GET", [.word "api", .word "page", .id, .word "blocks"], .pageBlocks⟩,
    ⟨"GET", [.word "api", .word "database", .id], .database⟩,
    ⟨"POST", [.word "api", .word "create-page"], fun _ => .createPage⟩,
    ⟨"PATCH", [.word "api", .word "page", .id], .updatePage⟩,
    ⟨"POST", [.word "api", .word "page", .id, .word "append"], .appendBlocks⟩,
    ⟨"POST", [.word "api", .word "validate-course"], fun _ => .validateCourse⟩,
    ⟨"POST", [.word "api", .word "dry-run"], fun _ => .dryRun⟩,
    ⟨"POST", [.word "api", .word "create-course"], fun _ => .createCourse⟩,
    ⟨"POST", [.word "api", .word "page", .id, .word "append-content"], .appendContent⟩,
    ⟨"GET", [.word "api", .word "block-types"], fun _ => .blockTypes⟩]

/-! ## §3. Destinations. -/

/-- Where a request goes. -/
inductive Destination where
  /-- To a task. -/
  | task (t : Task)
  /-- Nowhere, but another method would have led somewhere. -/
  | otherMethod (allowed : String)
  /-- To the same path without the slashes at its end. -/
  | withoutSlashes
  /-- Nowhere. -/
  | nowhere
  deriving DecidableEq, Repr

/-- A path without the slashes at its end. -/
def trimmedPath (path : List Char) : List Char := (path.reverse.dropWhile (· = '/')).reverse

/-- Whether a path leads somewhere, by whatever method. -/
def leadsSomewhere (path : List Char) : Bool := routes.any fun r => (r.task? path).isSome

/-- Whether a path leads somewhere once the slashes at its end are left off. -/
def leadsWithoutSlashes (path : List Char) : Bool :=
  path != ['/'] && path.getLast? == some '/' && leadsSomewhere (trimmedPath path)

/-- Where a request goes. -/
def Destination.of (method path : String) : Destination :=
  let path := path.toList
  match (routes.filter fun r => r.method = method).findSome? (·.task? path) with
  | some t => .task t
  | none => match routes.find? fun r => (r.task? path).isSome with
    | some r => .otherMethod r.method
    | none => if leadsWithoutSlashes path then .withoutSlashes else .nowhere

end Syllabus.Service
