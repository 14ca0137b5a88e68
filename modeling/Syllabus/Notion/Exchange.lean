/-
  Syllabus.Notion.Exchange
  ────────────────────────
  **REQUESTS, REPLIES AND THE SIDE THAT GIVES THEM.**

  The remote side is a function: what it replies to a request may depend on
  all requests that it had before.  Whatever it does is such a function, so a
  statement about every remote side is one about every course of events.

  A script is a remote side that is written down: routes, each for one method
  and path.  Routes for the same method and path reply in turn, and the last
  of them goes on replying.
-/
import Syllabus.Json.Reader
import Syllabus.Url.Percent

namespace Syllabus.Notion

/-! ## §1. Requests. -/

/-- What a request asks to do. -/
inductive Method where
  /-- To read something. -/
  | get
  /-- To create something or to search. -/
  | post
  /-- To change something. -/
  | patch
  deriving DecidableEq, Repr

/-- The name of a method. -/
def Method.name : Method → String
  | .get => "GET"
  | .post => "POST"
  | .patch => "PATCH"

/-- A request. -/
structure Request where
  /-- What it asks to do. -/
  method : Method
  /-- The path that it asks it for, with percent signs. -/
  path : String
  /-- The query, if there is one. -/
  query : Option String
  /-- The body, if there is one. -/
  body : Option Json
  deriving DecidableEq, Repr

/-- The path of a request with its query. -/
def Request.target (r : Request) : String :=
  match r.query with
  | some q => r.path ++ "?" ++ q
  | none => r.path

/-- The children that a request brings. -/
def Request.children (r : Request) : List Json :=
  match r.body with
  | some body => (body.member "children").items
  | none => []

/-! ## §2. Replies. -/

/-- What comes back for a request. -/
inductive Reply where
  /-- An answer with its status and its body read as JSON. -/
  | answer (status : Nat) (body : Except Json.ReadError Json)
  /-- No answer, and why. -/
  | silence (reason : String)

/-- The remote side: its reply to a request, given the requests before. -/
abbrev Remote := (past : List Request) → Request → Reply

/-! ## §3. Scripts. -/

/-- A line of a script. -/
structure Route where
  /-- The method that it is for. -/
  method : String
  /-- The path that it is for. -/
  path : String
  /-- The reply. -/
  reply : Reply

/-- The path of a request as scripts give it: without percent signs and without a leading version. -/
def Request.scriptPath (r : Request) : String :=
  let path := Url.percentDecoded r.path
  if Text.startsWith path "/v1" then Text.dropChars 3 path else path

/-- Whether a route is for a request. -/
def Route.serves (route : Route) (r : Request) : Bool :=
  route.method = r.method.name && route.path = r.scriptPath

/-- The remote side that follows a script, and says something else where it has no route. -/
def Remote.scripted (routes : List Route) (otherwise : Request → Reply) : Remote := fun past r =>
  let turns := routes.filter (·.serves r)
  let turn := past.countP fun q => q.method = r.method && q.scriptPath = r.scriptPath
  match turns[turn]? with
  | some route => route.reply
  | none => match turns.getLast? with
    | some route => route.reply
    | none => otherwise r

end Syllabus.Notion
