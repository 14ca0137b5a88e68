/-
  Syllabus.Service.Server
  ───────────────────────
  **FROM A REQUEST TO ITS ANSWER.**

  A request is logged and gets an id.  A question from another origin is
  answered at once; any other request is led to its task, whose result or
  interruption becomes the answer; and the answer is dressed: with the headers
  for other origins, the id, and the headers that every answer has.  What
  nobody foresaw ends the request outside all of this: its answer is bare, and
  only the fault is logged.
-/
import Syllabus.Service.CrossOrigin
import Syllabus.Service.Exchange
import Syllabus.Service.Handling

namespace Syllabus.Service

/-! ## §1. Requests. -/

/-- A request to the service. -/
structure Request where
  /-- What is known of it before its body is read. -/
  scope : Scope
  /-- Its body; empty if there is none. -/
  body : String
  deriving DecidableEq, Repr

/-- The method of a request. -/
def Request.method (r : Request) : String := r.scope.method.getD ""

/-- A request as reports name it. -/
def Request.occasion (id : String) (r : Request) : Occasion := ⟨some id, r.method, r.scope.path⟩

/-! ## §2. Answers. -/

/-- The answer where a request leads nowhere. -/
def plainRefusal (status : Nat) (headers : Headers) : Response :=
  .json status (.obj [("detail", Json.ofOption (statusPhrase? status))]) headers

/-- What becomes of what a task comes to. -/
def concluded (s : Setup) (o : Occasion) :
    Except Interruption Json → Except Fault (Response × List LogLine)
  | .ok v => .ok (.json 200 v, [])
  | .error i => i.answer s.environment o

/-- Leads a request to its task. -/
def Setup.route (s : Setup) (o : Occasion) (r : Request) :
    Notion.Session → Except Fault (Response × List LogLine) × Notion.Session := fun session =>
  match Destination.of r.method r.scope.path with
  | .task t =>
      let (outcome, after) := (t.carryOut s r.scope.headers r.body).run.run session
      (concluded s o outcome, after)
  | .otherMethod allowed => (.ok (plainRefusal 405 [("allow", allowed)], []), session)
  | .withoutSlashes => (.ok (.of 307 [] .nothing, []), session)
  | .nowhere => (.ok (plainRefusal 404 [], []), session)

/-- Answers a request, if need be with a question to its task. -/
def Setup.answer (s : Setup) (o : Occasion) (r : Request) :
    Notion.Session → Except Fault (Response × List LogLine) × Notion.Session := fun session =>
  match Preflight.of? r.method r.scope.headers with
  | some p => (.ok (p.answer s.allowedOrigins, []), session)
  | none =>
      let (outcome, after) := s.route o r session
      let shared (answer : Response) : Response :=
        { answer with headers := sharedHeaders s.allowedOrigins r.scope.headers answer.headers }
      (outcome.map fun (answer, lines) => (shared answer, lines), after)

/-- An answer with the headers that every answer has. -/
def dressed (id : String) (r : Response) : Response :=
  { r with headers := securedHeaders (identifiedHeaders id r.headers) }

/-- An answer as it is sent for a method: to a request for the head, only the head. -/
def sentFor (method : String) (r : Response) : Response :=
  if method = "HEAD" then r.headOnly else r

/-- Responds to a request, which gets an id and takes some hundredths of a millisecond. -/
def Setup.respond (s : Setup) (id : String) (elapsed : Nat) (r : Request)
    (session : Notion.Session) : Response × Notion.Session :=
  let o := r.occasion id
  let (outcome, after) :=
    s.answer o r { session with log := session.log ++ arrivalLines id r.scope }
  match outcome with
  | .ok (answer, lines) =>
      let answer := dressed id answer
      (sentFor r.method answer,
        { after with log := after.log ++ lines ++ [departureLine id elapsed (some answer.status)] })
  | .error fault =>
      let (answer, lines) := fault.answer o
      (sentFor r.method answer, { after with log := after.log ++ lines })

end Syllabus.Service
