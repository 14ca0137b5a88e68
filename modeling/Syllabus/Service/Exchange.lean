/-
  Syllabus.Service.Exchange
  ─────────────────────────
  **WHAT IS DONE TO EVERY EXCHANGE.**

  A connection is known by its kind; only exchanges of requests and answers
  are touched.  Such an exchange gets an id, which is logged with the request
  and with the answer and is put into the answer; and an answer names no
  software and forbids to guess what its content is.  What passes through is a
  sequence of messages, of which those that start an answer have headers.
-/
import Syllabus.Decimal.Shortest
import Syllabus.Json.Basic
import Syllabus.Log
import Syllabus.Service.Header

namespace Syllabus.Service

/-! ## §1. Connections and messages. -/

/-- What is known of a connection before anything is read from it. -/
structure Scope where
  /-- Its kind. -/
  kind : String
  /-- The method of the request, if there is one. -/
  method : Option String := none
  /-- The path of the request, without percent signs. -/
  path : String := ""
  /-- The query of the request, as it was sent. -/
  query : String := ""
  /-- The headers of the request. -/
  headers : Headers := []
  /-- What was remembered about the connection, if anything was. -/
  state : Option (List (String × Json)) := none
  deriving DecidableEq, Repr

namespace Scope

/-- Whether the connection is an exchange of a request and an answer. -/
def isExchange (s : Scope) : Bool := s.kind = "http"

/-- The path with the query. -/
def target (s : Scope) : String := if s.query.isEmpty then s.path else s.path ++ "?" ++ s.query

/-- The connection with its id remembered. -/
def identified (id : String) (s : Scope) : Scope :=
  { s with state := some (Json.insertMember "request_id" (.str id) (s.state.getD [])) }

end Scope

/-- A message of an answer. -/
inductive Message where
  /-- The start of an answer, with its status if it has one. -/
  | start (status : Option Int) (headers : Headers)
  /-- Any other message. -/
  | other
  deriving DecidableEq, Repr

/-- Changes the headers of a message that has some. -/
def Message.mapHeaders (f : Headers → Headers) : Message → Message
  | .start status headers => .start status (f headers)
  | .other => .other

/-! ## §2. Ids. -/

/-- The header that carries the id of an exchange. -/
def idHeader : String := "x-request-id"

/-- Headers with the id of an exchange, unless they have an id already. -/
def identifiedHeaders (id : String) (hs : Headers) : Headers := hs.setDefault idHeader id

/-- The status that a sequence of messages ends up with. -/
def finalStatus (messages : List Message) : Option Int :=
  messages.foldl (fun last m => match m with
    | .start status _ => status
    | .other => last) none

/-- What is logged when a request arrives. -/
def arrivalLines (id : String) (s : Scope) : List LogLine :=
  let method := s.method.getD "UNKNOWN"
  ⟨.middleware, .info, s!"Incoming request request_id={id} {method} {s.target}"⟩ ::
    match (s.headers.getLoosely? "content-length").filter fun v => !v.isEmpty with
    | some length =>
        [⟨.middleware, .debug, s!"Request metadata request_id={id} content-length={length}"⟩]
    | none => []

/-- A time in milliseconds, of which hundredths are counted. -/
def durationText (hundredths : Nat) : String :=
  s!"{hundredths / 100}." ++ String.ofList (Decimal.padded 2 (Decimal.digits (hundredths % 100)))

/-- What is logged when an answer has been given. -/
def departureLine (id : String) (elapsed : Nat) (status : Option Int) : LogLine :=
  ⟨.middleware, .info,
    s!"Response request_id={id} status={status.getD 0} (took {durationText elapsed}ms)"⟩

/-- What passes through, and what is known and logged of it. -/
structure Passage where
  /-- The connection afterwards. -/
  scope : Scope
  /-- The messages that are sent on. -/
  messages : List Message
  /-- The lines logged. -/
  log : List LogLine := []
  deriving DecidableEq, Repr

/-- Passes messages on with an id, and logs; the exchange takes some hundredths of a millisecond. -/
def Passage.logged (id : String) (elapsed : Nat) (s : Scope) (messages : List Message) : Passage :=
  if s.isExchange then
    { scope := s.identified id
      messages := messages.map (·.mapHeaders (identifiedHeaders id))
      log := arrivalLines id s ++ [departureLine id elapsed (finalStatus messages)] }
  else { scope := s, messages }

/-! ## §3. Safety. -/

/-- The headers that name software. -/
def namingHeaders : List String := ["x-powered-by", "server"]

/-- Headers that name no software and forbid to guess the type of the content. -/
def securedHeaders (hs : Headers) : Headers :=
  (namingHeaders.foldl (fun hs name => hs.erase name) hs).set "x-content-type-options" "nosniff"

/-- Passes messages on with safe headers. -/
def Passage.secured (s : Scope) (messages : List Message) : Passage :=
  if s.isExchange then { scope := s, messages := messages.map (·.mapHeaders securedHeaders) }
  else { scope := s, messages }

end Syllabus.Service
