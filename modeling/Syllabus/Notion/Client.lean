/-
  Syllabus.Notion.Client
  ──────────────────────
  **CALLS TO THE REMOTE SIDE.**

  A client knows its token, the address of the remote side, and how much to
  send at a time.  A call sends requests one after the other; it keeps the
  requests that it sent and the lines that it logged, and ends with a result
  or with an error.

      Client.ofOptions   a client, unless its token or its address is no good
      Connection.send    one request and what comes of its reply

  A reply that is not a success and a reply that does not come are the same
  kind of error; it carries a message, a status and a code.
-/
import Syllabus.Json.Printer
import Syllabus.Log
import Syllabus.Notion.Batch
import Syllabus.Notion.Exchange
import Syllabus.Notion.Token
import Syllabus.Url.Base

namespace Syllabus.Notion

/-! ## §1. Clients. -/

/-- The version of the remote interface that is used unless another is asked for. -/
def interfaceVersion : String := "2025-09-03"

/-- The address of the remote side unless another is given. -/
def defaultBaseUrl : String := "https://api.notion.com/v1"

/-- How a client is set up. -/
structure ClientOptions where
  /-- The text that the token is in. -/
  token : String
  /-- The address of the remote side. -/
  baseUrl : String := defaultBaseUrl
  /-- The version of its interface. -/
  version : String := interfaceVersion
  /-- How long a reply may take, in seconds. -/
  timeout : Binary64 := Decimal.scaled false 30 0
  /-- How many blocks are sent at a time. -/
  batchSize : Int := maxBatchSize

/-- Why there is no client. -/
inductive ClientFault where
  /-- The token is no good. -/
  | token (fault : TokenFault)
  /-- The address is no good. -/
  | address (fault : Url.AddressFault)
  deriving DecidableEq, Repr

/-- A fault in words. -/
def ClientFault.message : ClientFault → String
  | .token fault => fault.message
  | .address fault => fault.message

/-- A client. -/
structure Client where
  /-- Its token. -/
  token : String
  /-- The address of the remote side. -/
  base : Url.Base
  /-- The version of its interface. -/
  version : String
  /-- How long a reply may take, in seconds. -/
  timeout : Binary64
  /-- How many blocks are sent at a time. -/
  batchSize : Int
  deriving DecidableEq, Repr

/-- Sets a client up.  The token is looked at first. -/
def Client.ofOptions (o : ClientOptions) : Except ClientFault Client := do
  let token ← (Notion.token o.token).mapError .token
  let base ← (Url.Base.ofText o.baseUrl).mapError .address
  pure ⟨token, base, o.version, o.timeout, o.batchSize⟩

/-- The headers of every request of a client. -/
def Client.headers (c : Client) : List (String × String) :=
  [("authorization", "Bearer " ++ c.token), ("notion-version", c.version),
    ("content-type", "application/json")]

/-! ## §2. Errors. -/

/-- What the remote side, or its absence, comes to. -/
structure RemoteError where
  /-- What happened, in words. -/
  message : String
  /-- The status of the answer. -/
  status : Nat
  /-- What kind of thing happened. -/
  code : String
  deriving DecidableEq, Repr

/-- Why a call has no result. -/
inductive CallError where
  /-- The remote side refused, or did not answer. -/
  | remote (error : RemoteError)
  /-- The body of a successful answer is not JSON. -/
  | unreadable (error : Json.ReadError)
  /-- The body to be sent has a number that JSON lacks. -/
  | unsendable
  /-- The path to be asked cannot be written as an address. -/
  | address (fault : Url.AddressFault)
  /-- The body of a successful answer is not an object. -/
  | notAnObject
  /-- Something in the body that should be a list has no items. -/
  | notIterable
  /-- A listing goes on for longer than it is waited for. -/
  | endless
  deriving DecidableEq, Repr

/-- An error in words. -/
def CallError.message : CallError → String
  | .remote e => e.message
  | .unreadable e => e.message
  | .unsendable => "Out of range float values are not JSON compliant"
  | .address fault => fault.message
  | .notAnObject => "the answer is not an object"
  | .notIterable => "the answer has no list of results"
  | .endless => "the listing does not end"

/-- The name of an error in reports. -/
def CallError.kind : CallError → String
  | .remote _ => "NotionAPIError"
  | .unreadable e => match e.fault with
    | .longNumber _ => "ValueError"
    | _ => "JSONDecodeError"
  | .unsendable => "ValueError"
  | .address _ => "InvalidURL"
  | .notAnObject => "AttributeError"
  | .notIterable => "TypeError"
  | .endless => "TimeoutError"

/-- The code of an error without one of its own. -/
def defaultCode : String := "notion_error"

/-- A truthy member of a body as text, or something else. -/
def memberText (body : Json) (key other : String) : String :=
  if (body.member key).isTruthy then (body.member key).shown else other

/-- The error of an answer that is not a success. -/
def RemoteError.ofAnswer (status : Nat) (body : Except Json.ReadError Json) : RemoteError :=
  let payload := match body with
    | .ok v => v
    | .error _ => .null
  { message := memberText payload "message" s!"Notion API returned HTTP {status}"
    status
    code := memberText payload "code" defaultCode }

/-- The error of an answer that does not come. -/
def RemoteError.ofSilence (reason : String) : RemoteError :=
  ⟨"Network error while calling Notion: " ++ reason, 502, "network_error"⟩

/-! ## §3. Calls. -/

/-- What a call has done so far. -/
structure Session where
  /-- The requests sent, in order. -/
  requests : List Request := []
  /-- The lines logged, in order. -/
  log : List LogLine := []
  deriving DecidableEq, Repr

/-- Something that is done by sending requests. -/
abbrev Call := ExceptT CallError (StateM Session)

namespace Call

/-- Logs lines. -/
def logAll (lines : List LogLine) : Call Unit := fun s =>
  (.ok (), { s with log := s.log ++ lines })

/-- Logs a line. -/
def log (channel : Channel) (level : Level) (message : String) : Call Unit :=
  logAll [⟨channel, level, message⟩]

/-- Gives a result or ends with an error. -/
def ofExcept {α : Type} (r : Except CallError α) : Call α := fun s => (r, s)

end Call

/-- A client and the remote side that it talks to. -/
structure Connection where
  /-- The client. -/
  client : Client
  /-- The remote side. -/
  remote : Remote
  /-- After how many requests a listing that has not ended is given up. -/
  patience : Nat

/-- Whether a status is a success. -/
def isSuccess (status : Nat) : Bool := decide (200 ≤ status) && decide (status < 300)

/-- What a reply comes to. -/
def Reply.outcome : Reply → Except CallError Json
  | .silence reason => .error (.remote (.ofSilence reason))
  | .answer status body =>
      if isSuccess status then body.mapError .unreadable
      else .error (.remote (.ofAnswer status body))

/-- What is logged of a reply to a request for a path. -/
def Reply.remarks (method : Method) (path : String) : Reply → List LogLine
  | .silence reason => [⟨.client, .error, s!"Notion {method.name} {path} failed: {reason}"⟩]
  | .answer status body =>
      if isSuccess status then []
      else
        let e := RemoteError.ofAnswer status body
        [⟨.client, .error,
          s!"Notion {method.name} {path} returned {status} ({e.code}): {e.message}"⟩]

/-- The request for a path; the parameters, if there are any, are its whole query. -/
def Client.request (c : Client) (method : Method) (path : String)
    (parameters : List (String × String)) (body : Option Json) : Except CallError Request := do
  let (resolved, query) ← (c.base.resolve path).mapError .address
  let query := if parameters.isEmpty then query else some (Url.formPairs parameters)
  pure ⟨method, String.ofList resolved, query.map String.ofList, body⟩

namespace Connection

/-- Sends a request that is ready. -/
def exchange (c : Connection) (path : String) (r : Request) : Call Json := fun s =>
  let reply := c.remote s.requests r
  (reply.outcome, ⟨s.requests ++ [r], s.log ++ reply.remarks r.method path⟩)

/-- Sends a request and gives the body of its answer. -/
def send (c : Connection) (method : Method) (path : String)
    (parameters : List (String × String) := []) (body : Option Json := none) : Call Json := do
  let r ← Call.ofExcept (c.client.request method path parameters body)
  if r.body.all Json.isFinite then c.exchange path r else throw .unsendable

/-- Sends a request and gives the object that its answer is. -/
def sendForObject (c : Connection) (method : Method) (path : String)
    (parameters : List (String × String) := []) (body : Option Json := none) : Call Json := do
  let v ← c.send method path parameters body
  if v.isObject then pure v else throw .notAnObject

end Connection

end Syllabus.Notion
