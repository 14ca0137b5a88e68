/-
  Syllabus.Service.Interruption
  ─────────────────────────────
  **WHY A REQUEST HAS NO REGULAR ANSWER.**

  Handling a request may be interrupted: the request is turned down, its body
  does not have the right form, the remote side fails, there is no client, or
  something happens that nobody foresaw.  Every interruption has an answer and
  log lines.  What the caller can mend is said; what it cannot is masked, and
  only the log knows.
-/
import Syllabus.Environment.Settings
import Syllabus.Service.Redaction
import Syllabus.Service.Response

namespace Syllabus.Service

/-! ## §1. The causes. -/

/-- A request that is turned down. -/
structure Refusal where
  /-- The status of the answer. -/
  status : Int
  /-- Why, in any form. -/
  detail : Json
  /-- Further headers of the answer. -/
  headers : Headers := []
  deriving DecidableEq, Repr

/-- A status that the standard does not have, where its phrase is needed. -/
structure UnknownStatus where
  /-- The status. -/
  status : Int
  deriving DecidableEq, Repr

/-- The fault in words. -/
def UnknownStatus.message (e : UnknownStatus) : String := s!"{e.status} is not a valid HTTPStatus"

/-- A refusal; where there is no detail, the phrase of the status is one. -/
def Refusal.of (status : Int) (detail : Json) (headers : Headers) : Except UnknownStatus Refusal :=
  match detail with
  | .null => match statusPhrase? status with
    | some phrase => .ok ⟨status, .str phrase, headers⟩
    | none => .error ⟨status⟩
  | detail => .ok ⟨status, detail, headers⟩

/-- What nobody foresaw. -/
inductive Fault where
  /-- A call to the remote side ends with an error of its own making. -/
  | call (error : Notion.CallError)
  /-- The estimated time of a course cannot be read. -/
  | time (error : Text.NumeralError)
  /-- The settings make no sense. -/
  | settings (fault : SettingsFault)
  /-- Something that is listed as a block is none. -/
  | listing
  deriving DecidableEq, Repr

/-- The name of a fault in the log. -/
def Fault.kind : Fault → String
  | .call error => error.kind
  | .time _ => "ValueError"
  | .settings _ => "ValueError"
  | .listing => "ValidationError"

/-- Why a request has no regular answer. -/
inductive Interruption where
  /-- It is turned down. -/
  | refused (refusal : Refusal)
  /-- Its body does not have the right form. -/
  | malformed (reports : List Detail)
  /-- The remote side fails. -/
  | remote (error : Notion.RemoteError)
  /-- There is no client. -/
  | unconfigured
  /-- Something else happened. -/
  | broken (fault : Fault)
  deriving Repr

/-- The interruption by the error of a call. -/
def Interruption.ofCallError : Notion.CallError → Interruption
  | .remote error => .remote error
  | error => .broken (.call error)

/-- A request that is turned down because of what it says. -/
def Interruption.badRequest (detail : Json) : Interruption := .refused ⟨400, detail, []⟩

/-! ## §2. The answers. -/

/-- The request that is interrupted, as reports name it. -/
structure Occasion where
  /-- Its id, if it has one. -/
  id : Option String
  /-- Its method. -/
  method : String
  /-- Its path. -/
  path : String
  deriving DecidableEq, Repr

/-- The path as reports name it: up to a mark that an address would end it at, without line ends and
tabs. -/
def Occasion.shownPath (o : Occasion) : String :=
  String.ofList ((o.path.toList.takeWhile fun c => c != '?' && c != '#').filter
    fun c => c != '\t' && c != '\n' && c != '\r')

/-- The id as reports name it. -/
def Occasion.shownId (o : Occasion) : String := o.id.getD "None"

/-- How log lines name the request. -/
def Occasion.label (o : Occasion) : String := s!"request_id={o.shownId} path={o.shownPath}"

/-- The member that carries the id, unless it is empty. -/
def Occasion.idMember (id : Option String) : List (String × Json) :=
  ((id.filter fun s => !s.isEmpty).map fun s => ("requestId", .str s)).toList

/-- What the answer to an interrupted request says. -/
def errorBody (detail : Json) (id : Option String) : Json :=
  .obj ([("success", .bool false), ("detail", detail)] ++ Occasion.idMember id)

/-- The detail that stands for every fault of the service. -/
def maskedDetail : Json := .str "Internal Server Error"

/-- The line that reports an interruption. -/
def serverLine (level : Level) (message : String) : LogLine := ⟨.server, level, message⟩

/-- The answer to a request that is turned down.  From status 500 on the detail is masked, and below
it is logged only if the settings say so. -/
def Refusal.answer (e : Environment) (o : Occasion) (r : Refusal) :
    Except SettingsFault (Response × List LogLine) := do
  let settings ← Settings.ofEnvironment e
  let line (detail : Json) : String :=
    s!"HTTPException {o.label} status_code={r.status} detail={detail.shown}"
  if 500 ≤ r.status then
    pure (.json r.status (errorBody maskedDetail o.id), [serverLine .error (line r.detail)])
  else
    pure (.json r.status (errorBody r.detail o.id) r.headers,
      if settings.logClientFaults then [serverLine .warning (line (redacted r.detail))] else [])

/-- The answer to a body that does not have the right form. -/
def malformedAnswer (o : Occasion) (reports : List Detail) : Response × List LogLine :=
  let errors := Json.arr (reportsJson reports)
  (.json 422 (errorBody errors o.id),
    [serverLine .warning
      s!"Request validation failed {o.label} method={o.method} errors={errors.quoted}"])

/-- The status for a failure of the remote side: its own if the caller can mend it. -/
def remoteStatus (status : Nat) : Nat := if 400 ≤ status ∧ status < 500 then status else 502

/-- The answer to a failure of the remote side. -/
def remoteAnswer (o : Occasion) (e : Notion.RemoteError) : Response × List LogLine :=
  (.json (remoteStatus e.status)
      (.obj ([("success", .bool false), ("error", .str e.message), ("code", .str e.code)]
        ++ Occasion.idMember o.id)),
    [serverLine .error
      s!"Notion API failure {o.label} status_code={e.status} code={e.code} message={e.message}"])

/-- The answer where there is no client. -/
def unconfiguredAnswer (o : Occasion) : Response × List LogLine :=
  (.json 503 (errorBody (.str "Notion integration is not configured") o.id),
    [serverLine .error s!"Notion client not configured {o.label}"])

/-- The answer to what nobody foresaw. -/
def Fault.answer (o : Occasion) (fault : Fault) : Response × List LogLine :=
  (.json 500 (errorBody maskedDetail o.id),
    [serverLine .error s!"Global exception {o.label} error_type={fault.kind}"])

/-- The answer to an interrupted request, unless something happened that nobody foresaw. -/
def Interruption.answer (e : Environment) (o : Occasion) :
    Interruption → Except Fault (Response × List LogLine)
  | .refused refusal => (refusal.answer e o).mapError .settings
  | .malformed reports => .ok (malformedAnswer o reports)
  | .remote error => .ok (remoteAnswer o error)
  | .unconfigured => .ok (unconfiguredAnswer o)
  | .broken fault => .error fault

end Syllabus.Service
