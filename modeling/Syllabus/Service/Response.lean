/-
  Syllabus.Service.Response
  ─────────────────────────
  **ANSWERS TO REQUESTS.**

  An answer has a status, headers and a content: a JSON value, a text, or
  nothing.  The content says its type, unless the headers do.  Every status
  of the standard has a phrase, which stands in for a detail that is missing.
-/
import Syllabus.Json.Printer
import Syllabus.Service.Header

namespace Syllabus.Service

/-! ## §1. Statuses. -/

/-- The statuses and their phrases. -/
def statusPhrases : List (Nat × String) :=
  [(100, "Continue"), (101, "Switching Protocols"), (102, "Processing"), (103, "Early Hints"),
    (200, "OK"), (201, "Created"), (202, "Accepted"), (203, "Non-Authoritative Information"),
    (204, "No Content"), (205, "Reset Content"), (206, "Partial Content"), (207, "Multi-Status"),
    (208, "Already Reported"), (226, "IM Used"), (300, "Multiple Choices"),
    (301, "Moved Permanently"), (302, "Found"), (303, "See Other"), (304, "Not Modified"),
    (305, "Use Proxy"), (307, "Temporary Redirect"), (308, "Permanent Redirect"),
    (400, "Bad Request"), (401, "Unauthorized"), (402, "Payment Required"), (403, "Forbidden"),
    (404, "Not Found"), (405, "Method Not Allowed"), (406, "Not Acceptable"),
    (407, "Proxy Authentication Required"), (408, "Request Timeout"), (409, "Conflict"),
    (410, "Gone"), (411, "Length Required"), (412, "Precondition Failed"),
    (413, "Request Entity Too Large"), (414, "Request-URI Too Long"),
    (415, "Unsupported Media Type"), (416, "Requested Range Not Satisfiable"),
    (417, "Expectation Failed"), (418, "I\x27m a Teapot"), (421, "Misdirected Request"),
    (422, "Unprocessable Entity"), (423, "Locked"), (424, "Failed Dependency"), (425, "Too Early"),
    (426, "Upgrade Required"), (428, "Precondition Required"), (429, "Too Many Requests"),
    (431, "Request Header Fields Too Large"), (451, "Unavailable For Legal Reasons"),
    (500, "Internal Server Error"), (501, "Not Implemented"), (502, "Bad Gateway"),
    (503, "Service Unavailable"), (504, "Gateway Timeout"), (505, "HTTP Version Not Supported"),
    (506, "Variant Also Negotiates"), (507, "Insufficient Storage"), (508, "Loop Detected"),
    (510, "Not Extended"), (511, "Network Authentication Required")]

/-- The phrase of a status, if the standard has it. -/
def statusPhrase? (status : Int) : Option String :=
  (statusPhrases.find? fun (code, _) => (code : Int) = status).map Prod.snd

/-! ## §2. Answers. -/

/-- What an answer says. -/
inductive ResponseBody where
  /-- A JSON value. -/
  | json (v : Json)
  /-- A text. -/
  | text (s : String)
  /-- Nothing. -/
  | nothing
  deriving DecidableEq, Repr

/-- The type of a content, if it has one. -/
def ResponseBody.type? : ResponseBody → Option String
  | .json _ => some "application/json"
  | .text _ => some "text/plain; charset=utf-8"
  | .nothing => none

/-- An answer. -/
structure Response where
  /-- Its status. -/
  status : Int
  /-- Its headers. -/
  headers : Headers := []
  /-- What it says. -/
  content : ResponseBody := .nothing
  deriving DecidableEq, Repr

namespace Response

/-- An answer with some headers and a content; the content says its type unless a header does. -/
def of (status : Int) (headers : Headers) (content : ResponseBody) : Response :=
  let named := headers.lowerNames
  { status, content
    headers := match content.type? with
      | some type => named.setDefault "content-type" type
      | none => named }

/-- An answer in JSON; a number that is not finite is written as `null`. -/
def json (status : Int) (v : Json) (headers : Headers := []) : Response :=
  of status headers (.json v.finiteOnly)

/-- An answer without what it says, as it is given to those who ask for the head only. -/
def headOnly (r : Response) : Response := { r with content := .nothing }

end Response

end Syllabus.Service
