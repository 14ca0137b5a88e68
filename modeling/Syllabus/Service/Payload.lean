/-
  Syllabus.Service.Payload
  ────────────────────────
  **THE BODY OF A REQUEST.**

  A body is read as JSON if it is said to be, or if nothing is said about it.
  Where a task has a form for its body, the body is checked field by field,
  and all that is wrong with it is reported at once; fields that the form does
  not have are passed over.

      Payload.read     what a body holds
      Payload.filled   the members of a body that fits a form
-/
import Syllabus.Json.Reader
import Syllabus.Service.Interruption

namespace Syllabus.Service

/-! ## §1. Reports. -/

/-- A report of something in a body that does not fit. -/
structure Report where
  /-- What kind of thing is wrong. -/
  kind : String
  /-- Where in the body it is. -/
  place : List Detail
  /-- What is wrong, in words. -/
  message : String
  /-- What was submitted there. -/
  input : Json
  /-- What surrounds it. -/
  context : List (String × Detail) := []
  deriving Repr

/-- A report as a detail. -/
def Report.toDetail (r : Report) : Detail :=
  .map ([(.str "type", .str r.kind), (.str "loc", .tuple (.str "body" :: r.place)),
      (.str "msg", .str r.message), (.str inputKey, .ofJson r.input)]
    ++ if r.context.isEmpty then []
      else [(.str contextKey, .map (r.context.map fun (k, v) => (.str k, v)))])

/-- The interruption by what is wrong with a body. -/
def malformed (reports : List Report) : Interruption := .malformed (reports.map Report.toDetail)

/-- The report of a body that is no JSON. -/
def Report.ofReadError (e : Json.ReadError) : Report :=
  { kind := "json_invalid", place := [.int e.offset], message := "JSON decode error"
    input := .obj [], context := [("error", .str e.fault.message)] }

/-- The report of a body that is missing. -/
def Report.missing : Report :=
  { kind := "missing", place := [], message := "Field required", input := .null }

/-- The report of a body that has no fields. -/
def Report.noFields (v : Json) : Report :=
  { kind := "model_attributes_type", place := [], input := v
    message := "Input should be a valid dictionary or object to extract fields from" }

/-! ## §2. Reading. -/

/-- What a body holds. -/
inductive Payload where
  /-- There is none. -/
  | absent
  /-- A JSON value. -/
  | value (v : Json)
  /-- Something that is not said to be JSON. -/
  | other
  deriving DecidableEq, Repr

/-- The type that a header names, without its parameters. -/
def mediaType (header : String) : List Char :=
  (Text.lower (Text.strip (String.ofList (header.toList.takeWhile (· != ';'))))).toList

/-- Whether a type is one of JSON. -/
def isJsonType (type : List Char) : Bool :=
  match Text.splitOn '/' type with
  | [main, sub] =>
      main = "application".toList && (sub = "json".toList || "+json".toList.isSuffixOf sub)
  | _ => false

/-- Whether a body is to be read as JSON. -/
def saysJson (headers : Headers) : Bool :=
  match (headers.getLoosely? "content-type").filter fun s => !s.isEmpty with
  | some header => isJsonType (mediaType header)
  | none => true

/-- A text without the byte order mark that it may start with. -/
def withoutMark (s : String) : String :=
  if Text.startsWith s "\uFEFF" then Text.dropChars 1 s else s

/-- The interruption by a body that cannot be read. -/
def unreadable (e : Json.ReadError) : Interruption :=
  match e.fault with
  | .longNumber _ => .badRequest (.str "There was an error parsing the body")
  | _ => malformed [.ofReadError e]

namespace Payload

/-- Reads a body. -/
def read (headers : Headers) (body : String) : Except Interruption Payload :=
  if body.isEmpty then .ok .absent
  else if saysJson headers then ((Json.parse (withoutMark body)).mapError unreadable).map .value
  else .ok .other

/-- The value that a body holds; `null` where it holds none. -/
def toJson : Payload → Json
  | .value v => v
  | _ => .null

/-! ## §3. Forms. -/

/-- What is wrong with the members of a body. -/
abbrev Form := List (String × Json) → List Report

/-- The members of a body that fits a form. -/
def fields (form : Form) : Payload → Except Interruption (List (String × Json))
  | .absent => .error (malformed [.missing])
  | .value (.obj ms) =>
      let reports := form ms
      if reports.isEmpty then .ok ms else .error (malformed reports)
  | .value v => .error (malformed [.noFields v])
  | .other => .error (malformed [.noFields .null])

/-- The members of a body that fits a form; a body that is missing or `null` has none. -/
def optionalFields (form : Form) : Payload → Except Interruption (List (String × Json))
  | .absent => .ok []
  | .value .null => .ok []
  | p => p.fields form

end Payload

/-- A field that may hold anything, or a form without fields to check. -/
def anyForm : Payload.Form := fun _ => []

/-- What is wrong with something that should be an object. -/
def objectReports (place : List Detail) : Json → List Report
  | .obj _ => []
  | v => [{ kind := "dict_type", place, message := "Input should be a valid dictionary", input := v }]

/-- What is wrong with items that should be objects, from an index on. -/
def itemReports (place : List Detail) : (index : Nat) → List Json → List Report
  | _, [] => []
  | index, v :: rest => objectReports (place ++ [.int index]) v ++ itemReports place (index + 1) rest

/-- What is wrong with a list of objects. -/
def listReports (place : List Detail) : Json → List Report
  | .arr xs => itemReports place 0 xs
  | v => [{ kind := "list_type", place, message := "Input should be a valid list", input := v }]

/-- The longest query. -/
def maxQueryLength : Nat := 500

/-- What is wrong with a query. -/
def textReports (place : List Detail) : Json → List Report
  | .str s =>
      if s.length ≤ maxQueryLength then []
      else
        [{ kind := "string_too_long", place, input := .str s
           message := s!"String should have at most {maxQueryLength} characters"
           context := [("max_length", .int maxQueryLength)] }]
  | v => [{ kind := "string_type", place, message := "Input should be a valid string", input := v }]

/-- Checks a field that may be left out or `null`. -/
def optionalField (name : String) (check : List Detail → Json → List Report) : Payload.Form :=
  fun ms => match (Json.lookup name ms).getD .null with
    | .null => []
    | v => check [.str name] v

/-- The form of a search. -/
def searchForm : Payload.Form := optionalField "query" textReports

/-- The form of changes to a page. -/
def changeForm : Payload.Form := optionalField "properties" objectReports

/-- The form of a page. -/
def pageForm : Payload.Form := fun ms =>
  [("parent", objectReports), ("properties", objectReports), ("children", listReports),
    ("icon", objectReports), ("cover", objectReports)].flatMap
      fun (name, check) => optionalField name check ms

end Syllabus.Service
