/-
  Syllabus.Service.Redaction
  ──────────────────────────
  **WHAT ERRORS LEAVE OUT.**

  A rejected body may be large and private.  What is said about it does not
  repeat it: the report of a rejected field goes without the input, and what
  is logged of a detail goes without the members that hold content.
-/
import Syllabus.Service.Detail

namespace Syllabus.Service

/-! ## §1. Reports of rejected fields. -/

/-- Whether a key is a text. -/
def isKey (name : String) : Detail → Bool
  | .str s => s = name
  | _ => false

/-- The key of the submitted value. -/
def inputKey : String := "input"

/-- The key of what surrounds the report. -/
def contextKey : String := "ctx"

/-- Entries without the submitted value. -/
def withoutInput (entries : List (Detail × Detail)) : List (Detail × Detail) :=
  entries.filter fun (k, _) => !isKey inputKey k

/-- A map without the submitted value; anything else as it is. -/
def withoutInputIn : Detail → Detail
  | .map es => .map (withoutInput es)
  | d => d

/-- Entries of a report without the submitted value, in it and in its context. -/
def scrubbed (entries : List (Detail × Detail)) : List (Detail × Detail) :=
  (withoutInput entries).map fun (k, v) => if isKey contextKey k then (k, withoutInputIn v) else (k, v)

/-- A report of a rejected field as JSON. -/
def reportJson : Detail → Json
  | .map es => (Detail.map (scrubbed es)).toJson
  | d => d.toJson

/-- Reports of rejected fields as JSON. -/
def reportsJson (reports : List Detail) : List Json := reports.map reportJson

/-! ## §2. Details in the log. -/

/-- The members that hold content. -/
def contentKeys : List String := ["content", "blocks", "children", "sections"]

mutual

/-- A value without the members that hold content, at any depth. -/
def redacted : Json → Json
  | .arr xs => .arr (redactedItems xs)
  | .obj ms => .obj (redactedMembers ms)
  | v => v
termination_by structural v => v

/-- Values without the members that hold content. -/
def redactedItems : List Json → List Json
  | [] => []
  | x :: rest => redacted x :: redactedItems rest
termination_by structural vs => vs

/-- Members without those that hold content. -/
def redactedMembers : List (String × Json) → List (String × Json)
  | [] => []
  | (k, v) :: rest =>
      if contentKeys.contains k then redactedMembers rest
      else (k, redacted v) :: redactedMembers rest
termination_by structural ms => ms

end

end Syllabus.Service
