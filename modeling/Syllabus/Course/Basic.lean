/-
  Syllabus.Course.Basic
  ─────────────────────
  **COURSES AND SECTIONS, READ LENIENTLY.**

  What an author leaves out or mistypes reads as empty; texts are trimmed.
  One thing can go wrong: an estimated time written in digits that make up no
  decimal number, or too many of them, is refused.
-/
import Syllabus.Json.Basic
import Syllabus.Text.Numeral

namespace Syllabus

/-! ## §1. The types. -/

/-- A section of a course. -/
structure Section where
  /-- Its title. -/
  title : String := ""
  /-- What it is about. -/
  description : Option String := none
  /-- The color of its heading. -/
  color : Option String := none
  /-- Whether its heading can be folded. -/
  toggleable : Bool := false
  /-- Its items, as they are written. -/
  content : List Json := []
  deriving DecidableEq

/-- A course. -/
structure Course where
  /-- Where its page goes. -/
  parentId : String := ""
  /-- Its title. -/
  title : String := ""
  /-- The icon of its page. -/
  icon : Option String := none
  /-- The cover of its page. -/
  cover : Option String := none
  /-- What it is about. -/
  description : Option String := none
  /-- How many minutes it takes. -/
  estimatedTime : Option Int := none
  /-- What has to be known before. -/
  prerequisites : List String := []
  /-- What is learnt. -/
  objectives : List String := []
  /-- Its sections. -/
  sections : List Section := []
  deriving DecidableEq

/-! ## §2. Lenient readers. -/

namespace Lenient

/-- The trimmed text of a string; anything else reads as empty. -/
def text : Json → String
  | .str s => Text.strip s
  | _ => ""

/-- A trimmed text that is not empty. -/
def text? (v : Json) : Option String :=
  let s := text v
  if s.isEmpty then none else some s

/-- The strings of an array, as they are. -/
def texts (v : Json) : List String := v.items.filterMap Json.str?

/-- A number that is not zero. -/
def nonZero? (n : Int) : Option Int := if n = 0 then none else some n

/-- A positive number of minutes.  Fractions are cut off, and digits in a string are read as a whole
number, which is where reading can fail. -/
def minutes? : Json → Except Text.NumeralError (Option Int)
  | .int n => .ok (if 0 < n then some n else none)
  | .float x => .ok (if x.isPositive then x.truncate?.bind nonZero? else none)
  | .str s =>
      let word := Text.strip s
      if Text.isAllDigits word then (Text.readInt word).map nonZero? else .ok none
  | _ => .ok none

end Lenient

/-! ## §3. Reading sections and courses. -/

/-- The section that a value describes. -/
def Section.ofJson (v : Json) : Section :=
  { title := Lenient.text (v.member "title")
    description := Lenient.text? (v.member "description")
    color := Lenient.text? (v.member "color")
    toggleable := v.member "toggleable" = .bool true
    content := (v.member "content").items }

/-- The course that a value describes. -/
def Course.ofJson (v : Json) : Except Text.NumeralError Course := do
  let estimatedTime ← Lenient.minutes? (v.member "estimatedTime")
  pure
    { parentId := Lenient.text (v.member "parentId")
      title := Lenient.text (v.member "title")
      icon := Lenient.text? (v.member "icon")
      cover := Lenient.text? (v.member "cover")
      description := Lenient.text? (v.member "description")
      estimatedTime
      prerequisites := Lenient.texts (v.member "prerequisites")
      objectives := Lenient.texts (v.member "objectives")
      sections := (v.member "sections").items.map Section.ofJson }

end Syllabus
