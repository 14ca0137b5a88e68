/-
  Syllabus.Course.Statistics
  ──────────────────────────
  **COUNTS OF ITEMS, AND WHAT THEY SUGGEST.**

  Items are counted as the author tagged them, without resolving synonyms: a
  bare string as a paragraph, and what has no tag as unknown.  From the counts
  follow hints on how to improve the course.
-/
import Syllabus.Binary64
import Syllabus.Json.Basic

namespace Syllabus

/-! ## §1. Counting. -/

/-- Counts of the items of a course. -/
structure Statistics where
  /-- How many sections there are. -/
  totalSections : Int := 0
  /-- How many items there are. -/
  totalBlocks : Int := 0
  /-- How many items have each tag, in the order in which the tags first occur. -/
  blockTypes : List (String × Int) := []
  /-- How many items each section has. -/
  blocksPerSection : List Int := []
  deriving DecidableEq, Repr

/-- The tag of an item as the author wrote it. -/
def rawTag : Json → String
  | .str _ => "paragraph"
  | .obj ms => ((Json.lookup "type" ms).bind Json.str?).getD "unknown"
  | _ => "unknown"

/-- Counts a tag once more. -/
def countTag (tag : String) : List (String × Int) → List (String × Int)
  | [] => [(tag, 1)]
  | (t, n) :: rest => if t = tag then (t, n + 1) :: rest else (t, n) :: countTag tag rest

/-- The items of the sections of a course. -/
def sectionItems (course : Json) : List (List Json) :=
  (course.member "sections").items.map fun s => (s.member "content").items

/-- The counts of a course. -/
def Statistics.ofCourse (course : Json) : Statistics :=
  let sections := sectionItems course
  let perSection : List Int := sections.map fun items => items.length
  { totalSections := perSection.length
    totalBlocks := perSection.foldr (· + ·) 0
    blockTypes := (sections.flatten.map rawTag).foldl (fun acc tag => countTag tag acc) []
    blocksPerSection := perSection }

/-- How many items have one of some tags. -/
def Statistics.count (s : Statistics) (tags : List String) : Int :=
  (tags.map fun tag => (s.blockTypes.lookup tag).getD 0).foldr (· + ·) 0

/-! ## §2. Recommendations. -/

/-- Whether the quotient of two whole numbers, as a double, is above a bound given as a ratio.  A
quotient by zero is above nothing. -/
def quotientAbove (n d : Int) (num den : Nat) : Bool :=
  d != 0 && (Binary64.ofRatio (decide (n < 0) != decide (d < 0)) n.natAbs d.natAbs).isAbove num den

/-- The most items per section, on average, before a hint is given. -/
def blocksPerSectionLimit : Nat := 15

/-- The hint on too many paragraphs. -/
def paragraphHint : String :=
  "📝 More than half of the blocks are paragraphs. Break the text up with callouts, lists or examples."

/-- The hint on missing exercises. -/
def exerciseHint : String := "✏️ Add practical exercises to reinforce learning."

/-- The hint on missing quizzes. -/
def quizHint : String := "🧠 Add quizzes so learners can check their understanding."

/-- The hint on long sections. -/
def lengthHint : String :=
  s!"📚 Sections average more than {blocksPerSectionLimit} blocks. "
    ++ "Consider splitting them into smaller sections."

/-- What is said when there is no hint. -/
def allGood : String := "✅ The course structure looks well balanced."

/-- A text, if a condition holds. -/
def whenTrue (condition : Bool) (text : String) : List String := if condition then [text] else []

/-- The hints that the counts give rise to. -/
def Statistics.hints (s : Statistics) : List String :=
  whenTrue (quotientAbove (s.count ["paragraph"]) s.totalBlocks 1 2) paragraphHint
    ++ whenTrue (s.count ["exercice", "exercise"] = 0) exerciseHint
    ++ whenTrue (s.count ["quiz", "quickQuiz"] = 0) quizHint
    ++ whenTrue (quotientAbove s.totalBlocks s.totalSections blocksPerSectionLimit 1) lengthHint

/-- The hints, or that all is well. -/
def Statistics.recommendations (s : Statistics) : List String :=
  if s.hints.isEmpty then [allGood] else s.hints

/-- The counts in their final form. -/
def Statistics.toJson (s : Statistics) : Json :=
  .obj [("totalSections", .int s.totalSections), ("totalBlocks", .int s.totalBlocks),
    ("blockTypes", .obj (s.blockTypes.map fun (t, n) => (t, .int n))),
    ("blocksPerSection", .arr (s.blocksPerSection.map .int))]

end Syllabus
