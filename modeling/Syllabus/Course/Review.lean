/-
  Syllabus.Course.Review
  ──────────────────────
  **CHECKING A COURSE BEFORE IT IS BUILT.**

  A review goes over the course as the author wrote it and visits every item,
  nested ones included, at the place where building visits it.  What blocks a
  course is an error, what is merely bad style a warning.  An item that has no
  other error is also converted, so that whatever building would refuse is
  found here.
-/
import Syllabus.Item.Reading
import Syllabus.Journal
import Syllabus.RichText.Run

namespace Syllabus.Review

/-! ## §1. One item on its own. -/

/-- The index of the right option, if the author's value has one that is a whole number. -/
def quizIndex? : Json → Option Int
  | .null => some 0
  | .bool false => some 0
  | .bool true => none
  | .int n => some n
  | .float x => x.toInt?
  | .str s => (Text.readInt (Text.strip s)).toOption
  | _ => none

/-- Whether a value is the index of one of `count` options. -/
def isIndexBelow (count : Nat) (v : Json) : Bool :=
  match quizIndex? v with
  | some n => decide (0 ≤ n) && decide (n < count)
  | none => false

/-- A value that has a text. -/
def hasText : Json → Bool
  | .str s => !Text.isBlank s
  | _ => false

/-- Checks the options of a quiz and the index of the right one. -/
def checkQuiz (label : String) (ms : List (String × Json)) : Writing Unit :=
  let count := ((Json.lookup "options" ms).getD .null).items.length
  let index := (Json.lookup "correctIndex" ms).getD .null
  if count < 2 then
    Writing.record "quiz_too_few_options"
      s!"{label}: quiz needs at least 2 options (got {count})" .error
  else if isIndexBelow count index then pure ()
  else
    Writing.record "quiz_index_out_of_range"
      (label ++ ": quiz correctIndex " ++ index.quoted ++ " is out of range") .error

/-- The tags whose URL is checked. -/
def urlTags : List Tag := [.media .image, .media .video, .media .audio, .media .pdf]

/-- Whether a value is an absolute web address. -/
def isWebAddress : Json → Bool
  | .str s => Url.isWeb s
  | _ => false

/-- Checks the URL of an item. -/
def checkUrl (label : String) (tag : Tag) (ms : List (String × Json)) : Writing Unit :=
  let url := (Json.lookup "url" ms).getD .null
  if isWebAddress url then pure ()
  else
    Writing.record "invalid_url"
      (label ++ ": invalid URL for " ++ tag.name ++ ": " ++ url.quoted) .error

/-- Checks the length of the text of an item. -/
def checkLength (label : String) (ms : List (String × Json)) : Writing Unit :=
  match Json.lookup "text" ms with
  | some (.str s) =>
      if Run.maxChars < s.length then
        Writing.record "text_too_long"
          s!"{label}: text is {s.length} characters; it will be truncated to {Run.maxChars}" .warning
      else pure ()
  | _ => pure ()

/-- Checks that an item can be converted. -/
def checkConversion (label : String) (tag : Tag) (ms : List (String × Json)) : Writing Unit :=
  match Item.ofMembers ms with
  | .malformed _ error =>
      Writing.record "malformed_item" (label ++ ": invalid " ++ tag.name ++ " item: " ++ error) .error
  | _ => pure ()

/-- How many errors have been recorded. -/
def errorCount : Writing Nat := do
  let j ← get
  pure j.collector.errors.length

/-- Checks the members of an item.  It is converted only if it has no other error. -/
def checkMembers (label : String) (ms : List (String × Json)) : Writing Unit := do
  let before ← errorCount
  let tag? := Tag.ofJson? ((Json.lookup "type" ms).getD .null)
  if tag? = some .quiz then checkQuiz label ms
  match tag? with
  | some tag => if urlTags.contains tag then checkUrl label tag ms
  | none => pure ()
  checkLength label ms
  let after ← errorCount
  match tag? with
  | some tag => if after = before then checkConversion label tag ms
  | none => pure ()

/-! ## §2. Items in their places. -/

/-- Runs something at a place further in. -/
def scope (steps : Path) (w : Writing Unit) : Writing Unit := do
  Writing.enter steps
  w
  Writing.leave steps.length

mutual

/-- Reviews an item and everything that is nested in it. -/
def item (label : String) : Json → Writing Unit
  | .str _ => pure ()
  | .obj ms => do
      checkMembers label ms
      nested label ms
      side label "left" ms
      side label "right" ms
  | _ =>
      Writing.record "malformed_item"
        (label ++ ": content item must be an object or a string") .error
termination_by structural v => v

/-- Reviews the nested items among members. -/
def nested (label : String) : List (String × Json) → Writing Unit
  | [] => pure ()
  | (key, v) :: rest => if key = "children" then children label v else nested label rest
termination_by structural ms => ms

/-- Reviews the items of an array of nested items. -/
def children (label : String) : Json → Writing Unit
  | .arr vs => childrenFrom label 0 vs
  | _ => pure ()
termination_by structural v => v

/-- Reviews nested items, from an index on. -/
def childrenFrom (label : String) : (index : Nat) → List Json → Writing Unit
  | _, [] => pure ()
  | index, v :: rest => do
      scope [.key "children", .index index] (item label v)
      childrenFrom label (index + 1) rest
termination_by structural _ vs => vs

/-- Reviews what is nested in a side. -/
def side (label name : String) : List (String × Json) → Writing Unit
  | [] => pure ()
  | (key, v) :: rest => if key = name then within label name v else side label name rest
termination_by structural ms => ms

/-- Reviews what is nested in an object under a name. -/
def within (label name : String) : Json → Writing Unit
  | .obj ms => scope [.key name] (nested label ms)
  | _ => pure ()
termination_by structural v => v

end

/-! ## §3. Sections and courses. -/

/-- How many paragraphs in a row are too many. -/
def paragraphRunLimit : Nat := 3

/-- Whether an item is a paragraph as the author tagged it. -/
def isParagraph : Json → Bool
  | .str _ => true
  | .obj ms => Json.lookup "type" ms == some (.str "paragraph")
  | _ => false

/-- Reviews the items of a section, from an index on; `run` paragraphs stand in front of it. -/
def itemsFrom (label : String) : (index run : Nat) → List Json → Writing Unit
  | _, _, [] => pure ()
  | index, run, v :: rest => do
      let run := if isParagraph v then run + 1 else 0
      scope [.key "content", .index index] do
        if isParagraph v && run == paragraphRunLimit then
          Writing.record "consecutive_paragraphs"
            (s!"{label}: {paragraphRunLimit} or more consecutive paragraphs; "
              ++ "vary the block types") .warning
        item label v
      itemsFrom label (index + 1) run rest

/-- Reviews a section. -/
def oneSection (number : Nat) (v : Json) : Writing Unit := do
  let label := s!"Section {number}"
  let content := (v.member "content").items
  if !hasText (v.member "title") then
    Writing.record "section_missing_title" (label ++ ": missing title") .error
  if content.isEmpty then
    Writing.record "section_missing_content" (label ++ ": missing content") .error
  else itemsFrom label 0 0 content

/-- Reviews sections, from an index on. -/
def sectionsFrom : (index : Nat) → List Json → Writing Unit
  | _, [] => pure ()
  | index, v :: rest => do
      scope [.key "sections", .index index] (oneSection (index + 1) v)
      sectionsFrom (index + 1) rest

/-- What a review comes to. -/
structure Verdict where
  /-- What blocks the course. -/
  errors : List String
  /-- What is bad style. -/
  warnings : List String
  deriving DecidableEq, Repr

/-- Whether nothing blocks the course. -/
def Verdict.valid (v : Verdict) : Bool := v.errors.isEmpty

/-- The verdict of some diagnostics. -/
def Verdict.of (found : List Diagnostic) : Verdict :=
  { errors := (found.filter (·.severity = .error)).map (·.message)
    warnings := (found.filter (·.severity = .warning)).map (·.message) }

/-- Reviews the parts of a course. -/
def courseParts (course : Json) : Writing Unit := do
  let sections := (course.member "sections").items
  if !hasText (course.member "title") then
    Writing.record "course_missing_title" "Missing course title" .error
  if sections.isEmpty then
    Writing.record "course_missing_sections" "At least one section is required" .error
  sectionsFrom 0 sections

/-- Reviews a course; the verdict is on what this review finds. -/
def course (course : Json) : Writing Verdict := do
  let before ← get
  courseParts course
  let after ← get
  pure (Verdict.of (after.collector.entries.drop before.collector.entries.length))

end Syllabus.Review
