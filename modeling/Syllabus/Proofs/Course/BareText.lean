/-
  Syllabus.Proofs.Course.BareText
  ───────────────────────────────
  **A BARE TEXT IS A PARAGRAPH, BUT FOR ITS LENGTH.**

  Instead of a paragraph an author may write its text alone.  Both are built
  the same way and count the same among paragraphs in a row.  A review has
  nothing to say of a bare text, though, not even that it is too long and will
  be cut off.

      paragraphOf            a bare text written out
      foundIn_paragraphOf    all that is found in it is that it is too long
      courseParts_written    what is found in a course with a text written out
-/
import Syllabus.Proofs.Course.Surroundings

namespace Syllabus

/-! ## §1. One text. -/

/-- A bare text written out. -/
def paragraphOf (s : String) : Json := .obj [("type", .str "paragraph"), ("text", .str s)]

theorem buildItem_paragraphOf (options : BuildOptions) (s : String) :
    buildItem options (paragraphOf s) = buildItem options (.str s) := rfl

namespace Review

open Writing

theorem isParagraph_paragraphOf (s : String) : isParagraph (paragraphOf s) = true := rfl

/-- What a review says of a text that is too long. -/
def tooLong (label s : String) (path : Path) : Diagnostic where
  code := "text_too_long"
  message := s!"{label}: text is {s.length} characters; it will be truncated to {Run.maxChars}"
  path := path
  severity := .warning

/-- What a review says of the length of a text. -/
def ofLength (label s : String) (path : Path) : List Diagnostic :=
  if Run.maxChars < s.length then [tooLong label s path] else []

theorem ofLength_under (steps : Path) (label s : String) (path : Path) :
    (ofLength label s path).map (.under steps) = ofLength label s (steps ++ path) := by
  unfold ofLength
  split <;> rfl

theorem gives_checkLength {ms : List (String × Json)} {s : String}
    (h : Json.lookup "text" ms = some (.str s)) (label : String) :
    Gives (checkLength label ms) () ⟨ofLength label s [], []⟩ := by
  unfold checkLength ofLength
  rw [h]
  dsimp only
  split
  · exact gives_record _ _ _
  · exact gives_pure ()

variable {keeps : Severity → Bool}

theorem foundIn_str (label s : String) : foundIn keeps label (.str s) = [] := rfl

/-- All that can be wrong with a paragraph is that it is too long. -/
theorem foundIn_paragraphOf (label s : String) :
    foundIn keeps label (paragraphOf s) = (ofLength label s []).filter fun d => keeps d.severity := by
  have hfirst : Gives (firstChecks label (some (.text .paragraph))
      [("type", .str "paragraph"), ("text", .str s)]) () ⟨ofLength label s [], []⟩ := by
    rw [firstChecks_eq]
    exact Gives.bind (f := fun _ => checkLength label _) (gives_pure ()) (gives_checkLength rfl label)
  have hlast : Gives (lastCheck label (some (.text .paragraph))
      [("type", .str "paragraph"), ("text", .str s)]) () {} := gives_pure ()
  have hown := gives_checkMembers label [("type", .str "paragraph"), ("text", .str s)] hfirst hlast
  rw [Notes.append_none, ite_self] at hown
  unfold paragraphOf
  rw [foundIn_obj, hown.notes_eq]
  exact List.append_nil _

end Review

/-! ## §2. A text in its course. -/

section Written

open Review

variable {course : Json} {i k : Nat} {q : Path} {s : String}

/-- A course with a text written out is built as before. -/
theorem buildCourse_written (hq : q.Nesting) (h : course.at? (.ofItem i k q) = some (.str s))
    (options : BuildOptions) :
    buildCourse options (course.put (.ofItem i k q) (paragraphOf s)) = buildCourse options course := by
  rw [buildCourse_put hq (buildItem_paragraphOf options s), Json.put_self h]

/-- What is found in a course with a text written out, around the place of the text. -/
theorem courseParts_written (hq : q.Nesting) (h : course.at? (.ofItem i k q) = some (.str s)) :
    ∃ front back, (courseParts course).notes.found = front ++ back
      ∧ (courseParts (course.put (.ofItem i k q) (paragraphOf s))).notes.found
          = front ++ (ofLength s!"Section {i + 1}" s (.ofItem i k q) ++ back) := by
  have hall : ∀ n : Notes, n.kept (fun _ => true) = n.found :=
    fun n => List.filter_eq_self.mpr fun _ _ => rfl
  obtain ⟨front, back, haround⟩ := courseParts_put (P := fun v => isParagraph v = true)
    (fun _ => true) hq h fun _ hparagraph _ => hparagraph
  simp only [hall] at haround
  refine ⟨front, back, ?_, ?_⟩
  · have hbare := haround (.str s) rfl
    rw [Json.put_self h, foundIn_str, List.map_nil, List.append_nil] at hbare
    exact hbare
  · have hwritten := haround (paragraphOf s) (isParagraph_paragraphOf s)
    rw [foundIn_paragraphOf, List.filter_eq_self.mpr fun _ _ => rfl, ofLength_under, List.append_nil,
      List.append_assoc] at hwritten
    exact hwritten

/-- A review says as much of a course as it finds in it. -/
theorem review_congr {course' : Json}
    (h : (courseParts course').notes.found = (courseParts course).notes.found) (j : Journal) :
    (Review.course course' j).1 = (Review.course course j).1
      ∧ (Review.course course' j).2.collector = (Review.course course j).2.collector := by
  rw [gives_review, gives_review]
  unfold Journal.noted
  rw [h]
  exact ⟨rfl, rfl⟩

/-- **A bare text is a paragraph.**  Wherever it stands in a course, the course is built in the same way
once the text is written out.  Unless the text is too long to be kept, a review says and records the same.
Of a longer text it is said, once it is written out, that it is too long, at its place, and everything else
stays the same before that and after it. -/
theorem bare_texts_are_paragraphs (hq : q.Nesting) (h : course.at? (.ofItem i k q) = some (.str s))
    (options : BuildOptions) :
    let written := course.put (.ofItem i k q) (paragraphOf s)
    buildCourse options written = buildCourse options course
      ∧ (s.length ≤ Run.maxChars → ∀ j, (Review.course written j).1 = (Review.course course j).1
        ∧ (Review.course written j).2.collector = (Review.course course j).2.collector)
      ∧ (Run.maxChars < s.length → ∃ front back, ∀ j,
        let long := tooLong s!"Section {i + 1}" s (.ofItem i k q)
        (Review.course course j).1 = Verdict.of (front ++ back)
          ∧ (Review.course written j).1 = Verdict.of (front ++ long :: back)
          ∧ (Review.course course j).2.collector.entries
              = j.collector.entries ++ (front ++ back).map (.under j.collector.stack)
          ∧ (Review.course written j).2.collector.entries
              = j.collector.entries ++ (front ++ long :: back).map (.under j.collector.stack)) := by
  intro written
  obtain ⟨front, back, hbare, hwritten⟩ := courseParts_written hq h
  refine ⟨buildCourse_written hq h options, ?short, ?long⟩
  case short =>
      intro hlength
      refine review_congr ?_
      rw [hwritten, hbare, ofLength, if_neg (Nat.not_lt.mpr hlength), List.nil_append]
  case long =>
      intro hlength
      rw [ofLength, if_pos hlength] at hwritten
      refine ⟨front, back, fun j => ?_⟩
      rw [gives_review, gives_review, Journal.noted_entries, Journal.noted_entries, hbare, hwritten]
      exact ⟨rfl, rfl, rfl, rfl⟩

/-- The third of three bare texts in a row is written out: it is still the third paragraph. -/
theorem bare_text_among_paragraphs :
    let course : Json := .obj [("title", .str "T"), ("sections", .arr [.obj [("title", .str "S"),
      ("content", .arr [.str "One.", .str "Two.", .str "Three."])]])]
    let written := course.put (.ofItem 0 2 []) (paragraphOf "Three.")
    course.at? (.ofItem 0 2 []) = some (.str "Three.") ∧ "Three.".length ≤ Run.maxChars
      ∧ buildCourse {} written = buildCourse {} course
      ∧ (Review.course written {}).1.warnings
          = ["Section 1: 3 or more consecutive paragraphs; vary the block types"] := by
  intro course written
  have hplace : course.at? (.ofItem 0 2 []) = some (.str "Three.") := rfl
  have hlength : "Three.".length ≤ Run.maxChars := by decide
  obtain ⟨hbuilt, hreviewed, _⟩ := bare_texts_are_paragraphs .here hplace {}
  exact ⟨hplace, hlength, hbuilt, congrArg Verdict.warnings (hreviewed hlength {}).1⟩

end Written

/-- A text of 2001 characters is cut off.  If it stands alone, a review keeps silent about that; if it is
written out, it does not. -/
theorem long_bare_text_unnoticed :
    let text := String.ofList (List.replicate 2001 'x')
    let course : Json := .obj [("title", .str "T"), ("sections", .arr [.obj [("title", .str "S"),
      ("content", .arr [.str text])]])]
    course.at? (.ofItem 0 0 []) = some (.str text)
      ∧ (Review.course (course.put (.ofItem 0 0 []) (paragraphOf text)) {}).1
          ≠ (Review.course course {}).1 := by
  intro text course
  have hplace : course.at? (.ofItem 0 0 []) = some (.str text) := rfl
  refine ⟨hplace, fun heq => ?_⟩
  obtain ⟨front, back, hbare, hwritten⟩ := courseParts_written .here hplace
  have hlong : Run.maxChars < text.length := by
    rw [String.length_ofList, List.length_replicate]
    decide
  rw [Review.gives_review, Review.gives_review, hbare, hwritten, Review.ofLength, if_pos hlong] at heq
  -- One warning more.
  have hcount := congrArg (fun v => v.warnings.length) heq
  simp [Review.Verdict.of, Review.tooLong] at hcount

end Syllabus
