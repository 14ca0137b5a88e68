/-
  Syllabus.Proofs.Course.Frame
  ────────────────────────────
  **RECORDS OF EARLIER RUNS ARE LEFT ALONE.**

  A journal can be handed from run to run, and a run can start anywhere in a
  course.  What it finds in the journal is of no consequence to it, and it
  leaves everything there as it was:

      Writing.Framed     what a run has to do with the journal it starts from
      Gives.framed       a run with notes of its own has just that to do with it
      buildItems_ends    building items has notes of its own, however it ends
      Course.page_ends   so has building a page
      gives_review       so has a review
      runs_framed        the frame law

  The place of the run is its stack.  Building can break off at any depth; the
  stack is what it was then too.
-/
import Syllabus.Proofs.Course.Rehearsal
import Syllabus.Proofs.Course.Review

namespace Syllabus

open Form Building

/-! ## §1. Frames. -/

/-- The run gives what it gives on a fresh journal.  It leaves the stack as it finds it, keeps all
that is in the journal, and adds what it adds to a fresh one, seen from the place it starts at. -/
structure Writing.Framed {α : Type} (w : Writing α) (j : Journal) : Prop where
  result : (w.run j).1 = (w.run {}).1
  stack : (w.run j).2.collector.stack = j.collector.stack
  entries : (w.run j).2.collector.entries
    = j.collector.entries ++ (w.run {}).2.collector.entries.map (.under j.collector.stack)
  remarks : (w.run j).2.remarks = j.remarks ++ (w.run {}).2.remarks

theorem Writing.Gives.framed {α : Type} {w : Writing α} {a : α} {n : Notes} (h : Gives w a n)
    (j : Journal) : w.Framed j := by
  have hrun : w.run j = (a, j.noted n) := h j
  have hfresh : w.run {} = (a, ⟨⟨n.found, []⟩, n.remarks⟩) := by
    rw [← Journal.noted_fresh]
    exact h {}
  constructor
  case result => rw [hrun, hfresh]
  case stack => rw [hrun, Journal.noted_stack]
  case entries => rw [hrun, hfresh, Journal.noted_entries]
  case remarks =>
      rw [hrun, hfresh]
      rfl

/-! ## §2. Building. -/

/-- Building items ends one way from every journal, with notes of its own. -/
theorem buildItems_ends (options : BuildOptions) (items : List Json) :
    Meets (fun _ => True) AreBlocks (fun _ => True) (buildItems options items) := by
  obtain ⟨failing, isolate⟩ := options
  obtain ⟨blocks, n, _, k, hblocks, hisolating, _, hstopping, _, _⟩ :=
    isolates_from failing (fun v (_ : v ∈ items) => isolates_item failing v) 0
  cases isolate with
  | true => exact ⟨.ok blocks, n, hisolating, fun _ _ => trivial, hblocks⟩
  | false =>
      -- Without isolation the first loss ends the run.
      refine ⟨_, k, hstopping, fun _ _ => trivial, ?_⟩
      cases lossesFrom failing 0 items with
      | nil => exact hblocks
      | cons l ls => exact trivial

theorem Course.page_ends (options : BuildOptions) (c : Course) :
    Meets (fun _ => True) AreBlocks (fun _ => True) (c.page options) :=
  c.page_reports (fun _ _ _ => trivial) (fun _ _ _ => trivial) (buildItems_ends options)

/-- Building the page of a course as it is written; a course that cannot be read ends it. -/
def buildCourse (options : BuildOptions) (course : Json) : Building (List Block) :=
  match Course.ofJson course with
  | .ok c => c.page options
  | .error e => Building.fail e.message

theorem buildCourse_ends (options : BuildOptions) (course : Json) :
    ∃ r n, Ends (buildCourse options course) r n := by
  unfold buildCourse
  cases Course.ofJson course with
  | error e => exact ⟨_, _, ends_fail e.message⟩
  | ok c =>
      obtain ⟨r, n, hends, _, _⟩ := c.page_ends options
      exact ⟨r, n, hends⟩

/-! ## §3. Reviewing. -/

/-- A verdict says nothing of places. -/
theorem Review.Verdict.of_under (found : List Diagnostic) (steps : Path) :
    Verdict.of (found.map (.under steps)) = Verdict.of found := by
  unfold Verdict.of
  rw [List.filter_map, List.filter_map, List.map_map, List.map_map]
  rfl

/-- A review of a course has notes of its own, although it counts the errors of the journal as it goes
and reads its verdict from there. -/
theorem Review.gives_review (course : Json) :
    Writing.Gives (Review.course course) (Verdict.of (courseParts course).notes.found)
      (courseParts course).notes := by
  intro j
  rw [gives_course, Verdict.of_under]

/-! ## §4. The frame law. -/

/-- **The frame law.**  Whatever is in the journal already and wherever the run starts, building items,
building the page of a course and reviewing a course come to what they come to on a fresh journal, a
failure of a builder at any depth included.  The stack is left as it was, what was in the journal stays
there, and after it comes what a fresh journal gets, with the stack in front of each path. -/
theorem runs_framed (options : BuildOptions) (j : Journal) :
    (∀ items, Writing.Framed (buildItems options items).run j)
      ∧ (∀ course, Writing.Framed (buildCourse options course).run j)
      ∧ ∀ course, Writing.Framed (Review.course course) j := by
  refine ⟨?items, ?course, ?review⟩
  case items =>
      intro items
      obtain ⟨r, n, hends, _, _⟩ := buildItems_ends options items
      exact Writing.Gives.framed (a := r) (n := n) hends j
  case course =>
      intro course
      obtain ⟨r, n, hends⟩ := buildCourse_ends options course
      exact Writing.Gives.framed (a := r) (n := n) hends j
  case review =>
      intro course
      exact (Review.gives_review course).framed j

/-- A divider out of order in a toggle: the failure leaves two places behind, and the stack is what it
was. -/
example :
    let options : BuildOptions := { failing := fun tag => if tag = .layout .divider then some "no ink" else none }
    let toggle : Json := .obj [("type", .str "toggle"), ("text", .str "More"),
      ("children", .arr [.obj [("type", .str "divider")]])]
    let j := Journal.of { stack := [.key "sections", .index 4] }
    (buildItems options [toggle]).run.run j = (.error ⟨"no ink"⟩, j) := by
  rfl

end Syllabus
