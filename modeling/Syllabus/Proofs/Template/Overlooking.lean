/-
  Syllabus.Proofs.Template.Overlooking
  ────────────────────────────────────
  **WHAT TEMPLATES LEAVE OUT OF THE DIAGNOSTICS.**

  A template calls the builders of blocks without the collector of the run, so
  the links that its texts drop and the code that it cuts are logged and not
  recorded.  The lemmas say of each template which they are, in the order in
  which they are logged.

  A quiz hands the collector on for its options, and forgets it for the answer
  that it folds away: the right option is reported twice and recorded once.
-/
import Syllabus.Proofs.Block.Reporting
import Syllabus.Proofs.Text.Numeral
import Syllabus.Template.Basic

namespace Syllabus.Template

open Markup Writing

/-! ## §1. Parts. -/

section Parts

variable {input : TextInput} {rs : List Report} (h : Reports (input.runs? true) rs) (color : String)

include h

theorem box_overlooks (icon : String) (children : List Block) :
    Overlooks (box input icon color children) rs :=
  (Block.makeCallout_reports h color children icon).unrecorded

theorem bullet_overlooks : Overlooks (bullet input color) rs :=
  (Block.makeEntry_reports h color [] .bullet).unrecorded

end Parts

/-- Bullets for texts. -/
theorem bullets_overlook (items : List String) (color : String) :
    Overlooks ((cleanItems items).mapM fun s => bullet (.text s) color)
      ((cleanItems items).flatMap droppedLinks) :=
  Overlooks.mapM (fun s => bullet_overlooks (TextInput.text_reports s) color) _

/-- A box around texts, with nothing to drop in its own text. -/
theorem titled_overlooks {w : Writing (List Block)} {input : TextInput} {rs : List Report}
    (hw : Overlooks w rs) (hinput : Reports (input.runs? true) []) (icon color : String) :
    Overlooks (w >>= fun bs => box input icon color bs) rs :=
  hw.then_none fun bs => box_overlooks hinput color icon bs

/-! ## §2. Notes, definitions and steps. -/

theorem note_overlooks (text : String) (kind : NoteKind) :
    Overlooks (note text kind) (droppedLinks (Label.withoutIcons text)) :=
  box_overlooks (TextInput.text_reports _) _ _ []

theorem definition_overlooks (term text color : String) :
    Overlooks (definition term text color) [] :=
  box_overlooks (TextInput.runs_reports _ true) color _ []

theorem step_overlooks (number : Int) (title : String) (description : Option String)
    (children : List Block) :
    Overlooks (step number title description children) (description.toList.flatMap droppedLinks) := by
  have hbox : ∀ described : Option Block, Overlooks
      (box (.runs [Run.bold s!"Step {number}: ",
          Run.plain (Label.without Label.afterStep? (Text.strip title))])
        (stepIcon number) "gray_background" (described.toList ++ children)) [] :=
    fun described => box_overlooks (TextInput.runs_reports _ true) _ _ _
  unfold step
  cases description with
  | none => exact (overlooks_pure none).then_none hbox
  | some s =>
      rw [Option.toList_some, List.flatMap_singleton]
      have hdescribed := Block.makeParagraph_reports (TextInput.text_reports s) Color.default []
      exact hdescribed.unrecorded.then_none hbox

/-! ## §3. Exercises. -/

theorem solutionToggle_overlooks (solution : Option String) (language : Json) :
    Overlooks (solutionToggle solution language) (solution.toList.flatMap Block.cutCode) := by
  unfold solutionToggle
  cases solution with
  | none => exact overlooks_pure []
  | some s =>
      rw [Option.toList_some, List.flatMap_singleton]
      dsimp only
      split
      · -- A blank solution is too short to be cut.
        rename_i hblank
        rw [Block.cutCode_of_isBlank hblank]
        exact overlooks_pure []
      · rw [← Block.cutCode_strip]
        refine (Block.makeCode_reports (Text.strip s) language none).unrecorded.then_none fun code => ?_
        have htoggle := Block.makeToggle_reports (TextInput.text_reports_nil
          (s := "💡 Show solution") (by decide)) "green_background" [code]
        exact htoggle.unrecorded.then_pure _

theorem exercise_overlooks (title : String) (instructions : List String) (solution : Option String)
    (language : Json) :
    Overlooks (exercise title instructions solution language)
      ((cleanItems instructions).flatMap droppedLinks ++ solution.toList.flatMap Block.cutCode) :=
  (bullets_overlook instructions Color.default).bind fun _ =>
    (solutionToggle_overlooks solution language).then_none fun _ =>
      box_overlooks (TextInput.runs_reports _ true) _ _ _

/-! ## §4. Quizzes. -/

/-- The index of the option that counts as right. -/
def countedIndex (correct : Int) (count : Nat) : Nat :=
  if 0 ≤ correct ∧ correct < count then correct.toNat else 0

/-- What a quiz says when it is unfolded. -/
def answerText (options : List String) (correct : Int) : String :=
  "The correct answer is " ++ optionText (countedIndex correct options.length)
    ((options.map Text.strip).getD (countedIndex correct options.length) "")

/-- What is noted on the way to that index: that it is another one, if it is. -/
def indexNotes (correct : Int) (count : Nat) : Notes :=
  if 0 ≤ correct ∧ correct < count then {}
  else
    let message := s!"Quiz correctIndex {correct} out of range for {count} options; using 0"
    ⟨[⟨"quiz_index_clamped", message, [], .warning⟩],
      [.degradation .templates "quiz_index_clamped" message]⟩

theorem rightIndex_gives (correct : Int) (count : Nat) :
    Gives (rightIndex correct count) (countedIndex correct count) (indexNotes correct count) := by
  unfold rightIndex countedIndex indexNotes
  split
  · exact gives_pure _
  · exact gives_reported _ _ _ _ _

theorem logged_indexNotes (correct : Int) (count : Nat) :
    (indexNotes correct count).logged = (indexNotes correct count).recorded := by
  unfold indexNotes
  split <;> rfl

theorem optionBullets_reports (options : List String) :
    ∀ index, ∃ rs, Reports (optionBullets index options) rs := by
  induction options with
  | nil => intro index; exact ⟨[], reports_pure []⟩
  | cons option options ih =>
      intro index
      obtain ⟨rs, hrest⟩ := ih (index + 1)
      have hfirst := Block.makeEntry_reports
        (TextInput.text_reports (optionText index option)) Color.default [] .bullet
      exact ⟨_, hfirst.bind fun b => hrest.then_pure fun bs => b :: bs⟩

/-- The links of the answer are dropped unseen; a quiz with too few options has no answer. -/
theorem quiz_overlooks (question : String) (options : List String) (correct : Int) :
    Overlooks (quiz question options correct)
      (if options.length < 2 then [] else droppedLinks (answerText options correct)) := by
  unfold quiz
  split
  · exact (reports_report _ _ _ _).overlooks.then_pure _
  · obtain ⟨rs, hoptions⟩ := optionBullets_reports (options.map Text.strip) 0
    -- Up to the options the collector is handed on; from the answer on it is not.
    refine overlooks_after (rightIndex_gives correct options.length) (logged_indexNotes _ _)
      (hoptions.overlooks.bind fun bullets => ?_)
    refine (box_overlooks (TextInput.text_reports _) _ _ []).then_none fun answer => ?_
    have htoggle := Block.makeToggle_reports (TextInput.text_reports_nil
      (s := "Show answer") (by decide)) Color.default [answer]
    exact htoggle.unrecorded.then_none fun toggle =>
      box_overlooks (TextInput.runs_reports _ true) _ _ _

/-! ## §5. Lists. -/

theorem summary_overlooks (points : List String) :
    Overlooks (summary points) ((cleanItems points).flatMap droppedLinks) :=
  titled_overlooks (bullets_overlook points "blue") (TextInput.text_reports_nil (by decide)) _ _

theorem objectives_overlooks (items : List String) :
    Overlooks (objectives items) ((cleanItems items).flatMap droppedLinks) := by
  have hboxes := Overlooks.mapM (fun s => (Block.makeEntry_reports (TextInput.text_reports s)
    Color.default [] (.box false)).unrecorded) (cleanItems items)
  exact titled_overlooks hboxes (TextInput.text_reports_nil (by decide)) _ _

theorem prerequisites_overlooks (items : List String) :
    Overlooks (prerequisites items) ((cleanItems items).flatMap droppedLinks) :=
  titled_overlooks (bullets_overlook items Color.default) (TextInput.text_reports_nil (by decide)) _ _

theorem estimatedTime_overlooks (minutes : Int) : Overlooks (estimatedTime minutes) [] := by
  have hplain : '[' ∉ (s!"Estimated time: {minutes} minutes").toList := by
    show '[' ∉ ("Estimated time: " ++ toString minutes ++ " minutes").toList
    simp only [String.toList_append, List.mem_append, not_or]
    exact ⟨⟨by decide, Text.notMem_integer (by decide) (by decide) minutes⟩, by decide⟩
  exact box_overlooks (TextInput.text_reports_nil hplain) _ _ []

theorem courseComplete_overlooks : Overlooks courseComplete [] :=
  box_overlooks (TextInput.text_reports_nil (by decide)) _ _ []

/-! ## §6. Sides and lines. -/

theorem side_overlooks (title color : String) (content : List Block) :
    Overlooks (side title color content) (droppedLinks title) :=
  (Block.makeHeading_reports (TextInput.text_reports title) color [] .three false).unrecorded.then_pure _

theorem comparison_overlooks (leftTitle : String) (left : List Block) (rightTitle : String)
    (right : List Block) :
    Overlooks (comparison leftTitle left rightTitle right)
      (droppedLinks leftTitle ++ droppedLinks rightTitle) :=
  (side_overlooks leftTitle _ left).bind fun _ =>
    (side_overlooks rightTitle _ right).then_pure _

theorem codeWithExplanation_overlooks (code : String) (language : Json)
    (explanations : List Explanation) :
    Overlooks (codeWithExplanation code language explanations) (Block.cutCode code) := by
  have hbullet : ∀ e : Explanation, Overlooks
      (bullet (.runs [Run.code e.line, Run.plain " → ", Run.plain e.explanation]) Color.default) [] :=
    fun e => bullet_overlooks (TextInput.runs_reports _ true) Color.default
  have hbullets := Overlooks.mapM hbullet explanations
  rw [List.flatMap_eq_nil_iff.mpr fun _ _ => rfl] at hbullets
  refine hbullets.none_then fun bullets => ?_
  refine (Block.makeCode_reports code language none).unrecorded.then_none fun b => ?_
  exact (box_overlooks (TextInput.text_reports_nil (by decide)) _ _ bullets).then_pure _

end Syllabus.Template
