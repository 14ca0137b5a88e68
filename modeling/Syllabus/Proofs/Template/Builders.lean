/-
  Syllabus.Proofs.Template.Builders
  ─────────────────────────────────
  **EVERY TEMPLATE GIVES BLOCKS.**

  A template puts together what the builders of blocks give, so its promise is
  theirs.  Since it works without the collector, it adds no diagnostic of its
  texts: the promises below hold for any `D`.  A quiz is the one exception.
  It reports what is wrong with its options, and `Diagnostic.OfQuiz` says
  exactly when it may do so.
-/
import Syllabus.Proofs.Block.Builders
import Syllabus.Template.Basic

namespace Syllabus

/-- What a quiz with so many options and this index of the right one may report. -/
inductive Diagnostic.OfQuiz (count : Nat) (correct : Int) (d : Diagnostic) : Prop where
  /-- A link that was dropped. -/
  | link (h : d.DropsLink)
  /-- That there are too few options. -/
  | few (h : d.Warns ["quiz_too_few_options"]) (hcount : count < 2)
  /-- That the index is out of range. -/
  | clamped (h : d.Warns ["quiz_index_clamped"]) (hindex : ¬ (0 ≤ correct ∧ correct < count))

namespace Template

open Form Writing

variable {D : Diagnostic → Prop}

/-! ## §1. Parts. -/

theorem box_meets {input : TextInput} {children : List Block} (hinput : input.Sound)
    (hchildren : AreBlocks children) (icon color : String) :
    Meets D (fun b => IsBlock b.toJson) (box input icon color children) :=
  (Block.makeCallout_meets color true hinput hchildren icon).unrecorded

theorem bullet_meets {input : TextInput} (hinput : input.Sound) (color : String) :
    Meets D (fun b => IsBlock b.toJson) (bullet input color) :=
  (Block.makeEntry_meets color true hinput AreBlocks.nil .bullet).unrecorded

/-- One block for each of some texts. -/
theorem each_meets {α : Type} {f : α → Writing Block}
    (h : ∀ x, Meets D (fun b => IsBlock b.toJson) (f x)) (xs : List α) :
    Meets D AreBlocks (xs.mapM f) :=
  (Meets.mapM fun x _ => h x).result fun _ hbs => hbs.2

theorem sound_runs_nil : (TextInput.runs []).Sound := fun _ hr => absurd hr List.not_mem_nil

/-- Runs that are built one by one. -/
theorem sound_runs_cons {r : Run} {rs : List Run} (hr : IsRun r.toJson) (hrs : (TextInput.runs rs).Sound) :
    (TextInput.runs (r :: rs)).Sound := by
  intro s hs
  rcases List.mem_cons.mp hs with hfirst | hlater
  · rw [hfirst]; exact hr
  · exact hrs s hlater

theorem sound_bold_plain (label text : String) :
    (TextInput.runs [Run.bold label, Run.plain text]).Sound :=
  sound_runs_cons (isRun_bold label) (sound_runs_cons (isRun_plain text) sound_runs_nil)

/-! ## §2. Notes, definitions, steps and exercises. -/

theorem note_meets (text : String) (kind : NoteKind) :
    Meets D (fun b => IsBlock b.toJson) (note text kind) :=
  box_meets (TextInput.sound_text _) AreBlocks.nil _ _

theorem definition_meets (term text color : String) :
    Meets D (fun b => IsBlock b.toJson) (definition term text color) := by
  have hruns : (TextInput.runs
      [Run.bold term, Run.plain ": ", Run.plain (Label.withoutIcons text)]).Sound :=
    sound_runs_cons (isRun_bold term)
      (sound_runs_cons (isRun_plain _) (sound_runs_cons (isRun_plain _) sound_runs_nil))
  exact box_meets hruns AreBlocks.nil _ _

theorem step_meets {children : List Block} (hchildren : AreBlocks children) (number : Int)
    (title : String) (description : Option String) :
    Meets D (fun b => IsBlock b.toJson) (step number title description children) := by
  have hbox : ∀ o : Option Block, AreBlocks o.toList → Meets D (fun b => IsBlock b.toJson)
      (box (.runs [Run.bold s!"Step {number}: ",
          Run.plain (Label.without Label.afterStep? (Text.strip title))])
        (stepIcon number) "gray_background" (o.toList ++ children)) := by
    intro o ho
    exact box_meets (sound_bold_plain _ _) (ho.append hchildren) _ _
  unfold step
  cases description with
  | none =>
      have hdescribed : Meets D (fun o => AreBlocks o.toList) (pure (none : Option Block)) :=
        meets_pure AreBlocks.nil
      exact hdescribed.bind hbox
  | some s =>
      have hdescribed := Block.makeParagraph_meets Color.default true
        (TextInput.sound_text s) AreBlocks.nil
      exact hdescribed.unrecorded.bind hbox

theorem solutionToggle_meets (solution : Option String) (language : Json) :
    Meets D AreBlocks (solutionToggle solution language) := by
  unfold solutionToggle
  cases solution with
  | none => exact meets_pure AreBlocks.nil
  | some s =>
      dsimp only
      split
      · exact meets_pure AreBlocks.nil
      · refine (Block.makeCode_meets (Text.strip s) language none).unrecorded.bind fun code hcode => ?_
        have htoggle := Block.makeToggle_meets "green_background" true
          (TextInput.sound_text "💡 Show solution") (AreBlocks.singleton hcode)
        exact htoggle.unrecorded.bind fun toggle h => meets_pure (AreBlocks.singleton h)

theorem exercise_meets (title : String) (instructions : List String) (solution : Option String)
    (language : Json) :
    Meets D (fun b => IsBlock b.toJson) (exercise title instructions solution language) := by
  refine (each_meets (fun s => bullet_meets (TextInput.sound_text s) _) _).bind fun bullets hb => ?_
  refine (solutionToggle_meets solution language).bind fun toggle ht => ?_
  exact box_meets (sound_bold_plain _ _) (hb.append ht) _ _

/-! ## §3. Quizzes. -/

theorem optionBullets_meets (options : List String) :
    ∀ index, Meets Diagnostic.DropsLink AreBlocks (optionBullets index options) := by
  induction options with
  | nil => intro index; exact meets_pure AreBlocks.nil
  | cons option options ih =>
      intro index
      refine (Block.makeEntry_meets Color.default true (TextInput.sound_text (optionText index option))
        AreBlocks.nil .bullet).bind fun b hb => ?_
      exact (ih (index + 1)).bind fun bs hbs => meets_pure (AreBlocks.cons hb hbs)

theorem rightIndex_meets (correct : Int) (count : Nat) :
    Meets (Diagnostic.OfQuiz count correct) (fun _ => True) (rightIndex correct count) := by
  unfold rightIndex
  split
  · exact meets_pure trivial
  · rename_i hout
    refine (meets_report ?_).bind fun _ _ => meets_pure trivial
    exact .clamped ⟨rfl, rfl, List.mem_singleton.mpr rfl⟩ hout

theorem quiz_meets (question : String) (options : List String) (correct : Int) :
    Meets (Diagnostic.OfQuiz options.length correct) (fun b => IsBlock b.toJson)
      (quiz question options correct) := by
  unfold quiz
  split
  · rename_i hfew
    refine (meets_report ?_).bind fun _ _ => meets_pure (Block.isBlock_notice _)
    exact .few ⟨rfl, rfl, List.mem_singleton.mpr rfl⟩ hfew
  · refine (rightIndex_meets correct options.length).bind fun index _ => ?_
    have hoptions := optionBullets_meets (options.map Text.strip) 0
    refine (hoptions.mono (fun _ h => .link h) fun _ h => h).bind fun bullets hb => ?_
    refine (box_meets (TextInput.sound_text _) AreBlocks.nil _ _).bind fun answer ha => ?_
    have htoggle := Block.makeToggle_meets Color.default true (TextInput.sound_text "Show answer")
      (AreBlocks.singleton ha)
    refine htoggle.unrecorded.bind fun toggle ht => ?_
    exact box_meets (sound_bold_plain _ _) (hb.append (AreBlocks.singleton ht)) _ _

/-! ## §4. Lists, sides and code. -/

theorem summary_meets (points : List String) :
    Meets D (fun b => IsBlock b.toJson) (summary points) :=
  (each_meets (fun s => bullet_meets (TextInput.sound_text s) _) _).bind fun _ hb =>
    box_meets (TextInput.sound_text _) hb _ _

theorem objectives_meets (items : List String) :
    Meets D (fun b => IsBlock b.toJson) (objectives items) := by
  have hentry : ∀ s, Meets D (fun b => IsBlock b.toJson)
      (Writing.unrecorded (Block.makeEntry (.box false) (.text s) Color.default [] true)) := by
    intro s
    exact (Block.makeEntry_meets Color.default true (TextInput.sound_text s) AreBlocks.nil
      (.box false)).unrecorded
  exact (each_meets hentry _).bind fun _ hb => box_meets (TextInput.sound_text _) hb _ _

theorem prerequisites_meets (items : List String) :
    Meets D (fun b => IsBlock b.toJson) (prerequisites items) :=
  (each_meets (fun s => bullet_meets (TextInput.sound_text s) _) _).bind fun _ hb =>
    box_meets (TextInput.sound_text _) hb _ _

theorem estimatedTime_meets (minutes : Int) :
    Meets D (fun b => IsBlock b.toJson) (estimatedTime minutes) :=
  box_meets (TextInput.sound_text _) AreBlocks.nil _ _

theorem courseComplete_meets : Meets D (fun b => IsBlock b.toJson) courseComplete :=
  box_meets (TextInput.sound_text _) AreBlocks.nil _ _

/-- A side is not empty: it has its heading. -/
theorem side_meets {content : List Block} (hcontent : AreBlocks content) (title color : String) :
    Meets D (fun bs => bs ≠ [] ∧ AreBlocks bs) (side title color content) := by
  have hheading := Block.makeHeading_meets color true (TextInput.sound_text title) AreBlocks.nil .three
    false
  exact hheading.unrecorded.bind fun heading h =>
    meets_pure ⟨List.cons_ne_nil _ _, AreBlocks.cons h hcontent⟩

theorem comparison_meets {left right : List Block} (hleft : AreBlocks left)
    (hright : AreBlocks right) (leftTitle rightTitle : String) :
    Meets D (fun b => IsBlock b.toJson) (comparison leftTitle left rightTitle right) := by
  refine (side_meets hleft leftTitle _).bind fun l hl => ?_
  refine (side_meets hright rightTitle _).bind fun r hr => meets_pure (isBlock_columns ?_ ?_)
  · exact Nat.le_refl 2
  · intro c hc
    simp only [List.mem_cons, List.not_mem_nil, or_false] at hc
    rcases hc with rfl | rfl
    · exact hl
    · exact hr

theorem codeWithExplanation_meets (code : String) (language : Json) (explanations : List Explanation) :
    Meets D AreBlocks (codeWithExplanation code language explanations) := by
  have hbullet : ∀ e : Explanation, Meets D (fun b => IsBlock b.toJson)
      (bullet (.runs [Run.code e.line, Run.plain " → ", Run.plain e.explanation]) Color.default) := by
    intro e
    exact bullet_meets (sound_runs_cons (isRun_code e.line)
      (sound_runs_cons (isRun_plain _) (sound_runs_cons (isRun_plain _) sound_runs_nil))) _
  refine (each_meets hbullet explanations).bind fun bullets hb => ?_
  refine (Block.makeCode_meets code language none).unrecorded.bind fun c hc => ?_
  refine (box_meets (TextInput.sound_text _) hb _ _).bind fun explained he => meets_pure ?_
  exact AreBlocks.cons hc (AreBlocks.singleton he)

end Template

end Syllabus
