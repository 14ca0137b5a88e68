/-
  Syllabus.Template.Basic
  ───────────────────────
  **THE TEMPLATES OF COURSES.**

  Notes, definitions, steps, exercises, quizzes, summaries and the like are
  callouts with an icon, a color and a layout of their own.  A template works
  without the collector of the run, except for what is wrong with a quiz: the
  log has what its texts give up, the diagnostics do not.
-/
import Syllabus.Block.Building
import Syllabus.Template.Label

namespace Syllabus.Template

/-! ## §1. Parts. -/

/-- A callout of a template. -/
def box (input : TextInput) (icon color : String) (children : List Block) : Writing Block :=
  Writing.unrecorded (Block.makeCallout input icon color children true)

/-- A bullet of a template. -/
def bullet (input : TextInput) (color : String) : Writing Block :=
  Writing.unrecorded (Block.makeEntry .bullet input color [] true)

/-- The trimmed texts that are not blank. -/
def cleanItems (items : List String) : List String :=
  (items.filter fun s => !Text.isBlank s).map Text.strip

/-! ## §2. Notes and definitions. -/

/-- The icon of a kind of notes. -/
def noteIcon : NoteKind → String
  | .info => "ℹ️"
  | .warning => "⚠️"
  | .tip => "💡"
  | .danger => "🚨"

/-- The color of a kind of notes. -/
def noteColor : NoteKind → String
  | .info => "blue_background"
  | .warning => "yellow_background"
  | .tip => "green_background"
  | .danger => "red_background"

/-- The kind of notes that a name stands for; any other name stands for information. -/
def noteKind (name : String) : NoteKind :=
  match Tag.all.find? (·.name = name) with
  | some (.note kind) => kind
  | _ => .info

/-- A note. -/
def note (text : String) (kind : NoteKind) : Writing Block :=
  box (.text (Label.withoutIcons text)) (noteIcon kind) (noteColor kind) []

/-- A term in bold and its definition. -/
def definition (term text color : String) : Writing Block :=
  box (.runs [Run.bold term, Run.plain ": ", Run.plain (Label.withoutIcons text)]) "📖" color []

/-! ## §3. Steps and exercises. -/

/-- The icons of the first steps. -/
def stepIcons : List String := ["1️⃣", "2️⃣", "3️⃣", "4️⃣", "5️⃣", "6️⃣", "7️⃣", "8️⃣", "9️⃣", "🔟"]

/-- The icon of a step. -/
def stepIcon (number : Int) : String :=
  if 1 ≤ number then stepIcons.getD (number - 1).toNat "⏺️" else "⏺️"

/-- A numbered step: its description, if it has one, comes before what is nested in it. -/
def step (number : Int) (title : String) (description : Option String) (children : List Block) :
    Writing Block := do
  let described ← match description with
    | some s => Writing.unrecorded (Block.makeParagraph (.text s) Color.default [] true)
    | none => pure none
  let title := Label.without Label.afterStep? (Text.strip title)
  box (.runs [Run.bold s!"Step {number}: ", Run.plain title]) (stepIcon number) "gray_background"
    (described.toList ++ children)

/-- The solution of an exercise, folded away; none if it is blank. -/
def solutionToggle (solution : Option String) (language : Json) : Writing (List Block) :=
  match solution with
  | some s =>
      if Text.isBlank s then pure []
      else do
        let code ← Writing.unrecorded (Block.makeCode (Text.strip s) language none)
        let toggle ← Writing.unrecorded
          (Block.makeToggle (.text "💡 Show solution") "green_background" [code] true)
        pure [toggle]
  | none => pure []

/-- An exercise: a bullet for each instruction, and the solution. -/
def exercise (title : String) (instructions : List String) (solution : Option String)
    (language : Json) : Writing Block := do
  let title := Label.without Label.afterExercise? (Label.withoutIcons title)
  let bullets ← (cleanItems instructions).mapM fun s => bullet (.text s) Color.default
  let solution ← solutionToggle solution language
  box (.runs [Run.bold "Exercise: ", Run.plain title]) "✏️" "orange_background"
    (bullets ++ solution)

/-! ## §4. Quizzes. -/

/-- What stands for a quiz with too few options. -/
def invalidQuiz : String := "Invalid quiz: at least two options are required."

/-- The letter of an option. -/
def optionLetter (index : Nat) : String := (Char.ofNat ('A'.toNat + index)).toString

/-- An option behind its letter. -/
def optionText (index : Nat) (option : String) : String := optionLetter index ++ ") " ++ option

/-- The bullets of the options, from an index on. -/
def optionBullets : (index : Nat) → List String → Writing (List Block)
  | _, [] => pure []
  | index, option :: rest => do
      let b ← Block.makeEntry .bullet (.text (optionText index option)) Color.default [] true
      let bs ← optionBullets (index + 1) rest
      pure (b :: bs)

/-- The index of the right option.  One that is out of range is reported and taken for zero. -/
def rightIndex (correct : Int) (count : Nat) : Writing Nat :=
  if 0 ≤ correct ∧ correct < count then pure correct.toNat
  else do
    Writing.report .templates "quiz_index_clamped"
      s!"Quiz correctIndex {correct} out of range for {count} options; using 0" .warning
    pure 0

/-- A quiz: a bullet for each option, and the answer folded away.  It takes two options at least. -/
def quiz (question : String) (options : List String) (correct : Int) : Writing Block :=
  if options.length < 2 then do
    Writing.report .templates "quiz_too_few_options"
      s!"Quiz needs at least 2 options, got {options.length}" .warning
    pure (Block.notice invalidQuiz)
  else do
    let index ← rightIndex correct options.length
    let question := Label.without Label.afterQuiz? (Label.withoutIcons question)
    let options := options.map Text.strip
    let bullets ← optionBullets 0 options
    let answer ← box (.text ("The correct answer is " ++ optionText index (options.getD index "")))
      "✅" "green_background" []
    let toggle ← Writing.unrecorded (Block.makeToggle (.text "Show answer") Color.default [answer] true)
    box (.runs [Run.bold "Quiz: ", Run.plain question]) "🧠" "purple_background"
      (bullets ++ [toggle])

/-! ## §5. Lists. -/

/-- The key points of a chapter. -/
def summary (points : List String) : Writing Block := do
  let bullets ← (cleanItems points).mapM fun s => bullet (.text s) "blue"
  box (.text "Key takeaways") "📝" "blue_background" bullets

/-- Learning objectives, to be ticked off. -/
def objectives (items : List String) : Writing Block := do
  let boxes ← (cleanItems items).mapM fun s =>
    Writing.unrecorded (Block.makeEntry (.box false) (.text s) Color.default [] true)
  box (.text "By the end of this section, you will be able to:") "🎯" "green_background" boxes

/-- What has to be known before. -/
def prerequisites (items : List String) : Writing Block := do
  let bullets ← (cleanItems items).mapM fun s => bullet (.text s) Color.default
  box (.text "Prerequisites") "📋" "gray_background" bullets

/-- How long it takes. -/
def estimatedTime (minutes : Int) : Writing Block :=
  box (.text s!"Estimated time: {minutes} minutes") "⏱️" "purple_background" []

/-! ## §6. Sides and lines. -/

/-- One side of a comparison: its title as a heading, and its blocks. -/
def side (title : String) (color : String) (content : List Block) : Writing (List Block) := do
  let heading ← Writing.unrecorded (Block.makeHeading .three (.text title) color false [] true)
  pure (heading :: content)

/-- Two sides next to each other. -/
def comparison (leftTitle : String) (left : List Block) (rightTitle : String)
    (right : List Block) : Writing Block := do
  let left ← side leftTitle "green" left
  let right ← side rightTitle "red" right
  pure (Block.makeColumns [left, right])

/-- Code, and a callout that explains it line by line. -/
def codeWithExplanation (code : String) (language : Json) (explanations : List Explanation) :
    Writing (List Block) := do
  let bullets ← explanations.mapM fun e =>
    bullet (.runs [Run.code e.line, Run.plain " → ", Run.plain e.explanation]) Color.default
  let code ← Writing.unrecorded (Block.makeCode code language none)
  let explained ← box (.text "Line-by-line explanation:") "📖" "gray_background" bullets
  pure [code, explained]

/-- What a course ends with. -/
def courseComplete : Writing Block :=
  box (.text "Congratulations! You have completed this course.") "🎉" "green_background" []

end Syllabus.Template
