/-
  Syllabus.Template.Label
  ───────────────────────
  **ICONS AND LABELS THAT AUTHORS PASTE IN.**

  A template adds its own icon and its own label, so one that the author has
  written in front of the text is taken off first: `💡 Tip`, `Step 2: …`,
  `Exercise: …`.  Icons are taken off in the order of the list, each at most
  once.  Labels are compared without regard to case.
-/
import Syllabus.Text.Blank
import Syllabus.Text.Case
import Syllabus.Text.Digit

namespace Syllabus.Label

/-! ## §1. Icons. -/

/-- The icons of templates. -/
def icons : List String := ["ℹ️", "⚠️", "💡", "🚨", "📖", "✏️", "🧠", "📝", "🎯", "📋", "⏱️"]

/-- Without one icon at the start, and without the blanks around what is left. -/
def withoutIcon (s icon : String) : String :=
  if Text.startsWith s icon then Text.strip (Text.dropChars icon.length s) else s

/-- A trimmed text without the icons at its start. -/
def withoutIcons (s : String) : String := icons.foldl withoutIcon (Text.strip s)

/-! ## §2. Labels. -/

/-- What follows a word at the start of a text, whatever the case of its letters. -/
def afterWord? (word cs : List Char) : Option (List Char) :=
  if (cs.take word.length).map Text.foldChar = word then some (cs.drop word.length) else none

/-- What follows the first of some words that stands at the start of a text. -/
def afterWords? (words : List String) (cs : List Char) : Option (List Char) :=
  words.findSome? fun word => afterWord? word.toList cs

/-- What follows a colon with blanks around it. -/
def afterColon? (cs : List Char) : Option (List Char) :=
  match Text.stripStart cs with
  | ':' :: rest => some (Text.stripStart rest)
  | _ => none

/-- What follows a number with at least one blank in front of it. -/
def afterNumber? (cs : List Char) : Option (List Char) :=
  let rest := Text.stripStart cs
  let after := rest.dropWhile Text.isDecimalDigit
  if rest.length < cs.length && decide (after.length < rest.length) then some after else none

/-- What follows the label of a step: a word, a number and a colon. -/
def afterStep? (cs : List Char) : Option (List Char) := do
  let rest ← afterWords? ["step", "étape"] cs
  let rest ← afterNumber? rest
  afterColon? rest

/-- What follows the label of an exercise. -/
def afterExercise? (cs : List Char) : Option (List Char) := do
  let rest ← afterWords? ["exercise", "exercice"] cs
  afterColon? rest

/-- What follows the label of a quiz. -/
def afterQuiz? (cs : List Char) : Option (List Char) := do
  let rest ← afterWords? ["quiz"] cs
  afterColon? rest

/-- A text without its label, if it has one, and without the blanks around what is left. -/
def without (after? : List Char → Option (List Char)) (s : String) : String :=
  Text.strip (String.ofList ((after? s.toList).getD s.toList))

end Syllabus.Label
