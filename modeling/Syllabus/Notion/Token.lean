/-
  Syllabus.Notion.Token
  ─────────────────────
  **INTEGRATION TOKENS.**

  A token is a text that, apart from blanks around it, starts with one of two
  marks: the present one or the one of earlier days.
-/
import Syllabus.Text.Blank

namespace Syllabus.Notion

/-- Why a text is no token. -/
inductive TokenFault where
  /-- It has no visible character. -/
  | empty
  /-- It starts with neither mark. -/
  | unmarked
  deriving DecidableEq, Repr

/-- A fault in words. -/
def TokenFault.message : TokenFault → String
  | .empty => "Token cannot be empty"
  | .unmarked => "Invalid token. Notion tokens start with \"ntn_\" or \"secret_\""

/-- The marks that tokens start with. -/
def tokenMarks : List String := ["ntn_", "secret_"]

/-- Whether a text starts with the mark of a token. -/
def isMarked (s : String) : Bool := tokenMarks.any (Text.startsWith s ·)

/-- The token in a text. -/
def token (s : String) : Except TokenFault String :=
  if Text.isBlank s then .error .empty
  else if isMarked (Text.strip s) then .ok (Text.strip s)
  else .error .unmarked

end Syllabus.Notion
