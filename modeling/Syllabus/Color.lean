/-
  Syllabus.Color
  ──────────────
  **THE COLORS OF TEXT AND BLOCKS.**

  There are nineteen: the default, nine hues for the text and the same nine
  for the background.  Any other value falls back to a given one.
-/
import Syllabus.Json.Basic

namespace Syllabus.Color

/-- The hues. -/
def hues : List String :=
  ["gray", "brown", "orange", "yellow", "green", "blue", "purple", "pink", "red"]

/-- The default color. -/
def default : String := "default"

/-- All colors. -/
def all : List String := default :: hues ++ hues.map (· ++ "_background")

/-- The color that a text names, else the fallback. -/
def normalize (value : String) (fallback : String) : String :=
  if all.contains value then value else fallback

/-- The color that a value names, else the fallback. -/
def ofJson (value : Json) (fallback : String) : String :=
  match value with
  | .str s => normalize s fallback
  | _ => fallback

end Syllabus.Color
