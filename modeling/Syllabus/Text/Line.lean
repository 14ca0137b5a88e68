/-
  Syllabus.Text.Line
  ──────────────────
  **LINES.**

  A line ends at a line feed, a carriage return, the two together, a vertical
  tab, a form feed, one of the separators U+001C to U+001E, the next-line
  character U+0085, and the line and paragraph separators U+2028 and U+2029.
  What follows the last line end is a line only if it is not empty.
-/
import Syllabus.Text.CodeRange

namespace Syllabus.Text

/-- The ranges of characters that end a line. -/
def lineEndRanges : List (Nat × Nat) := [(0xA, 0xD), (0x1C, 0x1E), (0x85, 0x85), (0x2028, 0x2029)]

/-- Whether a character ends a line. -/
def isLineEnd (c : Char) : Bool := inRanges lineEndRanges c

/-- The lines of a text, given what was read of the first one, backwards. -/
def linesAfter (read : List Char) : List Char → List (List Char)
  | [] => if read.isEmpty then [] else [read.reverse]
  | '\r' :: '\n' :: rest => read.reverse :: linesAfter [] rest
  | c :: rest =>
      if isLineEnd c then read.reverse :: linesAfter [] rest else linesAfter (c :: read) rest

/-- The lines of a text. -/
def lines (s : String) : List String := (linesAfter [] s.toList).map String.ofList

end Syllabus.Text
