/-
  Syllabus.Text.Blank
  ───────────────────
  **BLANK CHARACTERS AND TRIMMING.**

  A character is blank when the Unicode standard calls it white space or when
  it is one of the information separators U+001C to U+001F.  Zero-width
  characters and the byte order mark are not blank.  `strip` removes the blank
  characters at both ends of a text.
-/
import Syllabus.Text.CodeRange

namespace Syllabus.Text

/-! ## §1. The class. -/

/-- The ranges of blank characters. -/
def blankRanges : List (Nat × Nat) :=
  [(0x9, 0xD), (0x1C, 0x20), (0x85, 0x85), (0xA0, 0xA0), (0x1680, 0x1680), (0x2000, 0x200A),
    (0x2028, 0x2029), (0x202F, 0x202F), (0x205F, 0x205F), (0x3000, 0x3000)]

/-- Whether a character is blank. -/
def isBlankChar (c : Char) : Bool := inRanges blankRanges c

/-- Whether a text has no visible character: it is empty or all blank. -/
def isBlank (s : String) : Bool := s.toList.all isBlankChar

/-! ## §2. Trimming. -/

/-- Without the blank characters at the start. -/
def stripStart (cs : List Char) : List Char := cs.dropWhile isBlankChar

/-- Without the blank characters at the end. -/
def stripEnd (cs : List Char) : List Char := (cs.reverse.dropWhile isBlankChar).reverse

/-- Without the blank characters at either end. -/
def stripChars (cs : List Char) : List Char := stripEnd (stripStart cs)

/-- A text without the blank characters at either end. -/
def strip (s : String) : String := String.ofList (stripChars s.toList)

/-! ## §3. Cutting by length. -/

/-- The first `n` characters of a text. -/
def takeChars (n : Nat) (s : String) : String := String.ofList (s.toList.take n)

/-- All but the first `n` characters of a text. -/
def dropChars (n : Nat) (s : String) : String := String.ofList (s.toList.drop n)

/-- Whether `needle` stands at the start of a text. -/
def startsWith (s needle : String) : Bool := needle.toList.isPrefixOf s.toList

end Syllabus.Text
