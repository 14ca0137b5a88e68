/-
  Syllabus.Text.Quoted
  ────────────────────
  **TEXTS IN QUOTES.**

  A quoted text stands between single quotes, or between double quotes when it
  holds a single quote and no double one.  The quote in use and the backslash
  are escaped by a backslash, tab and line ends by a letter, and every other
  character that is not printable by its code point in two, four or eight
  hexadecimal digits.
-/
import Syllabus.Decimal.Shortest
import Syllabus.Text.Printable

namespace Syllabus.Text

/-- A code point in at least `n` lower-case hexadecimal digits. -/
def hexCode (n : Nat) (code : Nat) : List Char := Decimal.padded n (Nat.toDigits 16 code)

/-- The quote that a text is put between. -/
def quoteFor (cs : List Char) : Char :=
  if cs.contains '\x27' && !cs.contains '\x22' then '\x22' else '\x27'

/-- One character of a quoted text. -/
def escapeChar (quote c : Char) : List Char :=
  if c = quote || c = '\\' then ['\\', c]
  else if c = '\t' then ['\\', 't']
  else if c = '\n' then ['\\', 'n']
  else if c = '\r' then ['\\', 'r']
  else if isPrintable c then [c]
  else if c.toNat ≤ 0xFF then '\\' :: 'x' :: hexCode 2 c.toNat
  else if c.toNat ≤ 0xFFFF then '\\' :: 'u' :: hexCode 4 c.toNat
  else '\\' :: 'U' :: hexCode 8 c.toNat

/-- A text in quotes. -/
def quoted (s : String) : String :=
  let quote := quoteFor s.toList
  String.ofList (quote :: s.toList.flatMap (escapeChar quote) ++ [quote])

end Syllabus.Text
