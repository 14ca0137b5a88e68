/-
  Syllabus.Json.Shown
  ───────────────────
  **VALUES INSIDE MESSAGES.**

  A message shows a value of the author's by `quoted`, with strings in quotes,
  or by `shown`, in which a string on its own stands as it is.
-/
import Syllabus.Json.Basic
import Syllabus.Text.Quoted

namespace Syllabus.Json

/-- Numbers are written with the fewest digits that read back, positionally from `1e-04` up to but
not including `1e+16`, and with at least two digits in an exponent. -/
def numberLayout : Decimal.Layout :=
  { leastPositional := -4, firstScientific := 16, exponentWidth := 2, nan := "nan", infinity := "inf" }

mutual

/-- A value with all its strings in quotes. -/
def quoted : Json → String
  | .null => "None"
  | .bool true => "True"
  | .bool false => "False"
  | .int n => Decimal.decimal n
  | .float x => numberLayout.text x
  | .str s => Text.quoted s
  | .arr xs => "[" ++ quotedItems xs ++ "]"
  | .obj ms => "\x7b" ++ quotedMembers ms ++ "\x7d"
termination_by structural v => v

/-- Values between commas. -/
def quotedItems : List Json → String
  | [] => ""
  | [x] => quoted x
  | x :: y :: rest => quoted x ++ ", " ++ quotedItems (y :: rest)
termination_by structural vs => vs

/-- Members between commas. -/
def quotedMembers : List (String × Json) → String
  | [] => ""
  | [(k, v)] => Text.quoted k ++ ": " ++ quoted v
  | (k, v) :: m :: rest => Text.quoted k ++ ": " ++ quoted v ++ ", " ++ quotedMembers (m :: rest)
termination_by structural ms => ms

end

/-- A value as it stands in running text. -/
def shown : Json → String
  | .str s => s
  | v => quoted v

end Syllabus.Json
