/-
  Syllabus.Text.Split
  ───────────────────
  **CUTTING A TEXT AT A CHARACTER.**

  `splitOn` gives the pieces between the occurrences of a character, of which
  there is always at least one; `cutAt` the parts before and after the first.
-/

namespace Syllabus.Text

/-- The pieces between the occurrences of `sep`. -/
def splitOn (sep : Char) : List Char → List (List Char)
  | [] => [[]]
  | c :: rest =>
      if c = sep then [] :: splitOn sep rest
      else match splitOn sep rest with
        | piece :: pieces => (c :: piece) :: pieces
        | [] => [[c]]

/-- What stands before and after the first `sep`, if there is one. -/
def cutAt (sep : Char) (cs : List Char) : Option (List Char × List Char) :=
  match cs.dropWhile (· != sep) with
  | _ :: after => some (cs.takeWhile (· != sep), after)
  | [] => none

/-- Whether `needle` occurs in a text. -/
def occurs (needle : List Char) : List Char → Bool
  | [] => needle.isEmpty
  | c :: rest => needle.isPrefixOf (c :: rest) || occurs needle rest

end Syllabus.Text
