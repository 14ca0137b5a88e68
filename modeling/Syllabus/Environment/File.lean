/-
  Syllabus.Environment.File
  ─────────────────────────
  **ENVIRONMENT FILES.**

  A line of the file assigns a value to a variable: `key=value`, with blanks
  around either and with `export` in front if one likes.  Blank lines, lines
  that start with `#` and lines without an equals sign say nothing.  A value
  may stand between two quotes of a kind; without them it ends in front of a
  `#` that a space precedes.

      assignments  what the lines of a text assign
      load         carries assignments out; a variable that is set already
                   keeps its value unless it is to be overridden
-/
import Syllabus.Environment.Basic
import Syllabus.Text.Line
import Syllabus.Text.Utf8

namespace Syllabus.EnvironmentFile

/-! ## §1. Lines. -/

/-- What stands in front of the first ` #`, if there is one. -/
def beforeComment? : List Char → Option (List Char)
  | [] => none
  | ' ' :: '#' :: _ => some []
  | c :: rest => (beforeComment? rest).map (c :: ·)

/-- Whether a text stands between two quotes of a kind. -/
def isQuoted (cs : List Char) : Bool :=
  decide (2 ≤ cs.length) && cs.head? == cs.getLast?
    && (cs.head? == some '\x22' || cs.head? == some '\x27')

/-- A value without its quotes, or without the comment after it. -/
def valueOf (cs : List Char) : List Char :=
  if isQuoted cs then cs.tail.dropLast
  else match beforeComment? cs with
    | some value => Text.stripEnd value
    | none => cs

/-- The word that may stand in front of an assignment. -/
def exportMark : List Char := ['e', 'x', 'p', 'o', 'r', 't', ' ']

/-- A line without the word in front of it. -/
def withoutExport (cs : List Char) : List Char :=
  if exportMark.isPrefixOf cs then Text.stripStart (cs.drop exportMark.length) else cs

/-- What a line assigns, if it does. -/
def assignment? (line : String) : Option (String × String) :=
  let cs := Text.stripChars line.toList
  if cs.head? = some '#' then none
  else match Text.cutAt '=' (withoutExport cs) with
    | some (key, value) =>
        let key := Text.stripChars key
        if key.isEmpty then none
        else some (String.ofList key, String.ofList (valueOf (Text.stripChars value)))
    | none => none

/-- What the lines of a text assign, in order. -/
def assignments (text : String) : List (String × String) := (Text.lines text).filterMap assignment?

/-! ## §2. Loading. -/

/-- Why a file is not loaded. -/
inductive LoadFault where
  /-- It is no text. -/
  | notText (error : Text.ByteError)
  /-- A variable or its value has a null character in it. -/
  | nullCharacter
  deriving DecidableEq, Repr

/-- A fault in words. -/
def LoadFault.message : LoadFault → String
  | .notText error => error.message
  | .nullCharacter => "embedded null byte"

/-- What loading comes to. -/
structure Loaded where
  /-- The variables that were set, in order. -/
  keys : List String
  /-- The environment afterwards. -/
  environment : Environment
  deriving DecidableEq, Repr

/-- Whether a text has a null character in it. -/
def hasNull (s : String) : Bool := s.toList.contains '\x00'

/-- Carries assignments out. -/
def carryOut (override : Bool) (e : Environment) :
    List (String × String) → Except LoadFault Loaded
  | [] => .ok ⟨[], e⟩
  | (key, value) :: rest =>
      if !override && (e.get? key).isSome then carryOut override e rest
      else if hasNull key || hasNull value then .error .nullCharacter
      else (carryOut override (e.set key value) rest).map fun l => { l with keys := key :: l.keys }

/-- Loads a file, if there is one. -/
def load (override : Bool) (e : Environment) (file : Option (List UInt8)) :
    Except LoadFault Loaded := do
  match file with
  | none => pure ⟨[], e⟩
  | some bytes => do
      let text ← (Text.decode bytes).mapError .notText
      carryOut override e (assignments text)

end Syllabus.EnvironmentFile
