/-
  Syllabus.Service.Header
  ───────────────────────
  **THE HEADERS OF A MESSAGE.**

  Headers stand in the order in which they were given, and a name may occur
  more than once.  Names are compared as they are: whoever wants them in lower
  case writes them so.
-/
import Syllabus.Text.Case

namespace Syllabus.Service

/-- The headers of a message. -/
abbrev Headers := List (String × String)

namespace Headers

/-- The value of the first header of a name. -/
def get? (name : String) : Headers → Option String
  | [] => none
  | (k, v) :: rest => if k = name then some v else get? name rest

/-- The value of the first header of a name in lower case, however the header spells it. -/
def getLoosely? (name : String) (hs : Headers) : Option String :=
  (hs.find? fun (k, _) => Text.lower k = name).map Prod.snd

/-- The headers without those of a name. -/
def erase (name : String) (hs : Headers) : Headers := hs.filter fun (k, _) => k ≠ name

/-- Gives a header a value: in the place of the first of that name, of which no other is kept, or at
the end. -/
def set (name value : String) : Headers → Headers
  | [] => [(name, value)]
  | (k, v) :: rest =>
      if k = name then (k, value) :: Headers.erase name rest else (k, v) :: set name value rest

/-- Adds a header unless there is one of that name. -/
def setDefault (name value : String) (hs : Headers) : Headers :=
  if (get? name hs).isSome then hs else hs ++ [(name, value)]

/-- The headers with their names in lower case. -/
def lowerNames (hs : Headers) : Headers := hs.map fun (k, v) => (Text.lower k, v)

end Headers

end Syllabus.Service
