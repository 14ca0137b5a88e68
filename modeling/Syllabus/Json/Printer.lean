/-
  Syllabus.Json.Printer
  ─────────────────────
  **JSON TEXT.**

  `render` writes a value in ASCII without blanks.  A number that is not
  finite has no JSON form and is written as `null`; `finiteOnly` is the value
  that a reader of the text gets back.
-/
import Syllabus.Json.Shown

namespace Syllabus.Json

/-! ## §1. Strings. -/

/-- A code unit of sixteen bits as an escape. -/
def unitEscape (n : Nat) : List Char := '\\' :: 'u' :: Text.hexCode 4 n

/-- One character of a JSON string. -/
def renderChar (c : Char) : List Char :=
  if c = '\x22' || c = '\\' then ['\\', c]
  else if 0x20 ≤ c.toNat && c.toNat < 0x7F then [c]
  else if c.toNat ≤ 0xFFFF then unitEscape c.toNat
  else
    let n := c.toNat - 0x10000
    unitEscape (0xD800 + n / 0x400) ++ unitEscape (0xDC00 + n % 0x400)

/-- A string in quotes. -/
def renderString (s : String) : String :=
  String.ofList ('\x22' :: s.toList.flatMap renderChar ++ ['\x22'])

/-! ## §2. Values. -/

mutual

/-- The text of a value. -/
def render : Json → String
  | .null => "null"
  | .bool true => "true"
  | .bool false => "false"
  | .int n => Decimal.decimal n
  | .float x => if x.isFinite then numberLayout.text x else "null"
  | .str s => renderString s
  | .arr xs => "[" ++ renderItems xs ++ "]"
  | .obj ms => "\x7b" ++ renderMembers ms ++ "\x7d"
termination_by structural v => v

/-- Values between commas. -/
def renderItems : List Json → String
  | [] => ""
  | [x] => render x
  | x :: y :: rest => render x ++ "," ++ renderItems (y :: rest)
termination_by structural vs => vs

/-- Members between commas. -/
def renderMembers : List (String × Json) → String
  | [] => ""
  | [(k, v)] => renderString k ++ ":" ++ render v
  | (k, v) :: m :: rest => renderString k ++ ":" ++ render v ++ "," ++ renderMembers (m :: rest)
termination_by structural ms => ms

end

/-! ## §3. What the text says. -/

mutual

/-- A value with `null` for every number that is not finite. -/
def finiteOnly : Json → Json
  | .float x => if x.isFinite then .float x else .null
  | .arr xs => .arr (finiteItems xs)
  | .obj ms => .obj (finiteMembers ms)
  | v => v
termination_by structural v => v

/-- Values with `null` for every number that is not finite. -/
def finiteItems : List Json → List Json
  | [] => []
  | x :: rest => finiteOnly x :: finiteItems rest
termination_by structural vs => vs

/-- Members with `null` for every number that is not finite. -/
def finiteMembers : List (String × Json) → List (String × Json)
  | [] => []
  | (k, v) :: rest => (k, finiteOnly v) :: finiteMembers rest
termination_by structural ms => ms

end

/-- Whether every number in a value is finite. -/
def isFinite (v : Json) : Bool := v.finiteOnly = v

end Syllabus.Json
