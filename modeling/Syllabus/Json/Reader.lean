/-
  Syllabus.Json.Reader
  ────────────────────
  **READING JSON TEXT, WITH THE PLACE OF THE FIRST FAULT.**

  The grammar is JSON's, with `NaN` and the two infinities as further numbers.
  The first fault in reading order is reported with its line, its column and
  its offset.  A step returns the text that is left, so a fault is located by
  how much was left when it was met.
-/
import Syllabus.Json.Basic
import Syllabus.Text.Numeral

namespace Syllabus.Json

/-! ## §1. Faults. -/

/-- What is wrong with a text. -/
inductive Fault where
  /-- No value starts here. -/
  | expectedValue
  /-- An object's member has no name. -/
  | expectedName
  /-- A name is not followed by a colon. -/
  | expectedColon
  /-- A member or an item is followed neither by a comma nor by the end. -/
  | expectedComma
  /-- Something follows the value. -/
  | extraData
  /-- A string is not closed. -/
  | unterminatedString
  /-- A control character stands in a string. -/
  | controlCharacter
  /-- A backslash is followed by a letter without a meaning. -/
  | unknownEscape
  /-- A code unit's escape has not four hexadecimal digits. -/
  | unitEscape
  /-- The text starts with a byte order mark. -/
  | byteOrderMark
  /-- A whole number has too many digits. -/
  | longNumber (digits : Nat)
  deriving DecidableEq, Repr

/-- A fault in words. -/
def Fault.message : Fault → String
  | .expectedValue => "Expecting value"
  | .expectedName => "Expecting property name enclosed in double quotes"
  | .expectedColon => "Expecting ':' delimiter"
  | .expectedComma => "Expecting ',' delimiter"
  | .extraData => "Extra data"
  | .unterminatedString => "Unterminated string starting at"
  | .controlCharacter => "Invalid control character at"
  | .unknownEscape => "Invalid \\escape"
  | .unitEscape => "Invalid \\uXXXX escape"
  | .byteOrderMark => "Unexpected UTF-8 BOM (decode using utf-8-sig)"
  | .longNumber digits => Text.tooLongMessage digits

/-- A fault and the text that was left where it was met. -/
structure Stop where
  /-- What is wrong. -/
  fault : Fault
  /-- The text from the fault on. -/
  rest : List Char
  deriving DecidableEq, Repr

/-- A fault and its place. -/
structure ReadError where
  /-- What is wrong. -/
  fault : Fault
  /-- How many characters stand before the fault. -/
  offset : Nat
  /-- The line of the fault, from one. -/
  line : Nat
  /-- The column of the fault, from one. -/
  column : Nat
  deriving DecidableEq, Repr

/-- The place of a fault in the text that it was met in. -/
def Stop.locate (text : List Char) (stop : Stop) : ReadError :=
  let offset := text.length - stop.rest.length
  let before := text.take offset
  { fault := stop.fault
    offset
    line := before.count '\n' + 1
    column := (before.reverse.takeWhile (· != '\n')).length + 1 }

/-- A fault and its place in words.  A number with too many digits is reported without a place. -/
def ReadError.message (e : ReadError) : String :=
  match e.fault with
  | .longNumber _ => e.fault.message
  | _ => s!"{e.fault.message}: line {e.line} column {e.column} (char {e.offset})"

/-! ## §2. Strings. -/

/-- A character that separates tokens. -/
def isSpace (c : Char) : Bool := c = ' ' || c = '\t' || c = '\n' || c = '\r'

/-- Without the separators at the start. -/
def skipSpace (cs : List Char) : List Char := cs.dropWhile isSpace

/-- The value of a hexadecimal digit. -/
def hexDigit? (c : Char) : Option Nat :=
  if c.isDigit then some (c.toNat - '0'.toNat)
  else if 'a' ≤ c && c ≤ 'f' then some (c.toNat - 'a'.toNat + 10)
  else if 'A' ≤ c && c ≤ 'F' then some (c.toNat - 'A'.toNat + 10)
  else none

/-- The code unit of four hexadecimal digits that more text follows. -/
def unit? (cs : List Char) : Option (Nat × List Char) :=
  match cs with
  | a :: b :: c :: d :: next :: rest => do
      let a ← hexDigit? a
      let b ← hexDigit? b
      let c ← hexDigit? c
      let d ← hexDigit? d
      pure (((a * 16 + b) * 16 + c) * 16 + d, next :: rest)
  | _ => none

/-- The character of a short escape. -/
def shortEscape? : Char → Option Char
  | '\x22' => some '\x22'
  | '\\' => some '\\'
  | '/' => some '/'
  | 'b' => some '\x08'
  | 'f' => some '\x0c'
  | 'n' => some '\n'
  | 'r' => some '\r'
  | 't' => some '\t'
  | _ => none

/-- The second half of a surrogate pair, if it follows. -/
def lowSurrogate? : List Char → Option (Nat × List Char)
  | '\\' :: 'u' :: rest => match unit? rest with
    | some (n, rest) => if 0xDC00 ≤ n && n ≤ 0xDFFF then some (n, rest) else none
    | none => none
  | _ => none

/-- The rest of a string after its opening quote, from the text `opening` that starts with that
quote; the characters read so far come in reverse.  The budget bounds the number of characters and
escapes. -/
def stringBody (opening : List Char) : (budget : Nat) → (done cs : List Char) →
    Except Stop (String × List Char)
  | 0, _, _ => .error ⟨.unterminatedString, opening⟩
  | _ + 1, _, [] => .error ⟨.unterminatedString, opening⟩
  | _ + 1, done, '\x22' :: rest => .ok (String.ofList done.reverse, rest)
  | _ + 1, _, ['\\'] => .error ⟨.unterminatedString, opening⟩
  | budget + 1, done, '\\' :: 'u' :: rest =>
      match unit? rest with
      | none => .error ⟨.unitEscape, 'u' :: rest⟩
      | some (n, after) =>
          if 0xD800 ≤ n && n ≤ 0xDBFF then
            match lowSurrogate? after with
            | some (m, after) =>
                let code := 0x10000 + (n - 0xD800) * 0x400 + (m - 0xDC00)
                stringBody opening budget (Char.ofNat code :: done) after
            | none => stringBody opening budget ('\uFFFD' :: done) after
          else if 0xDC00 ≤ n && n ≤ 0xDFFF then stringBody opening budget ('\uFFFD' :: done) after
          else stringBody opening budget (Char.ofNat n :: done) after
  | budget + 1, done, '\\' :: c :: rest =>
      match shortEscape? c with
      | some c => stringBody opening budget (c :: done) rest
      | none => .error ⟨.unknownEscape, '\\' :: c :: rest⟩
  | budget + 1, done, c :: rest =>
      if c.toNat < 0x20 then .error ⟨.controlCharacter, c :: rest⟩
      else stringBody opening budget (c :: done) rest

/-- A string whose opening quote stands at the head of the text. -/
def readString (cs : List Char) : Except Stop (String × List Char) :=
  stringBody cs (cs.length + 1) [] cs.tail

/-! ## §3. Numbers. -/

/-- A fraction part with at least one digit, and what follows it. -/
def fractionPart : List Char → List Char × List Char
  | '.' :: rest =>
      let ds := rest.takeWhile Char.isDigit
      if ds.isEmpty then ([], '.' :: rest) else (ds, rest.drop ds.length)
  | cs => ([], cs)

/-- An exponent part with at least one digit, and what follows it. -/
def exponentPart : List Char → Option Int × List Char
  | e :: rest =>
      if e = 'e' || e = 'E' then
        let (negative, cs) := Text.takeSign rest
        match Text.takeDigits cs with
        | ([], _) => (none, e :: rest)
        | (ds, after) =>
            let n : Int := Decimal.ofDigits ds
            (some (if negative then -n else n), after)
      else (none, e :: rest)
  | [] => (none, [])

/-- The whole part of a number: a zero alone, or digits that start with another. -/
def wholePart : List Char → Option (List Char × List Char)
  | '0' :: rest => some (['0'], rest)
  | cs =>
      let ds := cs.takeWhile Char.isDigit
      if ds.isEmpty then none else some (ds, cs.drop ds.length)

/-- A number without its sign. -/
structure Numeral where
  /-- The digits in front of the point. -/
  whole : List Nat
  /-- The digits behind the point. -/
  fraction : List Nat
  /-- The exponent, if one is written. -/
  power : Option Int
  deriving DecidableEq, Repr

/-- Whether a number is written as a whole one. -/
def Numeral.isInteger (n : Numeral) : Bool := n.fraction.isEmpty && n.power.isNone

/-- The double that a number denotes. -/
def Numeral.toBinary64 (n : Numeral) (negative : Bool) : Binary64 :=
  Decimal.scaled negative (Decimal.ofDigits (n.whole ++ n.fraction))
    (n.power.getD 0 - n.fraction.length)

/-- The integer that a number written as a whole one denotes. -/
def Numeral.toInt (n : Numeral) (negative : Bool) : Int :=
  let m : Int := Decimal.ofDigits n.whole
  if negative then -m else m

/-- A number without its sign at the head of the text, and what follows it. -/
def takeNumeral (cs : List Char) : Option (Numeral × List Char) :=
  (wholePart cs).map fun (whole, rest) =>
    let (fraction, rest) := fractionPart rest
    let (power, rest) := exponentPart rest
    (⟨whole.filterMap Text.plainDigit?, fraction.filterMap Text.plainDigit?, power⟩, rest)

/-- A number at the head of the text. -/
def readNumber (cs : List Char) : Except Stop (Json × List Char) :=
  let (negative, body) := match cs with
    | '-' :: rest => (true, rest)
    | _ => (false, cs)
  match takeNumeral body with
  | none => .error ⟨.expectedValue, cs⟩
  | some (n, rest) =>
      if n.isInteger then
        if Text.maxDigits < n.whole.length then .error ⟨.longNumber n.whole.length, cs⟩
        else .ok (.int (n.toInt negative), rest)
      else .ok (.float (n.toBinary64 negative), rest)

/-! ## §4. Values. -/

/-- The words that are values. -/
def words : List (String × Json) :=
  [("null", .null), ("true", .bool true), ("false", .bool false), ("NaN", .float .nan),
    ("Infinity", .float (.infinite false)), ("-Infinity", .float (.infinite true))]

/-- A word or a number at the head of the text. -/
def readScalar (cs : List Char) : Except Stop (Json × List Char) :=
  match words.find? fun (w, _) => w.toList.isPrefixOf cs with
  | some (w, v) => .ok (v, cs.drop w.length)
  | none => readNumber cs

mutual

/-- A value at the head of the text.  The budget bounds the steps, of which there are at most two
for each character. -/
def readValue : (budget : Nat) → List Char → Except Stop (Json × List Char)
  | 0, cs => .error ⟨.expectedValue, cs⟩
  | budget + 1, cs =>
      match cs with
      | '\x22' :: _ => (readString cs).map fun (s, rest) => (.str s, rest)
      | '[' :: rest =>
          match skipSpace rest with
          | ']' :: rest => .ok (.arr [], rest)
          | rest => readItems budget [] rest
      | '\x7b' :: rest =>
          match skipSpace rest with
          | '\x7d' :: rest => .ok (.obj [], rest)
          | rest => readMembers budget [] rest
      | _ => readScalar cs

/-- The items of an array from the next one on; those read so far come in reverse. -/
def readItems : (budget : Nat) → (done : List Json) → List Char → Except Stop (Json × List Char)
  | 0, _, cs => .error ⟨.expectedValue, cs⟩
  | budget + 1, done, cs =>
      match readValue budget cs with
      | .error e => .error e
      | .ok (v, rest) =>
          match skipSpace rest with
          | ']' :: rest => .ok (.arr (v :: done).reverse, rest)
          | ',' :: rest => readItems budget (v :: done) (skipSpace rest)
          | rest => .error ⟨.expectedComma, rest⟩

/-- The members of an object from the next one on; those read so far come in reverse. -/
def readMembers : (budget : Nat) → (done : List (String × Json)) → List Char →
    Except Stop (Json × List Char)
  | 0, _, cs => .error ⟨.expectedName, cs⟩
  | budget + 1, done, cs =>
      match cs with
      | '\x22' :: _ =>
          match readString cs with
          | .error e => .error e
          | .ok (key, rest) =>
              match skipSpace rest with
              | ':' :: rest =>
                  match readValue budget (skipSpace rest) with
                  | .error e => .error e
                  | .ok (v, rest) =>
                      match skipSpace rest with
                      | '\x7d' :: rest => .ok (.obj (mergeMembers ((key, v) :: done).reverse), rest)
                      | ',' :: rest => readMembers budget ((key, v) :: done) (skipSpace rest)
                      | rest => .error ⟨.expectedComma, rest⟩
              | rest => .error ⟨.expectedColon, rest⟩
      | _ => .error ⟨.expectedName, cs⟩

end

/-- A whole text: one value between separators. -/
def readText (cs : List Char) : Except Stop Json :=
  match cs with
  | '\uFEFF' :: _ => .error ⟨.byteOrderMark, cs⟩
  | _ =>
      match readValue (2 * cs.length + 2) (skipSpace cs) with
      | .error e => .error e
      | .ok (v, rest) =>
          match skipSpace rest with
          | [] => .ok v
          | rest => .error ⟨.extraData, rest⟩

/-- The value that a text denotes. -/
def parse (text : String) : Except ReadError Json :=
  match readText text.toList with
  | .ok v => .ok v
  | .error stop => .error (stop.locate text.toList)

end Syllabus.Json
