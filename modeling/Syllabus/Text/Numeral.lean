/-
  Syllabus.Text.Numeral
  ─────────────────────
  **NUMBERS AS PEOPLE WRITE THEM.**

  A numeral may be padded with blanks, carry a sign, use the digits of any
  script and group its digits by single underscores.  `readInt` reads whole
  numbers of at most 4300 digits; `readReal` also takes a fraction, an
  exponent and the words for infinity and "not a number".
-/
import Syllabus.Decimal.Digits
import Syllabus.Text.Blank
import Syllabus.Text.Digit
import Syllabus.Text.Quoted

namespace Syllabus.Text

/-! ## §1. Plain spelling. -/

/-- A digit as a character. -/
def digitChar (d : Nat) : Char := Char.ofNat ('0'.toNat + d)

/-- The value of a plain digit. -/
def plainDigit? (c : Char) : Option Nat := if c.isDigit then some (c.toNat - '0'.toNat) else none

/-- One character of a numeral in plain spelling: decimal digits of every script become the plain
ones, blanks beyond the plain ones become spaces, and anything else that is foreign a mark that no
numeral contains. -/
def plainChar (c : Char) : Char :=
  if c.toNat < 0x80 then c
  else if isBlankChar c then ' '
  else match decimalValue? c with
    | some d => digitChar d
    | none => '?'

/-- Whether a plain character pads a numeral. -/
def isPad (c : Char) : Bool := c = ' ' || (decide ('\t'.toNat ≤ c.toNat) && decide (c.toNat ≤ '\r'.toNat))

/-- The spelling of a numeral without its padding. -/
def plainSpelling (s : String) : List Char :=
  let cs := (s.toList.map plainChar).dropWhile isPad
  (cs.reverse.dropWhile isPad).reverse

/-- A leading sign, and what follows it. -/
def takeSign : List Char → Bool × List Char
  | '-' :: rest => (true, rest)
  | '+' :: rest => (false, rest)
  | cs => (false, cs)

/-- The digits at the start of a spelling, and what follows them. -/
def takeDigits (cs : List Char) : List Nat × List Char :=
  ((cs.takeWhile Char.isDigit).filterMap plainDigit?, cs.dropWhile Char.isDigit)

/-! ## §2. Grouping. -/

/-- Whether every underscore stands between two digits, given whether a digit comes before. -/
def groupedAfter (digitBefore : Bool) : List Char → Bool
  | [] => true
  | '_' :: c :: rest => digitBefore && c.isDigit && groupedAfter true rest
  | c :: rest => c != '_' && groupedAfter c.isDigit rest

/-- Whether every underscore stands between two digits. -/
def wellGrouped (cs : List Char) : Bool := groupedAfter false cs

/-- A spelling without its underscores. -/
def ungrouped (cs : List Char) : List Char := cs.filter (· != '_')

/-! ## §3. Whole numbers. -/

/-- Why a text is not a whole number. -/
inductive NumeralError where
  /-- It is not spelled like one. -/
  | malformed (text : String)
  /-- It has more digits than are converted. -/
  | tooLong (digits : Nat)
  deriving DecidableEq, Repr

/-- The most digits that a whole number may be written with. -/
def maxDigits : Nat := 4300

/-- The report of a whole number with too many digits. -/
def tooLongMessage (digits : Nat) : String :=
  s!"Exceeds the limit ({maxDigits} digits) for integer string conversion: value has {digits} digits; "
    ++ "use sys.set_int_max_str_digits() to increase the limit"

/-- The report of a text that is not a whole number; it quotes at most 200 characters. -/
def NumeralError.message : NumeralError → String
  | .malformed text => "invalid literal for int() with base 10: " ++ takeChars 200 (quoted text)
  | .tooLong digits => tooLongMessage digits

/-- Reads a whole number.  Too many digits are reported before anything that follows them. -/
def readInt (s : String) : Except NumeralError Int :=
  let (negative, cs) := takeSign (plainSpelling s)
  let run := cs.takeWhile fun c => c.isDigit || c = '_'
  let ds := run.filterMap plainDigit?
  if run.isEmpty || !wellGrouped run then .error (.malformed s)
  else if maxDigits < ds.length then .error (.tooLong ds.length)
  else if run.length < cs.length then .error (.malformed s)
  else
    let n : Int := Decimal.ofDigits ds
    .ok (if negative then -n else n)

/-! ## §4. Real numbers. -/

/-- The exponent part of a numeral: nothing, or an `e` and a signed whole number. -/
def takePower? : List Char → Option Int
  | [] => some 0
  | e :: rest =>
      if e = 'e' || e = 'E' then
        let (negative, cs) := takeSign rest
        match takeDigits cs with
        | (d :: ds, []) =>
            let n : Int := Decimal.ofDigits (d :: ds)
            some (if negative then -n else n)
        | _ => none
      else none

/-- An unsigned numeral: digits on at least one side of an optional point, and an exponent. -/
def takeReal? (negative : Bool) (cs : List Char) : Option Binary64 :=
  let (whole, rest) := takeDigits cs
  let (fraction, rest) := match rest with
    | '.' :: rest => takeDigits rest
    | _ => ([], rest)
  if whole.isEmpty && fraction.isEmpty then none
  else (takePower? rest).map fun power =>
    Decimal.scaled negative (Decimal.ofDigits (whole ++ fraction)) (power - fraction.length)

/-- Reads a real number; none when the text is not spelled like one. -/
def readReal? (s : String) : Option Binary64 :=
  let plain := plainSpelling s
  if !wellGrouped plain then none
  else
    let (negative, cs) := takeSign (ungrouped plain)
    let word := String.ofList (cs.map Char.toLower)
    if word = "inf" || word = "infinity" then some (.infinite negative)
    else if word = "nan" then some .nan
    else takeReal? negative cs

end Syllabus.Text
