/-
  Syllabus.Url.Percent
  ────────────────────
  **PERCENT SIGNS IN URLS.**

  A character that a part of a URL cannot hold is written as the bytes of its
  UTF-8 form, each as a percent sign and two upper-case hexadecimal digits.
  Paths and queries keep every visible ASCII character but a few; a form keeps
  letters, digits and four marks, and writes a space as a plus sign.
-/
import Syllabus.Json.Reader
import Syllabus.Text.Utf8

namespace Syllabus.Url

/-! ## §1. Encoding. -/

/-- An upper-case hexadecimal digit. -/
def upperHexDigit (n : Nat) : Char :=
  if n < 10 then Char.ofNat ('0'.toNat + n) else Char.ofNat ('A'.toNat + (n - 10))

/-- A byte as a percent sign and two digits. -/
def percentByte (b : UInt8) : List Char :=
  ['%', upperHexDigit (b.toNat / 16), upperHexDigit (b.toNat % 16)]

/-- A character as percent signs and digits. -/
def percentChar (c : Char) : List Char := (String.utf8EncodeChar c).flatMap percentByte

/-- A text with every character that is not kept written with percent signs. -/
def percentEncoded (keeps : Char → Bool) (cs : List Char) : List Char :=
  cs.flatMap fun c => if keeps c then [c] else percentChar c

/-- Whether a character is a visible one of ASCII. -/
def isVisible (c : Char) : Bool := decide (0x20 < c.toNat) && decide (c.toNat < 0x7F)

/-- Whether a query keeps a character. -/
def queryKeeps (c : Char) : Bool := isVisible c && c ∉ ['\x22', '#', '<', '>']

/-- Whether a path keeps a character. -/
def pathKeeps (c : Char) : Bool := queryKeeps c && c ∉ ['?', '\x60', '\x7b', '\x7d']

/-- Whether a form keeps a character. -/
def formKeeps (c : Char) : Bool := c.isAlphanum || ['_', '.', '-', '~'].contains c

/-- A name or a value in a form. -/
def formText (s : String) : List Char :=
  s.toList.flatMap fun c => if c = ' ' then ['+'] else percentEncoded formKeeps [c]

/-- The pairs of a form, with their names and values between equals signs and ampersands. -/
def formPairs (pairs : List (String × String)) : List Char :=
  [ '&' ].intercalate (pairs.map fun (k, v) => formText k ++ '=' :: formText v)

/-! ## §2. Decoding. -/

/-- The bytes of a text in which percent signs stand for bytes. -/
def percentBytes : List Char → List UInt8
  | [] => []
  | '%' :: a :: b :: rest =>
      match Json.hexDigit? a, Json.hexDigit? b with
      | some m, some n => UInt8.ofNat (m * 16 + n) :: percentBytes rest
      | _, _ => UInt8.ofNat '%'.toNat :: percentBytes (a :: b :: rest)
  | c :: rest => String.utf8EncodeChar c ++ percentBytes rest

/-- A text with its percent signs read; bytes that make no character are marked. -/
def percentDecoded (s : String) : String := Text.decodeMost (percentBytes s.toList)

end Syllabus.Url
