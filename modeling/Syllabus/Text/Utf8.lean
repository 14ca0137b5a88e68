/-
  Syllabus.Text.Utf8
  ──────────────────
  **READING UTF-8, WITH THE PLACE OF THE FIRST FLAW.**

  A character is written in one to four bytes.  The first byte says how many;
  the others continue it.  A second byte that would give a shorter character,
  a surrogate or something beyond U+10FFFF does not continue its first byte,
  so a flaw is met at the earliest byte at which no character is possible.

      step?       the character at the head of some bytes, or the flaw there
      decode      the text of some bytes, or the first flaw and its place
      decodeMost  the text of some bytes, a mark in place of every flaw
-/

namespace Syllabus.Text

/-! ## §1. Flaws. -/

/-- What is wrong with some bytes. -/
inductive ByteFlaw where
  /-- No character starts with this byte. -/
  | invalidStart
  /-- A byte does not continue the character. -/
  | invalidContinuation
  /-- The bytes end within a character. -/
  | unexpectedEnd
  deriving DecidableEq, Repr

/-- A flaw in words. -/
def ByteFlaw.message : ByteFlaw → String
  | .invalidStart => "invalid start byte"
  | .invalidContinuation => "invalid continuation byte"
  | .unexpectedEnd => "unexpected end of data"

/-- A flaw and its place. -/
structure ByteError where
  /-- What is wrong. -/
  flaw : ByteFlaw
  /-- The first of the bytes that make no character. -/
  byte : UInt8
  /-- How many bytes stand before it. -/
  offset : Nat
  /-- How many bytes make no character. -/
  count : Nat
  deriving DecidableEq, Repr

/-- A number below 256 in two lower-case hexadecimal digits. -/
def hexByte (b : UInt8) : String :=
  let digits := Nat.toDigits 16 b.toNat
  String.ofList (if digits.length < 2 then '0' :: digits else digits)

/-- A flaw and its place in words. -/
def ByteError.message (e : ByteError) : String :=
  if e.count = 1 then
    s!"'utf-8' codec can't decode byte 0x{hexByte e.byte} in position {e.offset}: {e.flaw.message}"
  else
    s!"'utf-8' codec can't decode bytes in position {e.offset}-{e.offset + e.count - 1}: "
      ++ e.flaw.message

/-! ## §2. One character. -/

/-- The class of a first byte: how many bytes follow it, and the range of the first of these. -/
def leadOf? (b : UInt8) : Option (Nat × UInt8 × UInt8) :=
  if b < 0x80 then some (0, 0x80, 0xBF)
  else if b < 0xC2 then none
  else if b < 0xE0 then some (1, 0x80, 0xBF)
  else if b = 0xE0 then some (2, 0xA0, 0xBF)
  else if b = 0xED then some (2, 0x80, 0x9F)
  else if b < 0xF0 then some (2, 0x80, 0xBF)
  else if b = 0xF0 then some (3, 0x90, 0xBF)
  else if b < 0xF4 then some (3, 0x80, 0xBF)
  else if b = 0xF4 then some (3, 0x80, 0x8F)
  else none

/-- The bits of a first byte that belong to the character. -/
def leadBits (follow : Nat) (b : UInt8) : Nat :=
  match follow with
  | 0 => b.toNat
  | 1 => b.toNat % 0x20
  | 2 => b.toNat % 0x10
  | _ => b.toNat % 0x08

/-- Takes the bytes that continue a character, of which `taken` are taken already. -/
def continued (low high : UInt8) (code taken : Nat) :
    (follow : Nat) → List UInt8 → Except (ByteFlaw × Nat) (Nat × List UInt8)
  | 0, rest => .ok (code, rest)
  | _ + 1, [] => .error (.unexpectedEnd, taken)
  | follow + 1, b :: rest =>
      if low ≤ b && b ≤ high then
        continued 0x80 0xBF (code * 0x40 + b.toNat % 0x40) (taken + 1) follow rest
      else .error (.invalidContinuation, taken)

/-- The character at the head of some bytes and what follows it, or the flaw and how many bytes it
spans. -/
def step? (b : UInt8) (rest : List UInt8) : Except (ByteFlaw × Nat) (Char × List UInt8) :=
  match leadOf? b with
  | none => .error (.invalidStart, 1)
  | some (follow, low, high) =>
      (continued low high (leadBits follow b) 1 follow rest).map fun (code, rest) =>
        (Char.ofNat code, rest)

/-! ## §3. Texts. -/

/-- The text of some bytes that have others before them; `fuel` is how many there are. -/
def decodeFrom (offset : Nat) : (fuel : Nat) → List UInt8 → Except ByteError (List Char)
  | 0, _ | _, [] => .ok []
  | fuel + 1, b :: rest =>
      match step? b rest with
      | .error (flaw, count) => .error ⟨flaw, b, offset, count⟩
      | .ok (c, left) =>
          (decodeFrom (offset + (rest.length + 1 - left.length)) fuel left).map (c :: ·)

/-- The text of some bytes, or the first flaw. -/
def decode (bytes : List UInt8) : Except ByteError String :=
  (decodeFrom 0 bytes.length bytes).map String.ofList

/-- The character that stands for bytes that make none. -/
def replacementChar : Char := '\uFFFD'

/-- The text of some bytes, with a mark for each flaw; `fuel` is how many there are. -/
def decodeMostFrom : (fuel : Nat) → List UInt8 → List Char
  | 0, _ | _, [] => []
  | fuel + 1, b :: rest =>
      match step? b rest with
      | .error (_, count) => replacementChar :: decodeMostFrom fuel (rest.drop (count - 1))
      | .ok (c, left) => c :: decodeMostFrom fuel left

/-- The text of some bytes, with a mark for each flaw. -/
def decodeMost (bytes : List UInt8) : String :=
  String.ofList (decodeMostFrom bytes.length bytes)

/-- The bytes of a text. -/
def encode (s : String) : List UInt8 := s.toList.flatMap String.utf8EncodeChar

end Syllabus.Text
