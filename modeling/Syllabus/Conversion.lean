/-
  Syllabus.Conversion
  ───────────────────
  **LAX CONVERSION OF FIELDS.**

  The fields of an item have types, and authors are forgiven the usual slips:
  a number or a truth value may be written as a string, a whole number with a
  point and zeros, and a field that may be absent as the word `null`.  What
  cannot be converted is reported with the type that was wanted, the kind that
  was found and the path to it.

  A record is read in the order in which its members are written, so the first
  member that does not fit is the one that is reported.  Members that the
  record does not have are passed over; a field without a member keeps its
  default.
-/
import Syllabus.Json.Reader
import Syllabus.Path

namespace Syllabus

/-! ## §1. Reports. -/

/-- The types that a field may have. -/
inductive Wanted where
  /-- A text. -/
  | text
  /-- A whole number. -/
  | integer
  /-- A truth value. -/
  | truth
  /-- A list. -/
  | list
  /-- A record. -/
  | record
  /-- A text or nothing. -/
  | optionalText
  /-- A record or nothing. -/
  | optionalRecord
  /-- A list or nothing. -/
  | optionalList
  /-- A text or a list. -/
  | textOrList
  deriving DecidableEq, Repr

/-- A type as reports name it. -/
def Wanted.name : Wanted → String
  | .text => "str"
  | .integer => "int"
  | .truth => "bool"
  | .list => "array"
  | .record => "object"
  | .optionalText => "str | null"
  | .optionalRecord => "object | null"
  | .optionalList => "array | null"
  | .textOrList => "str | array"

/-- What is wrong with a value. -/
inductive Misfit where
  /-- It is of another kind. -/
  | mismatch (wanted : Wanted) (found : String)
  /-- It is a whole number with too many digits. -/
  | integerOutOfRange
  /-- It is a number beyond every finite double. -/
  | numberOutOfRange
  deriving DecidableEq, Repr

/-- What is wrong, in words. -/
def Misfit.message : Misfit → String
  | .mismatch wanted found => "Expected `" ++ wanted.name ++ "`, got `" ++ found ++ "`"
  | .integerOutOfRange => "Integer value out of range"
  | .numberOutOfRange => "Number out of range"

/-- A misfit and where it stands. -/
structure ConversionError where
  /-- What is wrong. -/
  misfit : Misfit
  /-- The path to it from the converted value. -/
  path : Path
  deriving DecidableEq, Repr

/-- The report of an error. -/
def ConversionError.message (e : ConversionError) : String :=
  e.misfit.message ++ " - at `" ++ e.path.rooted ++ "`"

/-! ## §2. Converters. -/

/-- A way to read a value as an `α`. -/
abbrev Converter (α : Type) := Json → Except ConversionError α

namespace Converter

/-- Fails on the value itself. -/
def misfit {α : Type} (m : Misfit) : Except ConversionError α := .error ⟨m, []⟩

/-- Fails because of the kind of the value. -/
def mismatch {α : Type} (wanted : Wanted) (v : Json) : Except ConversionError α :=
  misfit (.mismatch wanted v.kind)

/-- The result of converting a part, with its errors seen from the whole. -/
def under {α : Type} (step : Step) (r : Except ConversionError α) : Except ConversionError α :=
  match r with
  | .ok a => .ok a
  | .error e => .error ⟨e.misfit, step :: e.path⟩

/-- A text. -/
def text : Converter String
  | .str s => .ok s
  | v => mismatch .text v

/-- A text, or nothing for `null`. -/
def optionalText : Converter (Option String)
  | .str s => .ok (some s)
  | .null => .ok none
  | v => mismatch .optionalText v

/-- Any value, as it is. -/
def anything : Converter Json := .ok

/-- The greatest magnitude of a number with a fraction point that is taken for a whole one. -/
def wholeLimit : Nat := Nat.pow 2 53

/-- A number with a fraction point that is a whole one of moderate size. -/
def wholeFloat (x : Binary64) : Except ConversionError Int :=
  match x.toInt? with
  | some n => if n.natAbs ≤ wholeLimit then .ok n else misfit (.mismatch .integer "float")
  | none => misfit (.mismatch .integer "float")

/-- A number in JSON's own spelling that takes up a whole text, and its sign. -/
def numeralOf? (s : String) : Option (Bool × Json.Numeral) :=
  let (negative, body) := match s.toList with
    | '-' :: rest => (true, rest)
    | cs => (false, cs)
  match Json.takeNumeral body with
  | some (n, []) => some (negative, n)
  | _ => none

/-- A text in lower case, as far as plain letters go. -/
def plainLower (s : String) : String := String.ofList (s.toList.map Char.toLower)

/-- The words for numbers that are not finite. -/
def nonFiniteWords : List String := ["nan", "inf", "infinity"]

/-- Whether a text names a number that is not finite, behind at most one sign. -/
def saysNonFinite (s : String) : Bool :=
  let word := match s.toList with
    | '-' :: rest => rest
    | cs => cs
  nonFiniteWords.contains (plainLower (String.ofList word))

/-- A text that is not a numeral is no whole number, and a word for a number that is not finite is
one of another kind. -/
def notANumeral (s : String) : Misfit :=
  .mismatch .integer (if saysNonFinite s then "float" else "str")

/-- A whole number. -/
def integer : Converter Int
  | .int n => .ok n
  | .float x => wholeFloat x
  | .str s =>
      match numeralOf? s with
      | none => misfit (notANumeral s)
      | some (negative, n) =>
          if n.isInteger then
            if Text.maxDigits < n.whole.length then misfit .integerOutOfRange
            else .ok (n.toInt negative)
          else
            let x := n.toBinary64 negative
            if x.isFinite then wholeFloat x else misfit .numberOutOfRange
  | v => mismatch .integer v

/-- A truth value. -/
def truth : Converter Bool
  | .bool b => .ok b
  | .int n => if n = 0 then .ok false else if n = 1 then .ok true else misfit (.mismatch .truth "int")
  | .str s =>
      if s = "1" || plainLower s = "true" then .ok true
      else if s = "0" || plainLower s = "false" then .ok false
      else misfit (.mismatch .truth "str")
  | v => mismatch .truth v

/-- The items of a list, from an index on. -/
def itemsFrom {α : Type} (item : Converter α) : (i : Nat) → List Json →
    Except ConversionError (List α)
  | _, [] => .ok []
  | i, v :: rest => do
      let a ← under (.index i) (item v)
      let as ← itemsFrom item (i + 1) rest
      pure (a :: as)

/-- A list of items that are all of one type. -/
def list {α : Type} (item : Converter α) : Converter (List α)
  | .arr vs => itemsFrom item 0 vs
  | v => mismatch .list v

/-- Whether a text is the word that stands for nothing. -/
def saysNull (s : String) : Bool := plainLower s = "null"

/-- A list, or nothing for `null` and for the word. -/
def optionalList {α : Type} (item : Converter α) : Converter (Option (List α))
  | .arr vs => (itemsFrom item 0 vs).map some
  | .null => .ok none
  | .str s => if saysNull s then .ok none else mismatch .optionalList (.str s)
  | v => mismatch .optionalList v

end Converter

/-! ## §3. Records. -/

/-- A field of a record: its name, and what its value does to the record. -/
structure Field (σ : Type) where
  /-- The name of the member that the field is read from. -/
  name : String
  /-- The record with the field set from a value. -/
  put : Json → σ → Except ConversionError σ

/-- A field that is read by a converter and stored by a setter. -/
def Field.of {σ α : Type} (name : String) (read : Converter α) (set : α → σ → σ) : Field σ :=
  { name, put := fun v r => (read v).map fun a => set a r }

/-- Sets one field from a member, or passes the member over. -/
def putMember {σ : Type} (fields : List (Field σ)) (key : String) (v : Json) (r : σ) :
    Except ConversionError σ :=
  match fields.find? (·.name = key) with
  | some field => Converter.under (.key key) (field.put v r)
  | none => .ok r

/-- The record that members describe, in their order, from its defaults. -/
def readMembers {σ : Type} (fields : List (Field σ)) :
    (members : List (String × Json)) → (r : σ) → Except ConversionError σ
  | [], r => .ok r
  | (key, v) :: rest, r => do
      let r ← putMember fields key v r
      readMembers fields rest r

namespace Converter

/-- A record. -/
def record {σ : Type} (fields : List (Field σ)) (defaults : σ) : Converter σ
  | .obj ms => readMembers fields ms defaults
  | v => mismatch .record v

/-- A record, or nothing for `null` and for the word. -/
def optionalRecord {σ : Type} (fields : List (Field σ)) (defaults : σ) : Converter (Option σ)
  | .obj ms => (readMembers fields ms defaults).map some
  | .null => .ok none
  | .str s => if saysNull s then .ok none else mismatch .optionalRecord (.str s)
  | v => mismatch .optionalRecord v

end Converter

end Syllabus
