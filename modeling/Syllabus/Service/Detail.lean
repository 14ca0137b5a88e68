/-
  Syllabus.Service.Detail
  ───────────────────────
  **DETAILS OF AN ERROR.**

  The details of an error may hold more than JSON does: fixed sequences, sets,
  bytes, errors, and maps whose keys are not strings.  A detail is shown in
  running text like a JSON value; `toJson` is the nearest JSON value, in which
  every sequence is an array, every key a string, and an error its kind and
  what it says.
-/
import Syllabus.Json.Shown

namespace Syllabus.Service

/-! ## §1. The type. -/

/-- A detail of an error. -/
inductive Detail where
  /-- Nothing. -/
  | null
  /-- A truth value. -/
  | bool (b : Bool)
  /-- A whole number. -/
  | int (n : Int)
  /-- Any other number. -/
  | float (x : Binary64)
  /-- A text. -/
  | str (s : String)
  /-- Bytes. -/
  | bytes (bs : List UInt8)
  /-- A list. -/
  | list (items : List Detail)
  /-- A fixed sequence. -/
  | tuple (items : List Detail)
  /-- A set. -/
  | set (items : List Detail)
  /-- A map. -/
  | map (entries : List (Detail × Detail))
  /-- An error, with what it was raised with. -/
  | fault (kind : String) (arguments : List Detail)
  deriving Repr, Inhabited

namespace Detail

mutual

/-- A JSON value as a detail. -/
def ofJson : Json → Detail
  | .null => .null
  | .bool b => .bool b
  | .int n => .int n
  | .float x => .float x
  | .str s => .str s
  | .arr xs => .list (ofItems xs)
  | .obj ms => .map (ofMembers ms)
termination_by structural v => v

/-- JSON values as details. -/
def ofItems : List Json → List Detail
  | [] => []
  | x :: rest => ofJson x :: ofItems rest
termination_by structural vs => vs

/-- Members of an object as entries of a map. -/
def ofMembers : List (String × Json) → List (Detail × Detail)
  | [] => []
  | (k, v) :: rest => (.str k, ofJson v) :: ofMembers rest
termination_by structural ms => ms

end

/-! ## §2. Keys. -/

/-- The number that a detail counts as when it is a key. -/
def keyNumber? : Detail → Option Int
  | .bool b => some (if b then 1 else 0)
  | .int n => some n
  | .float x => x.toInt?
  | _ => none

/-- Whether two details are the same key: the same text, or the same number. -/
def sameKey (a b : Detail) : Bool :=
  match a, b with
  | .str s, .str t => s = t
  | .null, .null => true
  | .bytes s, .bytes t => s = t
  | .float x, .float y => x = y && !(x = .nan)
  | a, b => match keyNumber? a, keyNumber? b with
    | some m, some n => m = n
    | _, _ => false

/-- Gives a key a value: in its place if it is there already, else at the end. -/
def insertEntry (key value : Detail) : List (Detail × Detail) → List (Detail × Detail)
  | [] => [(key, value)]
  | (k, v) :: rest =>
      if sameKey k key then (k, value) :: rest else (k, v) :: insertEntry key value rest

/-- A map from entries, of which those with the same key count as one: the first key and the last
value. -/
def mapOf (entries : List (Detail × Detail)) : Detail :=
  .map (entries.foldl (fun acc (k, v) => insertEntry k v acc) [])

/-! ## §3. Kinds of errors. -/

/-- The kinds of errors of the system that have a number. -/
def systemKinds : List (Int × String) :=
  [(1, "PermissionError"), (2, "FileNotFoundError"), (3, "ProcessLookupError"),
    (4, "InterruptedError"), (10, "ChildProcessError"), (11, "BlockingIOError"),
    (13, "PermissionError"), (17, "FileExistsError"), (20, "NotADirectoryError"),
    (21, "IsADirectoryError"), (32, "BrokenPipeError"), (103, "ConnectionAbortedError"),
    (104, "ConnectionResetError"), (108, "BrokenPipeError"), (110, "TimeoutError"),
    (111, "ConnectionRefusedError"), (114, "BlockingIOError"), (115, "BlockingIOError")]

/-- The kinds of errors of the system. -/
def isSystemKind (kind : String) : Bool :=
  kind = "OSError" || systemKinds.any fun (_, name) => name = kind

/-- The kind that an error turns out to be: one of the system that comes with a number is of the
kind of that number. -/
def faultKind (kind : String) (arguments : List Detail) : String :=
  match kind, arguments with
  | "OSError", .int n :: _ :: _ =>
      match systemKinds.find? fun (m, _) => m = n with
      | some (_, name) => name
      | none => kind
  | _, _ => kind

/-! ## §4. Text. -/

/-- A byte between quotes. -/
def escapeByte (quote : Char) (b : UInt8) : List Char :=
  let c := Char.ofNat b.toNat
  if c = quote || c = '\\' then ['\\', c]
  else if c = '\t' then ['\\', 't']
  else if c = '\n' then ['\\', 'n']
  else if c = '\r' then ['\\', 'r']
  else if 0x20 ≤ b && b < 0x7F then [c]
  else '\\' :: 'x' :: Text.hexCode 2 b.toNat

/-- Bytes in quotes. -/
def quotedBytes (bs : List UInt8) : String :=
  let quote := Text.quoteFor (bs.map fun b => Char.ofNat b.toNat)
  String.ofList ('b' :: quote :: bs.flatMap (escapeByte quote) ++ [quote])

mutual

/-- A detail with all its texts in quotes. -/
def quoted : Detail → String
  | .null => "None"
  | .bool true => "True"
  | .bool false => "False"
  | .int n => Decimal.decimal n
  | .float x => Json.numberLayout.text x
  | .str s => Text.quoted s
  | .bytes bs => quotedBytes bs
  | .list xs => "[" ++ quotedItems xs ++ "]"
  | .tuple [x] => "(" ++ quoted x ++ ",)"
  | .tuple xs => "(" ++ quotedItems xs ++ ")"
  | .set [] => "set()"
  | .set xs => "\x7b" ++ quotedItems xs ++ "\x7d"
  | .map es => "\x7b" ++ quotedEntries es ++ "\x7d"
  | .fault kind xs => faultKind kind xs ++ "(" ++ quotedItems xs ++ ")"
termination_by structural d => d

/-- Details between commas. -/
def quotedItems : List Detail → String
  | [] => ""
  | [x] => quoted x
  | x :: y :: rest => quoted x ++ ", " ++ quotedItems (y :: rest)
termination_by structural ds => ds

/-- Entries between commas. -/
def quotedEntries : List (Detail × Detail) → String
  | [] => ""
  | [(k, v)] => quoted k ++ ": " ++ quoted v
  | (k, v) :: e :: rest => quoted k ++ ": " ++ quoted v ++ ", " ++ quotedEntries (e :: rest)
termination_by structural es => es

end

/-- A detail as an argument of an error says it. -/
def plain : Detail → String
  | .str s => s
  | d => quoted d

/-- What an error says: the one thing that it was raised with, or all of them; a missing key is
quoted, and an error of the system starts with its number. -/
def faultText (kind : String) (arguments : List Detail) : String :=
  match arguments with
  | [] => ""
  | [x] => if kind = "KeyError" then quoted x else plain x
  | [number, reason] =>
      if isSystemKind kind then "[Errno " ++ plain number ++ "] " ++ plain reason
      else quoted (.tuple arguments)
  | number :: reason :: file :: _ =>
      if isSystemKind kind then
        "[Errno " ++ plain number ++ "] " ++ plain reason ++ ": " ++ quoted file
      else quoted (.tuple arguments)

/-- A detail as it stands in running text. -/
def shown : Detail → String
  | .str s => s
  | .fault kind xs => faultText kind xs
  | d => quoted d

/-- An error on a line: its kind, and what it says if it says anything. -/
def faultLine (kind : String) (arguments : List Detail) : String :=
  let text := faultText kind arguments
  let name := faultKind kind arguments
  if text.isEmpty then name else name ++ ": " ++ text

/-! ## §5. The nearest JSON value. -/

mutual

/-- The nearest JSON value. -/
def toJson : Detail → Json
  | .null => .null
  | .bool b => .bool b
  | .int n => .int n
  | .float x => .float x
  | .str s => .str s
  | .bytes bs => .str (quotedBytes bs)
  | .list xs => .arr (toItems xs)
  | .tuple xs => .arr (toItems xs)
  | .set xs => .arr (toItems xs)
  | .map es => .obj (Json.mergeMembers (toMembers es))
  | .fault kind xs => .str (faultLine kind xs)
termination_by structural d => d

/-- The nearest JSON values. -/
def toItems : List Detail → List Json
  | [] => []
  | x :: rest => toJson x :: toItems rest
termination_by structural ds => ds

/-- Entries with their keys in running text. -/
def toMembers : List (Detail × Detail) → List (String × Json)
  | [] => []
  | (k, v) :: rest => (shown k, toJson v) :: toMembers rest
termination_by structural es => es

end

end Detail

end Syllabus.Service
