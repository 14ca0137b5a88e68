/-
  Syllabus.Json.Basic
  ───────────────────
  **JSON VALUES WHOSE MEMBERS HAVE AN ORDER.**

  Authors write courses as JSON, and everything below reads them leniently, so
  this is the one dynamic type of the library.  Whole numbers are exact and
  kept apart from numbers with a fraction or an exponent.  Members of an
  object stand in source order, because the first ill-typed member of an entry
  is the one that is reported; a name occurs once.
-/
import Syllabus.Binary64

namespace Syllabus

/-! ## §1. The type. -/

/-- A JSON value. -/
inductive Json where
  /-- The value `null`. -/
  | null
  /-- A truth value. -/
  | bool (b : Bool)
  /-- A number written without a fraction and without an exponent. -/
  | int (n : Int)
  /-- Any other number. -/
  | float (x : Binary64)
  /-- A string. -/
  | str (s : String)
  /-- An array. -/
  | arr (items : List Json)
  /-- An object. -/
  | obj (members : List (String × Json))
  deriving Repr

namespace Json

/-! ## §2. Equality is decidable. -/

mutual

/-- Decides whether two values are equal. -/
def decEq : (a b : Json) → Decidable (a = b)
  | .null, .null => isTrue rfl
  | .null, .bool _ | .null, .int _ | .null, .float _ | .null, .str _ | .null, .arr _
  | .null, .obj _ => isFalse nofun
  | .bool a, .bool b => if h : a = b then isTrue (h ▸ rfl) else isFalse fun e => h (bool.inj e)
  | .bool _, .null | .bool _, .int _ | .bool _, .float _ | .bool _, .str _ | .bool _, .arr _
  | .bool _, .obj _ => isFalse nofun
  | .int a, .int b => if h : a = b then isTrue (h ▸ rfl) else isFalse fun e => h (int.inj e)
  | .int _, .null | .int _, .bool _ | .int _, .float _ | .int _, .str _ | .int _, .arr _
  | .int _, .obj _ => isFalse nofun
  | .float a, .float b => if h : a = b then isTrue (h ▸ rfl) else isFalse fun e => h (float.inj e)
  | .float _, .null | .float _, .bool _ | .float _, .int _ | .float _, .str _ | .float _, .arr _
  | .float _, .obj _ => isFalse nofun
  | .str a, .str b => if h : a = b then isTrue (h ▸ rfl) else isFalse fun e => h (str.inj e)
  | .str _, .null | .str _, .bool _ | .str _, .int _ | .str _, .float _ | .str _, .arr _
  | .str _, .obj _ => isFalse nofun
  | .arr a, .arr b => match decEqItems a b with
    | isTrue h => isTrue (h ▸ rfl)
    | isFalse h => isFalse fun e => h (arr.inj e)
  | .arr _, .null | .arr _, .bool _ | .arr _, .int _ | .arr _, .float _ | .arr _, .str _
  | .arr _, .obj _ => isFalse nofun
  | .obj a, .obj b => match decEqMembers a b with
    | isTrue h => isTrue (h ▸ rfl)
    | isFalse h => isFalse fun e => h (obj.inj e)
  | .obj _, .null | .obj _, .bool _ | .obj _, .int _ | .obj _, .float _ | .obj _, .str _
  | .obj _, .arr _ => isFalse nofun
termination_by structural a => a

/-- Decides whether two lists of values are equal. -/
def decEqItems : (a b : List Json) → Decidable (a = b)
  | [], [] => isTrue rfl
  | [], _ :: _ | _ :: _, [] => isFalse nofun
  | a :: as, b :: bs => match decEq a b with
    | isFalse h => isFalse fun e => h (List.cons.inj e).1
    | isTrue h => match decEqItems as bs with
      | isTrue hs => isTrue (h ▸ hs ▸ rfl)
      | isFalse hs => isFalse fun e => hs (List.cons.inj e).2
termination_by structural a => a

/-- Decides whether two lists of members are equal. -/
def decEqMembers : (a b : List (String × Json)) → Decidable (a = b)
  | [], [] => isTrue rfl
  | [], _ :: _ | _ :: _, [] => isFalse nofun
  | (k, a) :: as, (l, b) :: bs =>
    if hk : k = l then match decEq a b with
      | isFalse h => isFalse fun e => h (Prod.mk.inj (List.cons.inj e).1).2
      | isTrue h => match decEqMembers as bs with
        | isTrue hs => isTrue (by rw [hk, h, hs])
        | isFalse hs => isFalse fun e => hs (List.cons.inj e).2
    else isFalse fun e => hk (Prod.mk.inj (List.cons.inj e).1).1
termination_by structural a => a

end

instance : DecidableEq Json := decEq

instance : Inhabited Json := ⟨.null⟩

/-! ## §3. Members. -/

/-- The value of a member, if there is one of that name. -/
def lookup (key : String) : List (String × Json) → Option Json
  | [] => none
  | (k, v) :: rest => if k = key then some v else lookup key rest

/-- The value of a member of an object; none for an absent member and for any other value. -/
def member? (key : String) : Json → Option Json
  | .obj ms => lookup key ms
  | _ => none

/-- The value of a member, `null` when it is absent. -/
def member (v : Json) (key : String) : Json := (v.member? key).getD .null

/-- Gives a member a value: in its place if the name is there already, else at the end. -/
def insertMember (key : String) (value : Json) : List (String × Json) → List (String × Json)
  | [] => [(key, value)]
  | (k, v) :: rest =>
      if k = key then (k, value) :: rest else (k, v) :: insertMember key value rest

/-- Members with repeated names merged: the first place and the last value of each count. -/
def mergeMembers (ms : List (String × Json)) : List (String × Json) :=
  ms.foldl (fun acc (k, v) => insertMember k v acc) []

/-- The members that are not `null`. -/
def withoutNulls (ms : List (String × Json)) : List (String × Json) :=
  ms.filter fun (_, v) => v ≠ .null

/-! ## §4. Views. -/

/-- The text of a string. -/
def str? : Json → Option String
  | .str s => some s
  | _ => none

/-- The items of an array. -/
def arr? : Json → Option (List Json)
  | .arr xs => some xs
  | _ => none

/-- The members of an object. -/
def obj? : Json → Option (List (String × Json))
  | .obj ms => some ms
  | _ => none

/-- The items of an array; none for any other value. -/
def items (v : Json) : List Json := v.arr?.getD []

/-- Whether a value is an object. -/
def isObject (v : Json) : Bool := v.obj?.isSome

/-- Whether a value counts as true: it is not `null`, `false`, zero or empty. -/
def isTruthy : Json → Bool
  | .null => false
  | .bool b => b
  | .int n => n != 0
  | .float x => !x.isZero
  | .str s => !s.isEmpty
  | .arr xs => !xs.isEmpty
  | .obj ms => !ms.isEmpty

/-- An optional text as a string or `null`. -/
def ofOption : Option String → Json
  | some s => .str s
  | none => .null

/-- An array of strings. -/
def strings (ss : List String) : Json := .arr (ss.map .str)

/-- A natural number. -/
def nat (n : Nat) : Json := .int n

/-! ## §5. Names of kinds. -/

/-- The kind of a value, as reports of ill-typed fields call it. -/
def kind : Json → String
  | .null => "null"
  | .bool _ => "bool"
  | .int _ => "int"
  | .float _ => "float"
  | .str _ => "str"
  | .arr _ => "array"
  | .obj _ => "object"

/-- The kind of a value that stands where an entry of a course is expected. -/
def entryKind : Json → String
  | .null => "NoneType"
  | .bool _ => "bool"
  | .int _ => "int"
  | .float _ => "float"
  | .str _ => "str"
  | .arr _ => "list"
  | .obj _ => "dict"

end Json

end Syllabus
