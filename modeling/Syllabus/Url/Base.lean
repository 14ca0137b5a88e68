/-
  Syllabus.Url.Base
  ─────────────────
  **AN ADDRESS THAT PATHS ARE APPENDED TO.**

  A base address is written in one normal form: scheme and host in lower case,
  no port that the scheme implies, nothing in the path that it cannot hold,
  and no `.` or `..` segments.  Its path counts as ending in a slash, and a
  path is resolved by appending it without its own leading slashes.

      Base.ofText   reads a base address
      Base.resolve  the path and the query of something under it
-/
import Syllabus.Url.Basic
import Syllabus.Url.Percent

namespace Syllabus.Url

/-! ## §1. Faults. -/

/-- Why an address cannot be used. -/
inductive AddressFault where
  /-- A control character of ASCII stands in it. -/
  | controlCharacter (c : Char) (offset : Nat)
  /-- The port is not a number. -/
  | badPort (port : String)
  deriving DecidableEq, Repr

/-- A fault in words. -/
def AddressFault.message : AddressFault → String
  | .controlCharacter c offset =>
      s!"Invalid non-printable ASCII character in URL, {Text.quoted (String.singleton c)} at position {offset}."
  | .badPort port => "Invalid port: " ++ Text.quoted port

/-- Whether a character is a control character of ASCII. -/
def isControl (c : Char) : Bool := decide (c.toNat < 0x20) || decide (c.toNat = 0x7F)

/-- Refuses a text with a control character. -/
def checkVisible (cs : List Char) : Except AddressFault Unit :=
  match cs.find? isControl with
  | some c => .error (.controlCharacter c (cs.takeWhile fun d => !isControl d).length)
  | none => .ok ()

/-! ## §2. Paths. -/

/-- Without segments that name the present or the enclosing place. -/
def withoutDots (kept : List (List Char)) : List (List Char) → List (List Char)
  | [] => kept
  | segment :: rest =>
      if segment = ['.'] then withoutDots kept rest
      else if segment = ['.', '.'] then
        withoutDots (if kept = [[]] then kept else kept.dropLast) rest
      else withoutDots (kept ++ [segment]) rest

/-- A path with its dot segments resolved. -/
def plainPath (path : List Char) : List Char :=
  ['/'].intercalate (withoutDots [] (Text.splitOn '/' path))

/-- What stands before and after the first `?`. -/
def splitQuery (cs : List Char) : List Char × Option (List Char) :=
  match Text.cutAt '?' cs with
  | some (path, query) => (path, some query)
  | none => (cs, none)

/-- A path and its query as one text. -/
def joinQuery (path : List Char) (query : Option (List Char)) : List Char :=
  match query with
  | some q => path ++ '?' :: q
  | none => path

/-- Without what follows a `#`. -/
def withoutFragment (cs : List Char) : List Char := cs.takeWhile (· != '#')

/-- A path and a query with everything encoded that they cannot hold. -/
def encodedPath (cs : List Char) : List Char :=
  let (path, query) := splitQuery (withoutFragment cs)
  joinQuery (percentEncoded pathKeeps path) (query.map (percentEncoded queryKeeps))

/-! ## §3. Authorities. -/

/-- The port that a scheme implies. -/
def impliedPort (scheme : List Char) : Option Nat :=
  if scheme = ['h', 't', 't', 'p'] then some 80
  else if scheme = ['h', 't', 't', 'p', 's'] then some 443
  else none

/-- The text after the last `@` and what stands before it with it. -/
def splitUser (authority : List Char) : List Char × List Char :=
  let host := (authority.reverse.takeWhile (· != '@')).reverse
  (authority.take (authority.length - host.length), host)

/-- The host and the text of the port. -/
def splitPort (cs : List Char) : List Char × List Char :=
  match cs with
  | '[' :: _ =>
      let after := (cs.reverse.takeWhile (· != ']')).reverse
      (cs.take (cs.length - after.length), after.drop 1)
  | _ => (cs.takeWhile (· != ':'), (cs.dropWhile (· != ':')).drop 1)

/-- A port as it is written after a host of a scheme. -/
def portText (scheme port : List Char) : Except AddressFault (List Char) :=
  if port.isEmpty then .ok []
  else match Text.readInt (String.ofList port) with
    | .error _ => .error (.badPort (String.ofList port))
    | .ok n =>
        if some n = (impliedPort scheme).map Int.ofNat then .ok []
        else .ok (':' :: (Decimal.decimal n).toList)

/-- The normal form of an authority. -/
def plainAuthority (scheme authority : List Char) : Except AddressFault (List Char) := do
  let (user, rest) := splitUser authority
  let (host, port) := splitPort rest
  let port ← portText scheme port
  pure (user ++ host.map Char.toLower ++ port)

/-! ## §4. Base addresses. -/

/-- An address that paths are appended to. -/
structure Base where
  /-- The scheme and the authority, empty for a bare path. -/
  origin : List Char
  /-- The path and the query. -/
  path : List Char
  deriving DecidableEq, Repr

namespace Base

/-- The path, which ends in a slash. -/
def root (b : Base) : List Char :=
  if b.path.getLast? = some '/' then b.path else b.path ++ ['/']

/-- The address in full; a slash is added to a path but not to an origin. -/
def text (b : Base) : String :=
  String.ofList (b.origin ++ if b.path.isEmpty then [] else b.root)

/-- The origin of a scheme and an authority. -/
def originOf (scheme : List Char) (authority : Option (List Char)) :
    Except AddressFault (List Char) := do
  let head := if scheme.isEmpty then [] else scheme ++ [':']
  match authority with
  | some a => do
      let a ← plainAuthority scheme a
      pure (head ++ if a.isEmpty then [] else '/' :: '/' :: a)
  | none => pure head

/-- The authority at the head of a text and what follows it. -/
def cutAuthority (cs : List Char) : Option (List Char) × List Char :=
  match cs with
  | '/' :: '/' :: rest =>
      (some (rest.takeWhile fun c => !endsAuthority c), rest.dropWhile fun c => !endsAuthority c)
  | _ => (none, cs)

/-- A text without the slashes at its end. -/
def withoutSlashes (s : String) : String :=
  String.ofList (s.toList.reverse.dropWhile (· = '/')).reverse

/-- Reads a base address. -/
def ofText (s : String) : Except AddressFault Base := do
  let cs := (withoutSlashes s).toList
  checkVisible cs
  let (scheme, rest) := takeScheme cs
  let (authority, rest) := cutAuthority rest
  let origin ← originOf scheme authority
  let (path, query) := splitQuery (encodedPath rest)
  pure ⟨origin, joinQuery (if origin.isEmpty then path else plainPath path) query⟩

/-- The path and the query of a relative path under a base. -/
def resolve (b : Base) (relative : String) : Except AddressFault (List Char × Option (List Char)) := do
  checkVisible relative.toList
  let joined := b.root ++ (encodedPath relative.toList).dropWhile (· = '/')
  let (path, query) := splitQuery joined
  pure (if b.origin.isEmpty then path else plainPath path, query)

end Base

end Syllabus.Url
