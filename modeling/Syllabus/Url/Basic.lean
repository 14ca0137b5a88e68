/-
  Syllabus.Url.Basic
  ──────────────────
  **ABSOLUTE WEB ADDRESSES.**

  A URL is read far enough to know its scheme and its authority.  Control
  characters and spaces in front are dropped, and so are tabs and line ends
  anywhere; the scheme counts in lower case; the authority runs from `//` to
  the first of `/`, `?` and `#`.  A text is a web address when its scheme is
  `http` or `https` and its authority is not empty.

  Two authorities are refused outright: one with brackets that do not hold an
  address, and one with a character that stands for a delimiter in disguise.
-/
import Syllabus.Url.Host

namespace Syllabus.Url

/-! ## §1. Parts and faults. -/

/-- The parts of a URL that matter here. -/
structure Parts where
  /-- The scheme in lower case, empty if there is none. -/
  scheme : List Char
  /-- The authority, empty if there is none. -/
  authority : List Char
  deriving DecidableEq, Repr

/-- Why an authority is refused. -/
inductive Fault where
  /-- A bracket without its partner. -/
  | unbalancedBrackets
  /-- An address of a version to come that is not spelled like one. -/
  | badFutureAddress
  /-- The brackets hold no address. -/
  | notAnAddress (host : String)
  /-- The brackets hold an address of version 4. -/
  | bracketedIPv4
  /-- A character that stands for a delimiter. -/
  | disguisedDelimiter (authority : String)
  deriving DecidableEq, Repr

/-- A fault in words. -/
def Fault.message : Fault → String
  | .unbalancedBrackets => "Invalid IPv6 URL"
  | .badFutureAddress => "IPvFuture address is invalid"
  | .notAnAddress host => Text.quoted host ++ " does not appear to be an IPv4 or IPv6 address"
  | .bracketedIPv4 => "An IPv4 address cannot be in brackets"
  | .disguisedDelimiter authority =>
      "netloc '" ++ authority ++ "' contains invalid characters under NFKC normalization"

/-! ## §2. Authorities. -/

/-- The ranges of characters whose compatibility form (NFKC, Unicode 14) has one of the delimiters
`/`, `?`, `#`, `@` and `:` in it. -/
def disguiseRanges : List (Nat × Nat) :=
  [(0x2047, 0x2049), (0x2100, 0x2101), (0x2105, 0x2106), (0x2A74, 0x2A74), (0xFE13, 0xFE13),
    (0xFE16, 0xFE16), (0xFE55, 0xFE56), (0xFE5F, 0xFE5F), (0xFE6B, 0xFE6B), (0xFF03, 0xFF03),
    (0xFF0F, 0xFF0F), (0xFF1A, 0xFF1A), (0xFF1F, 0xFF20)]

/-- What stands between the first `[` and the first `]` after it. -/
def bracketed (authority : List Char) : List Char :=
  ((authority.dropWhile (· != '[')).tail).takeWhile (· != ']')

/-- The fault of a host in brackets. -/
def hostFault? (host : List Char) : Option Fault :=
  if host.head? = some 'v' then (if isFuture host then none else some .badFutureAddress)
  else if isIPv4 host then some .bracketedIPv4
  else if isIPv6 host then none
  else some (.notAnAddress (String.ofList host))

/-- The fault of the brackets of an authority. -/
def bracketFault? (authority : List Char) : Option Fault :=
  match authority.contains '[', authority.contains ']' with
  | true, true => hostFault? (bracketed authority)
  | false, false => none
  | _, _ => some .unbalancedBrackets

/-- The fault of an authority. -/
def authorityFault? (authority : List Char) : Option Fault :=
  match bracketFault? authority with
  | some fault => some fault
  | none =>
      if authority.any (Text.inRanges disguiseRanges) then
        some (.disguisedDelimiter (String.ofList authority))
      else none

/-! ## §3. Splitting. -/

/-- A text without what is dropped before a URL is read. -/
def cleaned (cs : List Char) : List Char :=
  (cs.dropWhile fun c => decide (c.toNat ≤ 0x20)).filter fun c => c != '\t' && c != '\n' && c != '\r'

/-- A character of a scheme. -/
def isSchemeChar (c : Char) : Bool := c.isAlphanum || c = '+' || c = '-' || c = '.'

/-- The scheme of a cleaned text, and what follows its colon.  A text in front of the first colon
that is not a scheme stays where it is. -/
def takeScheme (cs : List Char) : List Char × List Char :=
  match Text.cutAt ':' cs with
  | some (c :: scheme, rest) =>
      if c.isAlpha && scheme.all isSchemeChar then ((c :: scheme).map Char.toLower, rest) else ([], cs)
  | _ => ([], cs)

/-- Whether a character ends an authority. -/
def endsAuthority (c : Char) : Bool := c = '/' || c = '?' || c = '#'

/-- The authority at the head of what follows the scheme. -/
def takeAuthority : List Char → List Char
  | '/' :: '/' :: rest => rest.takeWhile fun c => !endsAuthority c
  | _ => []

/-- The parts of a URL. -/
def split (url : String) : Except Fault Parts :=
  let (scheme, rest) := takeScheme (cleaned url.toList)
  let authority := takeAuthority rest
  match authorityFault? authority with
  | some fault => .error fault
  | none => .ok ⟨scheme, authority⟩

/-- The schemes of the web. -/
def webSchemes : List (List Char) := [['h', 't', 't', 'p'], ['h', 't', 't', 'p', 's']]

/-- Whether the parts are those of an absolute web address. -/
def Parts.isWeb (p : Parts) : Bool := webSchemes.contains p.scheme && !p.authority.isEmpty

/-- Whether a text, apart from blanks around it, is an absolute web address. -/
def isWeb (url : String) : Bool :=
  match split (Text.strip url) with
  | .ok parts => parts.isWeb
  | .error _ => false

end Syllabus.Url
