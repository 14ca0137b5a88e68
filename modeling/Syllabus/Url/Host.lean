/-
  Syllabus.Url.Host
  ─────────────────
  **ADDRESSES IN BRACKETS.**

  A host in brackets is an address of version 6 or of a version to come.  The
  first has up to eight groups of hexadecimal digits, with one `::` for a run
  of zero groups, an address of version 4 in place of the last two groups, and
  a zone after a percent sign.
-/
import Syllabus.Json.Reader
import Syllabus.Text.Split

namespace Syllabus.Url

/-! ## §1. Version 4. -/

/-- One of the four numbers of an address of version 4: at most three digits, no leading zero, at
most 255. -/
def isOctet (cs : List Char) : Bool :=
  !cs.isEmpty && cs.all Char.isDigit && decide (cs.length ≤ 3)
    && (cs == ['0'] || cs.head? != some '0')
    && decide (Decimal.ofDigits (cs.filterMap Text.plainDigit?) ≤ 255)

/-- Whether a text is an address of version 4. -/
def isIPv4 (cs : List Char) : Bool :=
  let octets := Text.splitOn '.' cs
  octets.length == 4 && octets.all isOctet

/-! ## §2. Version 6. -/

/-- One to four hexadecimal digits. -/
def isGroup (cs : List Char) : Bool :=
  !cs.isEmpty && decide (cs.length ≤ 4) && cs.all fun c => (Json.hexDigit? c).isSome

/-- The groups of an address, with two zero groups for an address of version 4 at the end; none when
that is not one. -/
def groups? (cs : List Char) : Option (List (List Char)) :=
  let parts := Text.splitOn ':' cs
  match parts.getLast? with
  | some tail =>
      if tail.contains '.' then
        if isIPv4 tail then some (parts.dropLast ++ [['0'], ['0']]) else none
      else some parts
  | none => none

/-- The groups between the first and the last. -/
def innerGroups (parts : List (List Char)) : List (List Char) := parts.tail.dropLast

/-- Whether the groups before a gap are in order: none at all is written as an empty first group. -/
def leadingGroups (parts : List (List Char)) : Bool :=
  parts == [[]] || parts.all isGroup

/-- Whether groups make an address of eight, with at most one gap. -/
def areGroups (parts : List (List Char)) : Bool :=
  if decide (parts.length < 3) || decide (9 < parts.length) then false
  else if (innerGroups parts).all (fun g => !g.isEmpty) then
    parts.length == 8 && parts.all isGroup
  else if (innerGroups parts).countP List.isEmpty != 1 then false
  else
    let front := parts.head?.toList ++ parts.tail.takeWhile (fun g => !g.isEmpty)
    let back := (parts.tail.dropWhile fun g => !g.isEmpty).tail
    let written := front.countP (fun g => !g.isEmpty) + back.countP fun g => !g.isEmpty
    leadingGroups front && leadingGroups back && decide (written < 8)

/-- An address without its zone; none when a zone is announced but empty or has a percent sign. -/
def withoutZone? (cs : List Char) : Option (List Char) :=
  match Text.cutAt '%' cs with
  | none => some cs
  | some (address, zone) => if zone.isEmpty || zone.contains '%' then none else some address

/-- Whether a text is an address of version 6. -/
def isIPv6 (cs : List Char) : Bool :=
  !cs.contains '/' && match (withoutZone? cs).bind groups? with
    | some parts => areGroups parts
    | none => false

/-! ## §3. Versions to come. -/

/-- Whether a text is a `v`, a hexadecimal version, a point and something more. -/
def isFuture (cs : List Char) : Bool :=
  match cs with
  | 'v' :: rest =>
      match Text.cutAt '.' rest with
      | some (version, address) =>
          !version.isEmpty && version.all (fun c => (Json.hexDigit? c).isSome) && !address.isEmpty
            && !address.contains '\n'
      | none => false
  | _ => false

end Syllabus.Url
