/-
  Syllabus.RichText.Markup
  ────────────────────────
  **INLINE MARKUP.**

  Five marks are known: `**bold**`, `*italic*`, a code span between back
  quotes, `~~strikethrough~~` and `[label](url)`.  Each is sought on its own
  over the whole text, from left to right, with the shortest label that closes
  it.  All finds are then put in the order of their starts, an earlier mark of
  the list first, and one that starts inside another is dropped.  Nothing
  inside a label is read again.

      finds    the finds of one mark
      pieces   the text cut up by the finds that remain
-/
import Syllabus.RichText.Run

namespace Syllabus.Markup

/-! ## §1. Marks. -/

/-- The kinds of marks, in the order that decides between two that start together. -/
inductive Mark where
  /-- Between double stars. -/
  | bold
  /-- Between single stars. -/
  | italic
  /-- Between back quotes. -/
  | code
  /-- Between double tildes. -/
  | strikethrough
  /-- A label in brackets and a URL in parentheses. -/
  | link
  deriving DecidableEq, Repr

/-- All marks. -/
def Mark.all : List Mark := [.bold, .italic, .code, .strikethrough, .link]

/-- The back quote. -/
def backQuote : Char := '\x60'

/-! ## §2. URLs in parentheses. -/

/-- A character that may stand in a URL outside of parentheses. -/
def isUrlChar (c : Char) : Bool := c != '(' && c != ')' && !Text.isBlankChar c

/-- The longest URL at the head of a text, in which parentheses may come in pairs that are not
nested; `inside` says whether one is open, and holds what has been read since then, in reverse. -/
def urlFrom : (inside : Option (List Char)) → List Char → List Char
  | _, [] => []
  | none, c :: rest =>
      if c = '(' then urlFrom (some []) rest
      else if isUrlChar c then c :: urlFrom none rest
      else []
  | some read, c :: rest =>
      if c = ')' then '(' :: read.reverse ++ ')' :: urlFrom none rest
      else if isUrlChar c then urlFrom (some (c :: read)) rest
      else []

/-- A URL in parentheses after the bracket that closes a label: the URL, and how many characters
the whole takes. -/
def target? : List Char → Option (List Char × Nat)
  | ']' :: '(' :: rest =>
      let url := urlFrom none rest
      if url.isEmpty then none
      else match rest.drop url.length with
        | ')' :: _ => some (url, url.length + 3)
        | _ => none
  | _ => none

/-! ## §3. Labels. -/

/-- What closes a label: the URL if the mark has one, and how many characters it takes. -/
abbrev Closing := Option (List Char) × Nat

/-- What closes a label at the head of a text, given the last character of the label. -/
def closing? (mark : Mark) (last : Char) (cs : List Char) : Option Closing :=
  match mark, cs with
  | .bold, '*' :: '*' :: _ => some (none, 2)
  | .italic, '*' :: rest => if last = '*' || rest.head? = some '*' then none else some (none, 1)
  | .code, c :: _ => if c = backQuote then some (none, 1) else none
  | .strikethrough, '~' :: '~' :: _ => some (none, 2)
  | .link, cs => (target? cs).map fun (url, n) => (some url, n)
  | _, _ => none

/-- The shortest label at the head of a text that is closed: one character or more, none of them a
line end. -/
def label? (mark : Mark) : List Char → Option (List Char × Closing)
  | [] => none
  | c :: rest =>
      if c = '\n' then none
      else match closing? mark c rest with
        | some closing => some ([c], closing)
        | none => (label? mark rest).map fun (label, closing) => (c :: label, closing)

/-- What is left after the opening of a mark, given the character before it, and how many
characters the opening takes. -/
def opening? (mark : Mark) (before : Option Char) (cs : List Char) : Option (List Char × Nat) :=
  match mark, cs with
  | .bold, '*' :: '*' :: rest => some (rest, 2)
  | .italic, '*' :: rest =>
      if before = some '*' || rest.head? = some '*' then none else some (rest, 1)
  | .code, c :: rest => if c = backQuote then some (rest, 1) else none
  | .strikethrough, '~' :: '~' :: rest => some (rest, 2)
  | .link, '[' :: rest => some (rest, 1)
  | _, _ => none

/-! ## §4. Finds. -/

/-- A mark that was found. -/
structure Find where
  /-- Which mark. -/
  mark : Mark
  /-- Where it starts. -/
  start : Nat
  /-- How many characters it takes. -/
  length : Nat
  /-- Its label. -/
  label : List Char
  /-- Its URL, if it has one. -/
  url : Option (List Char)
  deriving DecidableEq, Repr

/-- Where a find ends. -/
def Find.stop (f : Find) : Nat := f.start + f.length

/-- The mark at the head of a text that starts at an offset. -/
def findAt? (mark : Mark) (start : Nat) (before : Option Char) (cs : List Char) : Option Find := do
  let (rest, opened) ← opening? mark before cs
  let (label, url, closed) ← label? mark rest
  pure ⟨mark, start, opened + label.length + closed, label, url⟩

/-- The finds of a mark in a text that starts at an offset; the first `skip` characters belong to
the find before. -/
def findsFrom (mark : Mark) : (start skip : Nat) → (before : Option Char) → List Char → List Find
  | _, _, _, [] => []
  | start, skip + 1, _, c :: rest => findsFrom mark (start + 1) skip (some c) rest
  | start, 0, before, c :: rest =>
      match findAt? mark start before (c :: rest) with
      | some f => f :: findsFrom mark (start + 1) (f.length - 1) (some c) rest
      | none => findsFrom mark (start + 1) 0 (some c) rest

/-- The finds of a mark in a text. -/
def finds (mark : Mark) (cs : List Char) : List Find := findsFrom mark 0 0 none cs

/-- The finds of all marks, in the order of their starts. -/
def allFinds (cs : List Char) : List Find :=
  (Mark.all.flatMap fun mark => finds mark cs).mergeSort fun a b => decide (a.start ≤ b.start)

/-! ## §5. Pieces. -/

/-- A part of a marked text. -/
inductive Piece where
  /-- Text without a mark. -/
  | plain (text : List Char)
  /-- A marked label. -/
  | marked (mark : Mark) (label : List Char) (url : Option (List Char))
  deriving DecidableEq, Repr

/-- The text from an offset on, cut up by finds. -/
def piecesFrom (cs : List Char) : (offset : Nat) → List Find → List Piece
  | offset, [] => if offset < cs.length then [.plain (cs.drop offset)] else []
  | offset, f :: rest =>
      if f.start < offset then piecesFrom cs offset rest
      else
        (if offset < f.start then [.plain ((cs.drop offset).take (f.start - offset))] else [])
          ++ .marked f.mark f.label f.url :: piecesFrom cs f.stop rest

/-- The pieces of a text; a text without marks is one piece, even if it is empty. -/
def pieces (cs : List Char) : List Piece :=
  match allFinds cs with
  | [] => [.plain cs]
  | fs => piecesFrom cs 0 fs

/-! ## §6. Runs. -/

/-- The style that a mark stands for. -/
def Mark.style : Mark → Style
  | .bold => { bold := true }
  | .italic => { italic := true }
  | .code => { code := true }
  | .strikethrough => { strikethrough := true }
  | .link => {}

/-- The run of a piece. -/
def Piece.run : Piece → Writing Run
  | .plain text => pure (Run.plain (String.ofList text))
  | .marked mark label url =>
      Run.linked (String.ofList label) mark.style (Json.ofOption (url.map String.ofList))

/-- The runs of a text with markup. -/
def runs (text : String) : Writing (List Run) := (pieces text.toList).mapM Piece.run

end Syllabus.Markup
