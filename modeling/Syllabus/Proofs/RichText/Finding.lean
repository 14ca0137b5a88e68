/-
  Syllabus.Proofs.RichText.Finding
  ────────────────────────────────
  **EACH MARK FINDS ITS OWN PIECES AND NOTHING ELSE.**

  A text that is put together from pieces is written with the marks of those
  that are marked.  Each mark is sought in it on its own, so there are three
  things to see: a mark is found at the head of a piece of its own, with the
  label and the URL of that piece; plain text is passed over; and so is a
  piece of another mark, whose characters cannot open this one.  The last is
  only delicate for bold and italic, which share their character: there the
  neighbours of each star decide.

      findAt?_written     a mark finds the piece that is written with it
      findsFrom_other     and passes over a piece of another mark
      findsFrom_written   so in a whole text it finds its own pieces

  No two marked pieces may stand next to each other, and no two plain ones:
  `**a***b*` and `ab` can be cut up in more than one way.
-/
import Syllabus.RichText.Markup

namespace Syllabus.Markup

/-! ## §1. Pieces as they are written. -/

/-- The characters that marks are made of. -/
def markers : List Char := ['*', backQuote, '~', '[', ']']

/-- A text in which no mark can start or end. -/
structure IsUnmarked (cs : List Char) : Prop where
  /-- It is not empty. -/
  nonempty : cs ≠ []
  /-- It has none of the characters of marks. -/
  free : ∀ c ∈ cs, c ∉ markers

/-- A character of a URL that no mark is made of. -/
def IsTargetChar (c : Char) : Prop := isUrlChar c = true ∧ c ∉ markers

/-- A URL with parentheses in pairs that are not nested. -/
inductive IsTarget : List Char → Prop where
  /-- Its end. -/
  | nil : IsTarget []
  /-- A character. -/
  | char {c : Char} {url : List Char} (hc : IsTargetChar c) (h : IsTarget url) : IsTarget (c :: url)
  /-- A pair of parentheses with characters between them. -/
  | group {inside url : List Char} (hinside : ∀ c ∈ inside, IsTargetChar c) (h : IsTarget url) :
      IsTarget ('(' :: inside ++ ')' :: url)

/-- A URL with such parentheses, whatever else it is made of. -/
inductive IsAddress : List Char → Prop where
  /-- Its end. -/
  | nil : IsAddress []
  /-- A character. -/
  | char {c : Char} {url : List Char} (hc : isUrlChar c = true) (h : IsAddress url) :
      IsAddress (c :: url)
  /-- A pair of parentheses with characters between them. -/
  | group {inside url : List Char} (hinside : ∀ c ∈ inside, isUrlChar c = true) (h : IsAddress url) :
      IsAddress ('(' :: inside ++ ')' :: url)

theorem IsTarget.isAddress {url : List Char} (h : IsTarget url) : IsAddress url := by
  induction h with
  | nil => exact .nil
  | char hc _ ih => exact .char hc.1 ih
  | group hinside _ ih => exact .group (fun c hc => (hinside c hc).1) ih

/-- What opens a label. -/
def Mark.opening : Mark → List Char
  | .bold => ['*', '*']
  | .italic => ['*']
  | .code => [backQuote]
  | .strikethrough => ['~', '~']
  | .link => ['[']

/-- What closes a label, with the URL if there is one. -/
def Mark.closing (url : Option (List Char)) : Mark → List Char
  | .link => ']' :: '(' :: url.getD [] ++ [')']
  | mark => mark.opening

/-- A piece as it is written. -/
def Piece.written : Piece → List Char
  | .plain text => text
  | .marked mark label url => mark.opening ++ (label ++ mark.closing url)

/-- Pieces as they are written, one after the other. -/
def written (ps : List Piece) : List Char := ps.flatMap Piece.written

/-- Whether a piece has no mark. -/
def Piece.isPlain : Piece → Bool
  | .plain _ => true
  | .marked .. => false

/-- The URL that goes with a mark: a link has one, a style has none. -/
inductive Mark.Takes : Mark → Option (List Char) → Prop where
  /-- A style. -/
  | style {mark : Mark} (h : mark ≠ .link) : Takes mark none
  /-- A link. -/
  | link {url : List Char} (hne : url ≠ []) (h : IsTarget url) : Takes .link (some url)

/-- The URL that goes with a mark in any text. -/
inductive Mark.Links : Mark → Option (List Char) → Prop where
  /-- A style. -/
  | style {mark : Mark} (h : mark ≠ .link) : Links mark none
  /-- A link. -/
  | link {url : List Char} (hne : url ≠ []) (h : IsAddress url) : Links .link (some url)

theorem Mark.Takes.links {mark : Mark} {url : Option (List Char)} (h : mark.Takes url) :
    mark.Links url := by
  cases h with
  | style h => exact .style h
  | link hne h => exact .link hne h.isAddress

/-- A piece that can be told apart from what is around it. -/
inductive Piece.Fits : Piece → Prop where
  /-- Plain text. -/
  | plain {text : List Char} (h : IsUnmarked text) : Fits (.plain text)
  /-- A label on one line, and the web address that it links to if it is a link. -/
  | marked {mark : Mark} {label : List Char} {url : Option (List Char)} (h : IsUnmarked label)
      (hline : '\n' ∉ label) (hurl : mark.Takes url)
      (hweb : ∀ u, url = some u → Url.isWeb (String.ofList u) = true) : Fits (.marked mark label url)

/-- Pieces that fit, plain and marked ones by turns. -/
inductive Fitting : List Piece → Prop where
  /-- No piece. -/
  | nil : Fitting []
  /-- One more piece, of the other kind than the next. -/
  | cons {p : Piece} {ps : List Piece} (hp : p.Fits) (hnext : ∀ q, ps.head? = some q →
      q.isPlain ≠ p.isPlain) (h : Fitting ps) : Fitting (p :: ps)

/-! ## §2. URLs. -/

theorem urlFrom_inside {inside : List Char} (h : ∀ c ∈ inside, isUrlChar c = true) (rest : List Char) :
    ∀ read : List Char, urlFrom (some read) (inside ++ ')' :: rest)
      = '(' :: read.reverse ++ inside ++ ')' :: urlFrom none rest := by
  -- `read` is what came after the open parenthesis, the last character first.
  induction inside with
  | nil =>
      intro read
      rw [List.append_nil]
      rfl
  | cons c inside ih =>
      intro read
      have hc := h c List.mem_cons_self
      have hclose : c ≠ ')' := by
        intro heq
        rw [heq] at hc
        exact absurd hc (by decide)
      rw [List.cons_append, urlFrom, if_neg hclose, if_pos hc,
        ih (fun d hd => h d (List.mem_cons_of_mem c hd)) (c :: read)]
      simp only [List.reverse_cons, List.append_assoc, List.cons_append, List.nil_append]

/-- The URL in front of the parenthesis that closes it. -/
theorem urlFrom_address {url : List Char} (h : IsAddress url) (rest : List Char) :
    urlFrom none (url ++ ')' :: rest) = url := by
  induction h with
  | nil => rfl
  | @char c url hc _ ih =>
      have hopen : c ≠ '(' := by
        intro heq
        rw [heq] at hc
        exact absurd hc (by decide)
      rw [List.cons_append, urlFrom, if_neg hopen, if_pos hc, ih]
  | @group inside url hinside _ ih =>
      rw [List.cons_append, List.cons_append, List.append_assoc, List.cons_append, urlFrom, if_pos rfl,
        urlFrom_inside hinside, ih]
      rfl

theorem target?_written {url : List Char} (hne : url ≠ []) (h : IsAddress url) (rest : List Char) :
    target? (']' :: '(' :: url ++ ')' :: rest) = some (url, url.length + 3) := by
  have hnonempty : ¬ url.isEmpty = true := by simpa using hne
  simp only [target?, List.cons_append, urlFrom_address h, List.drop_left, if_neg hnonempty]

theorem free_of_target {url : List Char} (h : IsTarget url) : ∀ c ∈ url, c ∉ markers := by
  induction h with
  | nil => intro c hc; exact absurd hc List.not_mem_nil
  | char hc _ ih =>
      intro d hd
      rcases List.mem_cons.mp hd with hfirst | hrest
      · rw [hfirst]; exact hc.2
      · exact ih d hrest
  | group hinside _ ih =>
      intro d hd
      rw [List.cons_append, List.mem_cons, List.mem_append, List.mem_cons] at hd
      rcases hd with hopen | hin | hclose | hrest
      · rw [hopen]; decide
      · exact (hinside d hin).2
      · rw [hclose]; decide
      · exact ih d hrest

/-! ## §3. Labels. -/

/-- The text does not start with a star. -/
def NoStar (cs : List Char) : Prop := cs.head? ≠ some '*'

theorem noStar_of_free {c : Char} {cs : List Char} (h : c ∉ markers) : NoStar (c :: cs) := by
  intro hstar
  rw [List.head?_cons, Option.some.injEq] at hstar
  rw [hstar] at h
  exact absurd h (by decide)

theorem ne_of_free {c d : Char} (h : c ∉ markers) (hd : d ∈ markers) : c ≠ d := by
  intro heq
  rw [heq] at h
  exact h hd

/-- No label is closed in front of a character that no mark is made of. -/
theorem closing?_free (mark : Mark) (last : Char) {c : Char} {cs : List Char} (h : c ∉ markers) :
    closing? mark last (c :: cs) = none := by
  have hstar := ne_of_free h (show '*' ∈ markers by decide)
  have hquote := ne_of_free h (show backQuote ∈ markers by decide)
  have htilde := ne_of_free h (show '~' ∈ markers by decide)
  have hbracket := ne_of_free h (show ']' ∈ markers by decide)
  cases mark with
  | bold => simp [closing?, hstar]
  | italic => simp [closing?, hstar]
  | code => exact if_neg hquote
  | strikethrough => simp [closing?, htilde]
  | link => simp [closing?, target?, hbracket]

theorem closing?_written {mark : Mark} {url : Option (List Char)} (hurl : mark.Links url) {last : Char}
    {tail : List Char} (hlone : mark = .italic → last ≠ '*' ∧ NoStar tail) :
    closing? mark last (mark.closing url ++ tail) = some (url, (mark.closing url).length) := by
  cases hurl with
  | style hmark =>
      cases mark with
      | bold => rfl
      | italic =>
          -- A star closes an italic label if there is no star on either side of it.
          show (if last = '*' || tail.head? = some '*' then none else some (none, 1)) = _
          rw [if_neg]
          · rfl
          · rw [Bool.or_eq_true, decide_eq_true_eq, decide_eq_true_eq, not_or]
            exact hlone rfl
      | code => rfl
      | strikethrough => rfl
      | link => exact absurd rfl hmark
  | @link url hne h =>
      have hsplit : Mark.link.closing (some url) ++ tail = ']' :: '(' :: url ++ ')' :: tail := by
        show (']' :: '(' :: url ++ [')']) ++ tail = _
        rw [List.append_assoc]
        rfl
      show (target? (Mark.link.closing (some url) ++ tail)).map _ = _
      rw [hsplit, target?_written hne h]
      show some (some url, url.length + 3) = some (some url, (']' :: '(' :: url ++ [')']).length)
      rw [List.cons_append, List.cons_append, List.length_cons, List.length_cons, List.length_append]
      rfl

/-- A label is read up to what closes it. -/
theorem label?_written {mark : Mark} {url : Option (List Char)} (hurl : mark.Takes url)
    {tail : List Char} (htail : NoStar tail) {label : List Char} (hfree : ∀ c ∈ label, c ∉ markers)
    (hline : '\n' ∉ label) (hne : label ≠ []) :
    label? mark (label ++ (mark.closing url ++ tail))
      = some (label, url, (mark.closing url).length) := by
  induction label with
  | nil => exact absurd rfl hne
  | cons c label ih =>
      rw [List.mem_cons, not_or] at hline
      have hc := hfree c List.mem_cons_self
      rw [List.cons_append, label?, if_neg (Ne.symm hline.1)]
      -- Only behind the last character something follows that closes the label.
      cases label with
      | nil =>
          have hlone : mark = .italic → c ≠ '*' ∧ NoStar tail :=
            fun _ => ⟨ne_of_free hc (by decide), htail⟩
          rw [List.nil_append, closing?_written hurl.links hlone]
      | cons d label =>
          have hd := hfree d (List.mem_cons_of_mem c List.mem_cons_self)
          have hrest := ih (fun e he => hfree e (List.mem_cons_of_mem c he)) hline.2
            (List.cons_ne_nil d label)
          rw [List.cons_append] at hrest ⊢
          rw [closing?_free mark c hd, hrest]
          rfl

/-! ## §4. A mark finds its own piece. -/

theorem opening?_written {mark : Mark} {before : Option Char} {cs : List Char}
    (hlone : mark = .italic → before ≠ some '*' ∧ NoStar cs) :
    opening? mark before (mark.opening ++ cs) = some (cs, mark.opening.length) := by
  cases mark with
  | italic =>
      show (if before = some '*' || cs.head? = some '*' then none else some (cs, 1)) = _
      rw [if_neg]
      · rfl
      · rw [Bool.or_eq_true, decide_eq_true_eq, decide_eq_true_eq, not_or]
        exact hlone rfl
  | bold => rfl
  | code => rfl
  | strikethrough => rfl
  | link => rfl

section Own

variable {mark : Mark} {label tail : List Char} {url : Option (List Char)} {before : Option Char}

theorem written_append (mark : Mark) (label : List Char) (url : Option (List Char))
    (tail : List Char) : (Piece.marked mark label url).written ++ tail
      = mark.opening ++ (label ++ (mark.closing url ++ tail)) := by
  simp only [Piece.written, List.append_assoc]

/-- The find of a piece that starts at an offset. -/
def findOf (start : Nat) (mark : Mark) (label : List Char) (url : Option (List Char)) : Find :=
  ⟨mark, start, (Piece.marked mark label url).written.length, label, url⟩

/-- A mark that opens in front of a label that is closed is found. -/
theorem findAt?_of_label? {start : Nat} {cs inner : List Char}
    (hopening : opening? mark before cs = some (inner, mark.opening.length))
    (hlabel : label? mark inner = some (label, url, (mark.closing url).length)) :
    findAt? mark start before cs = some (findOf start mark label url) := by
  unfold findAt?
  rw [hopening]
  show ((label? mark inner).bind fun found => some (⟨mark, start, mark.opening.length
    + found.1.length + found.2.2, found.1, found.2.1⟩ : Find)) = _
  rw [hlabel]
  show some (⟨mark, start, mark.opening.length + label.length + (mark.closing url).length, label,
    url⟩ : Find) = _
  unfold findOf Piece.written
  rw [List.length_append, List.length_append, Nat.add_assoc]

theorem findAt?_written (hlabel : IsUnmarked label) (hline : '\n' ∉ label) (hurl : mark.Takes url)
    (hbefore : before ≠ some '*') (htail : NoStar tail) (start : Nat) :
    findAt? mark start before ((Piece.marked mark label url).written ++ tail)
      = some (findOf start mark label url) := by
  have hstart : NoStar (label ++ (mark.closing url ++ tail)) := by
    cases label with
    | nil => exact absurd rfl hlabel.nonempty
    | cons c label => exact noStar_of_free (hlabel.free c List.mem_cons_self)
  rw [written_append]
  exact findAt?_of_label? (opening?_written fun _ => ⟨hbefore, hstart⟩)
    (label?_written hurl htail hlabel.free hline hlabel.nonempty)

/-- Characters that belong to a find are passed over. -/
theorem findsFrom_skip (mark : Mark) (rest w : List Char) :
    ∀ (start : Nat) (before : Option Char), ∃ after,
      findsFrom mark start w.length before (w ++ rest)
        = findsFrom mark (start + w.length) 0 after rest := by
  induction w with
  | nil => intro start before; exact ⟨before, rfl⟩
  | cons c w ih =>
      intro start before
      obtain ⟨after, hafter⟩ := ih (start + 1) (some c)
      refine ⟨after, ?_⟩
      rw [List.length_cons, List.cons_append, findsFrom, hafter, Nat.add_right_comm]
      rfl

/-- A mark finds the piece at the head of a text, and goes on behind it. -/
theorem findsFrom_own (hlabel : IsUnmarked label) (hline : '\n' ∉ label) (hurl : mark.Takes url)
    (hbefore : before ≠ some '*') (htail : NoStar tail) (start : Nat) :
    ∃ after, findsFrom mark start 0 before ((Piece.marked mark label url).written ++ tail)
      = findOf start mark label url
        :: findsFrom mark (start + (Piece.marked mark label url).written.length) 0 after tail := by
  have hfind := findAt?_written hlabel hline hurl hbefore htail start
  cases hw : (Piece.marked mark label url).written with
  | nil =>
      -- A piece is written with its opening at least.
      refine absurd hw ?_
      unfold Piece.written
      cases mark <;> simp [Mark.opening]
  | cons c w =>
      have hlength : (findOf start mark label url).length - 1 = w.length := by
        show (Piece.marked mark label url).written.length - 1 = w.length
        rw [hw, List.length_cons, Nat.add_sub_cancel]
      rw [hw, List.cons_append] at hfind
      obtain ⟨after, hafter⟩ := findsFrom_skip mark tail w (start + 1) (some c)
      refine ⟨after, ?_⟩
      rw [List.cons_append, findsFrom, hfind]
      show _ :: findsFrom mark (start + 1) ((findOf start mark label url).length - 1) (some c)
        (w ++ tail) = _
      rw [hlength, hafter, List.length_cons, Nat.add_assoc, Nat.add_comm 1]

end Own

/-! ## §5. A mark passes over everything else. -/

/-- A character that cannot open a mark is passed over. -/
theorem findsFrom_pass {mark : Mark} {start : Nat} {before : Option Char} {c : Char} {cs : List Char}
    (h : opening? mark before (c :: cs) = none) :
    findsFrom mark start 0 before (c :: cs) = findsFrom mark (start + 1) 0 (some c) cs := by
  have hnone : findAt? mark start before (c :: cs) = none := by
    unfold findAt?
    rw [h]
    rfl
  rw [findsFrom, hnone]

theorem opening?_other {mark : Mark} {before : Option Char} {c : Char} {cs : List Char}
    (h : c ∉ mark.opening) : opening? mark before (c :: cs) = none := by
  cases mark with
  | bold =>
      have hstar : c ≠ '*' := fun heq => h (by rw [heq]; decide)
      simp [opening?, hstar]
  | italic =>
      have hstar : c ≠ '*' := fun heq => h (by rw [heq]; decide)
      simp [opening?, hstar]
  | code => exact if_neg fun heq => h (by rw [heq]; decide)
  | strikethrough =>
      have htilde : c ≠ '~' := fun heq => h (by rw [heq]; decide)
      simp [opening?, htilde]
  | link =>
      have hbracket : c ≠ '[' := fun heq => h (by rw [heq]; decide)
      simp [opening?, hbracket]

/-- Characters that cannot open a mark are passed over; the last of them stands before what is
next. -/
theorem findsFrom_others (mark : Mark) (rest : List Char) {w : List Char}
    (h : ∀ c ∈ w, c ∉ mark.opening) : ∀ (start : Nat) (before : Option Char), ∃ after,
      findsFrom mark start 0 before (w ++ rest) = findsFrom mark (start + w.length) 0 after rest
        ∧ (w = [] ∧ after = before ∨ ∃ c ∈ w, after = some c) := by
  induction w with
  | nil => intro start before; exact ⟨before, rfl, Or.inl ⟨rfl, rfl⟩⟩
  | cons c w ih =>
      intro start before
      obtain ⟨after, hafter, hlast⟩ := ih (fun d hd => h d (List.mem_cons_of_mem c hd)) (start + 1)
        (some c)
      refine ⟨after, ?_, Or.inr ?_⟩
      · rw [List.cons_append, findsFrom_pass (opening?_other (h c List.mem_cons_self)), hafter,
          List.length_cons, Nat.add_assoc, Nat.add_comm 1]
      · rcases hlast with ⟨-, hfirst⟩ | ⟨d, hd, heq⟩
        · exact ⟨c, List.mem_cons_self, hfirst⟩
        · exact ⟨d, List.mem_cons_of_mem c hd, heq⟩

theorem opening_markers (mark : Mark) : ∀ c ∈ mark.opening, c ∈ markers := by
  intro c hc
  cases mark <;> simp_all [Mark.opening, markers]

theorem others_of_free {cs : List Char} (h : ∀ c ∈ cs, c ∉ markers) (mark : Mark) :
    ∀ c ∈ cs, c ∉ mark.opening :=
  fun c hc hopen => h c hc (opening_markers mark c hopen)

/-- Text without the characters of marks is passed over. -/
theorem findsFrom_plain (mark : Mark) (rest : List Char) {text : List Char} (h : IsUnmarked text)
    (start : Nat) (before : Option Char) : ∃ after,
      findsFrom mark start 0 before (text ++ rest) = findsFrom mark (start + text.length) 0 after rest
        ∧ after ≠ some '*' := by
  obtain ⟨after, hafter, hlast⟩ := findsFrom_others mark rest (others_of_free h.free mark) start
    before
  refine ⟨after, hafter, ?_⟩
  rcases hlast with ⟨hnil, -⟩ | ⟨c, hc, hsome⟩
  · exact absurd hnil h.nonempty
  · intro hstar
    rw [hsome, Option.some.injEq] at hstar
    exact ne_of_free (h.free c hc) (show '*' ∈ markers by decide) hstar

section Other

variable {mark m : Mark} {label tail : List Char} {url : Option (List Char)} {before : Option Char}

/-- Nothing in a piece opens a mark that does not share its character. -/
theorem others_of_written (hm : ∀ c ∈ m.opening, c ∉ mark.opening) (hlabel : IsUnmarked label)
    (hurl : m.Takes url) : ∀ c ∈ (Piece.marked m label url).written, c ∉ mark.opening := by
  have hclosing : ∀ c ∈ m.closing url, c ∉ mark.opening := by
    cases hurl with
    | style hstyle =>
        have hsame : m.closing none = m.opening := by
          cases m with
          | link => exact absurd rfl hstyle
          | bold => rfl
          | italic => rfl
          | code => rfl
          | strikethrough => rfl
        rw [hsame]
        exact hm
    | @link url hne h =>
        intro c hc
        change c ∈ ']' :: '(' :: url ++ [')'] at hc
        rw [List.cons_append, List.cons_append, List.mem_cons, List.mem_cons, List.mem_append,
          List.mem_singleton] at hc
        rcases hc with rfl | rfl | hin | rfl
        · cases mark <;> decide
        · cases mark <;> decide
        · exact others_of_free (free_of_target h) mark c hin
        · cases mark <;> decide
  intro c hc
  change c ∈ m.opening ++ (label ++ m.closing url) at hc
  rw [List.mem_append, List.mem_append] at hc
  rcases hc with hopen | hlabelled | hclosed
  · exact hm c hopen
  · exact others_of_free hlabel.free mark c hlabelled
  · exact hclosing c hclosed

/-- The only marks that share their character. -/
theorem share_star (hne : mark ≠ m) (hshare : ¬ ∀ c ∈ m.opening, c ∉ mark.opening) :
    mark = .bold ∧ m = .italic ∨ mark = .italic ∧ m = .bold := by
  cases mark <;> cases m <;> simp_all [Mark.opening, backQuote]

/-- A star alone opens no bold label. -/
theorem opening?_bold_star {cs : List Char} (h : NoStar cs) :
    opening? .bold before ('*' :: cs) = none := by
  cases cs with
  | nil => rfl
  | cons c cs =>
      have hstar : c ≠ '*' := fun heq => h (by rw [heq]; rfl)
      simp [opening?, hstar]

/-- A star next to a star opens no italic label. -/
theorem opening?_italic_stars {cs : List Char} (h : before = some '*' ∨ cs.head? = some '*') :
    opening? .italic before ('*' :: cs) = none := by
  refine if_pos ?_
  rw [Bool.or_eq_true, decide_eq_true_eq, decide_eq_true_eq]
  exact h

theorem findsFrom_bold_italic (hlabel : IsUnmarked label) (htail : NoStar tail) (start : Nat) :
    ∃ after,
      findsFrom .bold start 0 before ((Piece.marked .italic label none).written ++ tail)
        = findsFrom .bold (start + (Piece.marked .italic label none).written.length) 0 after tail := by
  have hstart : NoStar (label ++ '*' :: tail) := by
    cases label with
    | nil => exact absurd rfl hlabel.nonempty
    | cons c label => exact noStar_of_free (hlabel.free c List.mem_cons_self)
  have hsplit : (Piece.marked .italic label none).written ++ tail
      = '*' :: (label ++ '*' :: tail) := by
    show '*' :: (label ++ ['*']) ++ tail = _
    rw [List.cons_append, List.append_assoc]
    rfl
  have hlength : (Piece.marked .italic label none).written.length = label.length + 2 := by
    show ('*' :: (label ++ ['*'])).length = _
    rw [List.length_cons, List.length_append]
    rfl
  obtain ⟨after, hafter, -⟩ := findsFrom_plain .bold ('*' :: tail) hlabel (start + 1) (some '*')
  refine ⟨some '*', ?_⟩
  -- Behind each of the two stars there is something else than a star.
  rw [hsplit, findsFrom_pass (opening?_bold_star hstart), hafter,
    findsFrom_pass (opening?_bold_star htail), hlength]
  congr 1
  omega

theorem findsFrom_italic_bold (hlabel : IsUnmarked label) (start : Nat) : ∃ after,
    findsFrom .italic start 0 before ((Piece.marked .bold label none).written ++ tail)
      = findsFrom .italic (start + (Piece.marked .bold label none).written.length) 0 after tail := by
  have hsplit : (Piece.marked .bold label none).written ++ tail
      = '*' :: '*' :: (label ++ '*' :: '*' :: tail) := by
    show '*' :: '*' :: (label ++ ['*', '*']) ++ tail = _
    rw [List.cons_append, List.cons_append, List.append_assoc]
    rfl
  have hlength : (Piece.marked .bold label none).written.length = label.length + 4 := by
    show ('*' :: '*' :: (label ++ ['*', '*'])).length = _
    rw [List.length_cons, List.length_cons, List.length_append]
    rfl
  obtain ⟨after, hafter, -⟩ := findsFrom_plain .italic ('*' :: '*' :: tail) hlabel
    (start + 1 + 1) (some '*')
  refine ⟨some '*', ?_⟩
  -- Of the two stars the first is followed by one, and the second has one before it.
  rw [hsplit, findsFrom_pass (opening?_italic_stars (Or.inr rfl)),
    findsFrom_pass (opening?_italic_stars (Or.inl rfl)), hafter,
    findsFrom_pass (opening?_italic_stars (Or.inr rfl)),
    findsFrom_pass (opening?_italic_stars (Or.inl rfl)), hlength]
  congr 1
  omega

/-- A mark passes over a piece of another mark. -/
theorem findsFrom_other (hne : mark ≠ m) (hlabel : IsUnmarked label) (hurl : m.Takes url)
    (htail : NoStar tail) (start : Nat) (before : Option Char) : ∃ after,
      findsFrom mark start 0 before ((Piece.marked m label url).written ++ tail)
        = findsFrom mark (start + (Piece.marked m label url).written.length) 0 after tail := by
  -- Either no character of the piece opens the mark, or these are bold and italic.
  by_cases hshare : ∀ c ∈ m.opening, c ∉ mark.opening
  · obtain ⟨after, hafter, -⟩ := findsFrom_others mark tail
      (others_of_written hshare hlabel hurl) start before
    exact ⟨after, hafter⟩
  · rcases share_star hne hshare with ⟨rfl, rfl⟩ | ⟨rfl, rfl⟩
    · cases hurl
      exact findsFrom_bold_italic hlabel htail start
    · cases hurl
      exact findsFrom_italic_bold hlabel start

end Other

/-! ## §6. A whole text. -/

/-- The finds of pieces that are written from an offset on. -/
def markedFrom : (start : Nat) → List Piece → List Find
  | _, [] => []
  | start, .plain text :: ps => markedFrom (start + text.length) ps
  | start, .marked mark label url :: ps =>
      findOf start mark label url
        :: markedFrom (start + (Piece.marked mark label url).written.length) ps

theorem noStar_written {ps : List Piece} (h : Fitting ps)
    (hplain : ∀ q, ps.head? = some q → q.isPlain = true) : NoStar (written ps) := by
  cases h with
  | nil => exact fun hstar => nomatch hstar
  | @cons p ps hp hnext h =>
      cases hp with
      | marked => exact absurd (hplain _ rfl) Bool.false_ne_true
      | @plain text hfree =>
          cases text with
          | nil => exact absurd rfl hfree.nonempty
          | cons c text => exact noStar_of_free (hfree.free c List.mem_cons_self)

/-- In a text that is put together from pieces, a mark finds its own pieces. -/
theorem findsFrom_written (mark : Mark) {ps : List Piece} (h : Fitting ps) :
    ∀ {start : Nat} {before : Option Char},
      (∀ q, ps.head? = some q → q.isPlain = false → before ≠ some '*') →
        findsFrom mark start 0 before (written ps)
          = (markedFrom start ps).filter fun f => f.mark = mark := by
  induction h with
  | nil => intro start before _; rfl
  | @cons p ps hp hnext h ih =>
      intro start before hbefore
      show findsFrom mark start 0 before (p.written ++ written ps) = _
      cases hp with
      | @plain text hfree =>
          -- Plain text does not end in a star, so whatever is next can be opened.
          obtain ⟨after, hafter, hstar⟩ := findsFrom_plain mark (written ps) hfree start before
          show findsFrom mark start 0 before (text ++ written ps) = _
          rw [hafter, ih fun q _ _ => hstar]
          rfl
      | @marked m label url hlabel hline hurl hweb =>
          have hplain : ∀ q, ps.head? = some q → q.isPlain = true := by
            intro q hq
            exact eq_true_of_ne_false (hnext q hq)
          have htail := noStar_written h hplain
          have hrest : ∀ {after : Option Char}, ∀ q, ps.head? = some q → q.isPlain = false →
              after ≠ some '*' := by
            intro after q hq hmarked
            exact absurd hmarked (hnext q hq)
          -- A piece of another mark is not found, but the search goes on behind it all the same.
          by_cases hmark : mark = m
          · subst hmark
            obtain ⟨after, hafter⟩ := findsFrom_own hlabel hline hurl (hbefore _ rfl rfl) htail
              start
            rw [hafter, ih hrest]
            show _ = (findOf start mark label url :: _).filter _
            rw [List.filter_cons_of_pos (by exact decide_eq_true rfl)]
          · obtain ⟨after, hafter⟩ := findsFrom_other hmark hlabel hurl htail start before
            rw [hafter, ih hrest]
            show _ = (findOf start m label url :: _).filter _
            rw [List.filter_cons_of_neg (by
              rw [decide_eq_true_eq]
              exact Ne.symm hmark)]

end Syllabus.Markup
