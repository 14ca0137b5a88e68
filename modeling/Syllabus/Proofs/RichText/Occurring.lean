/-
  Syllabus.Proofs.RichText.Occurring
  ──────────────────────────────────
  **WHAT A MARK FINDS IN ANY TEXT.**

  A mark is looked for from left to right, label by label, character by
  character.  What is found can be said without the search: at some place of
  the text stands the opening, a label on one line, and what closes it; no
  shorter label would do there; and the place is not inside a find before it.

      closing?_eq_some_iff   what closes a label
      label?_eq_some_iff     the shortest label that is closed
      findAt?_eq_some_iff    a mark at the head of a text
      mem_finds_iff          the finds in a whole text

  The finds of one mark come in the order of their starts (`finds_increasing`).
-/
import Syllabus.Proofs.RichText.RoundTrip

namespace Syllabus.Markup

/-! ## §1. The URL at the head of a text. -/

/-- The URL that is read is an address that the text starts with, whether or not a parenthesis is
open. -/
theorem urlFrom_address_head (cs : List Char) :
    (IsAddress (urlFrom none cs) ∧ urlFrom none cs <+: cs)
      ∧ ∀ read : List Char, (∀ c ∈ read, isUrlChar c = true) →
          IsAddress (urlFrom (some read) cs)
            ∧ urlFrom (some read) cs <+: '(' :: read.reverse ++ cs := by
  induction cs with
  | nil => exact ⟨⟨.nil, List.nil_prefix⟩, fun read _ => ⟨.nil, List.nil_prefix⟩⟩
  | cons c cs ih =>
      obtain ⟨⟨haddress, hhead⟩, hinside⟩ := ih
      refine ⟨?_, fun read hread => ?_⟩
      · rw [urlFrom]
        by_cases hopen : c = '('
        · rw [if_pos hopen, hopen]
          exact hinside [] fun d hd => absurd hd List.not_mem_nil
        · rw [if_neg hopen]
          split
          · rename_i hc
            exact ⟨.char hc haddress, (List.prefix_cons_inj c).mpr hhead⟩
          · exact ⟨.nil, List.nil_prefix⟩
      · rw [urlFrom]
        by_cases hclose : c = ')'
        · -- The pair is complete: what was read since it was opened is inside it.
          rw [if_pos hclose, hclose]
          refine ⟨.group (fun d hd => hread d (List.mem_reverse.mp hd)) haddress, ?_⟩
          exact (List.prefix_append_right_inj _).mpr ((List.prefix_cons_inj ')').mpr hhead)
        · rw [if_neg hclose]
          split
          · rename_i hc
            have hboth : ∀ d ∈ c :: read, isUrlChar d = true := by
              intro d hd
              rcases List.mem_cons.mp hd with hfirst | hrest
              · rw [hfirst]; exact hc
              · exact hread d hrest
            have hnext := hinside (c :: read) hboth
            rw [List.reverse_cons, ← List.cons_append, List.append_assoc] at hnext
            exact hnext
          · exact ⟨.nil, List.nil_prefix⟩

theorem target?_eq_some_iff {cs url : List Char} {n : Nat} :
    target? cs = some (url, n)
      ↔ url ≠ [] ∧ IsAddress url ∧ n = url.length + 3
        ∧ ∃ rest, cs = ']' :: '(' :: url ++ ')' :: rest := by
  constructor
  · intro h
    unfold target? at h
    split at h
    · rename_i rest
      obtain ⟨haddress, after, hafter⟩ := (urlFrom_address_head rest).1
      have hdrop : (urlFrom none rest ++ after).drop (urlFrom none rest).length = after :=
        List.drop_left
      rw [hafter] at hdrop
      simp only [hdrop] at h
      split at h
      · cases h
      · rename_i hne
        split at h
        · rename_i tail
          cases h
          refine ⟨by simpa using hne, haddress, rfl, tail, ?_⟩
          rw [List.cons_append, List.cons_append, hafter]
        · cases h
    · cases h
  · rintro ⟨hne, haddress, rfl, rest, rfl⟩
    exact target?_written hne haddress rest

/-! ## §2. What closes a label. -/

/-- A text goes on with what closes a label of a mark, given the last character of the label. -/
structure Closes (mark : Mark) (last : Char) (url : Option (List Char)) (cs : List Char) : Prop where
  /-- A link has a URL, and a style has none. -/
  links : mark.Links url
  /-- The text starts with the closing; no star may stand next to one that closes an italic label. -/
  text : ∃ rest, cs = mark.closing url ++ rest ∧ (mark = .italic → last ≠ '*' ∧ NoStar rest)

theorem Closes.of_closing? {mark : Mark} {last : Char} {url : Option (List Char)} {cs : List Char}
    {n : Nat} (h : closing? mark last cs = some (url, n)) : Closes mark last url cs := by
  unfold closing? at h
  split at h
  · cases h
    exact ⟨.style (by decide), _, rfl, fun hmark => nomatch hmark⟩
  · rename_i rest
    split at h
    · cases h
    · rename_i hstars
      cases h
      rw [Bool.or_eq_true, decide_eq_true_eq, decide_eq_true_eq, not_or] at hstars
      exact ⟨.style (by decide), rest, rfl, fun _ => hstars⟩
  · rename_i c rest
    split at h
    · rename_i hquote
      cases h
      exact ⟨.style (by decide), rest, by rw [hquote]; rfl, fun hmark => nomatch hmark⟩
    · cases h
  · cases h
    exact ⟨.style (by decide), _, rfl, fun hmark => nomatch hmark⟩
  · obtain ⟨⟨target, m⟩, htarget, heq⟩ := Option.map_eq_some_iff.mp h
    cases heq
    obtain ⟨hne, haddress, -, rest, hcs⟩ := target?_eq_some_iff.mp htarget
    refine ⟨.link hne haddress, rest, ?_, fun hmark => nomatch hmark⟩
    rw [hcs]
    show _ = (']' :: '(' :: target ++ [')']) ++ rest
    rw [List.append_assoc]
    rfl
  · cases h

theorem closing?_eq_some_iff {mark : Mark} {last : Char} {url : Option (List Char)} {cs : List Char}
    {n : Nat} :
    closing? mark last cs = some (url, n)
      ↔ Closes mark last url cs ∧ n = (mark.closing url).length := by
  have hread : ∀ {url : Option (List Char)}, Closes mark last url cs →
      closing? mark last cs = some (url, (mark.closing url).length) := by
    rintro url ⟨hlinks, rest, rfl, hlone⟩
    exact closing?_written hlinks hlone
  constructor
  · intro h
    have hcloses := Closes.of_closing? h
    rw [hread hcloses] at h
    cases h
    exact ⟨hcloses, rfl⟩
  · rintro ⟨hcloses, rfl⟩
    exact hread hcloses

/-! ## §3. Labels. -/

/-- A text starts with a label on one line, and what closes it is behind the label. -/
inductive Closed (mark : Mark) (url : Option (List Char)) : List Char → List Char → Prop where
  /-- The last character of the label. -/
  | last {c : Char} {cs : List Char} (hline : c ≠ '\n') (h : Closes mark c url cs) :
      Closed mark url [c] (c :: cs)
  /-- A character before the last. -/
  | char {c : Char} {label cs : List Char} (hline : c ≠ '\n') (h : Closed mark url label cs) :
      Closed mark url (c :: label) (c :: cs)

theorem label?_closed {mark : Mark} {cs label : List Char} {url : Option (List Char)} {n : Nat}
    (h : label? mark cs = some (label, url, n)) :
    Closed mark url label cs ∧ n = (mark.closing url).length := by
  induction cs generalizing label with
  | nil => cases h
  | cons c cs ih =>
      unfold label? at h
      split at h
      · cases h
      · rename_i hline
        split at h
        · rename_i found hfound
          cases h
          obtain ⟨hcloses, hlength⟩ := closing?_eq_some_iff.mp hfound
          exact ⟨.last hline hcloses, hlength⟩
        · obtain ⟨⟨label', closing⟩, hrest, heq⟩ := Option.map_eq_some_iff.mp h
          cases heq
          obtain ⟨hclosed, hlength⟩ := ih hrest
          exact ⟨.char hline hclosed, hlength⟩

/-- Where a label is closed, one is read, and none that is longer. -/
theorem Closed.label? {mark : Mark} {url : Option (List Char)} {label cs : List Char}
    (h : Closed mark url label cs) :
    ∃ found closing, label? mark cs = some (found, closing) ∧ found.length ≤ label.length := by
  induction h with
  | @last c cs hline h =>
      refine ⟨[c], (url, (mark.closing url).length), ?_, Nat.le_refl _⟩
      rw [Markup.label?, if_neg hline, closing?_eq_some_iff.mpr ⟨h, rfl⟩]
  | @char c label cs hline h ih =>
      obtain ⟨found, closing, hfound, hle⟩ := ih
      rw [Markup.label?, if_neg hline]
      cases hclosing : closing? mark c cs with
      | some closing' =>
          refine ⟨[c], closing', rfl, ?_⟩
          rw [List.length_cons]
          exact Nat.le_add_left 1 label.length
      | none =>
          refine ⟨c :: found, closing, ?_, Nat.succ_le_succ hle⟩
          rw [hfound]
          rfl

/-- How long a label is decides which one it is. -/
theorem Closed.unique {mark : Mark} {url url' : Option (List Char)} {label label' cs : List Char}
    (h : Closed mark url label cs) (h' : Closed mark url' label' cs)
    (hlength : label.length = label'.length) : label = label' ∧ url = url' := by
  induction h generalizing label' with
  | last hline h =>
      cases h' with
      | last hline' h' =>
          have hread := closing?_eq_some_iff.mpr ⟨h, rfl⟩
          rw [closing?_eq_some_iff.mpr ⟨h', rfl⟩] at hread
          cases hread
          exact ⟨rfl, rfl⟩
      | char hline' h' => cases h' <;> simp at hlength
  | char hline h ih =>
      cases h' with
      | last hline' h' => cases h <;> simp at hlength
      | char hline' h' =>
          obtain ⟨rfl, rfl⟩ := ih h' (Nat.succ.inj hlength)
          exact ⟨rfl, rfl⟩

theorem label?_eq_some_iff {mark : Mark} {cs label : List Char} {url : Option (List Char)} {n : Nat} :
    label? mark cs = some (label, url, n)
      ↔ Closed mark url label cs ∧ n = (mark.closing url).length
        ∧ ∀ label' url', Closed mark url' label' cs → label.length ≤ label'.length := by
  constructor
  · intro h
    obtain ⟨hclosed, hlength⟩ := label?_closed h
    refine ⟨hclosed, hlength, fun label' url' h' => ?_⟩
    obtain ⟨found, closing, hfound, hle⟩ := h'.label?
    rw [h] at hfound
    cases hfound
    exact hle
  · rintro ⟨hclosed, rfl, hleast⟩
    obtain ⟨found, ⟨url', m⟩, hfound, hle⟩ := hclosed.label?
    obtain ⟨hclosed', hlength⟩ := label?_closed hfound
    obtain ⟨rfl, rfl⟩ := hclosed.unique hclosed'
      (Nat.le_antisymm (hleast found url' hclosed') hle)
    rw [hfound, hlength]

theorem closed_iff {mark : Mark} {url : Option (List Char)} {label cs : List Char} :
    Closed mark url label cs
      ↔ label ≠ [] ∧ '\n' ∉ label ∧ mark.Links url
        ∧ ∃ rest, cs = label ++ (mark.closing url ++ rest)
          ∧ (mark = .italic → label.getLast? ≠ some '*' ∧ NoStar rest) := by
  constructor
  · intro h
    induction h with
    | @last c cs hline h =>
        obtain ⟨hlinks, rest, rfl, hlone⟩ := h
        refine ⟨List.cons_ne_nil c [], by simpa using Ne.symm hline, hlinks, rest, rfl, ?_⟩
        intro hmark
        refine ⟨?_, (hlone hmark).2⟩
        rw [List.getLast?_singleton, ne_eq, Option.some.injEq]
        exact (hlone hmark).1
    | @char c label cs hline h ih =>
        obtain ⟨hne, hlabel, hlinks, rest, rfl, hlone⟩ := ih
        refine ⟨List.cons_ne_nil c label, ?_, hlinks, rest, rfl, ?_⟩
        · rw [List.mem_cons, not_or]
          exact ⟨Ne.symm hline, hlabel⟩
        · -- The last character is that of the rest of the label.
          rw [List.getLast?_cons_of_ne_nil hne]
          exact hlone
  · rintro ⟨hne, hlabel, hlinks, rest, rfl, hlone⟩
    induction label with
    | nil => exact absurd rfl hne
    | cons c label ih =>
        rw [List.mem_cons, not_or] at hlabel
        cases label with
        | nil =>
            refine .last (Ne.symm hlabel.1) ⟨hlinks, rest, rfl, fun hmark => ⟨?_, (hlone hmark).2⟩⟩
            intro hstar
            exact (hlone hmark).1 (by rw [hstar]; rfl)
        | cons d label =>
            refine .char (Ne.symm hlabel.1) (ih (List.cons_ne_nil d label) hlabel.2 ?_)
            rw [List.getLast?_cons_of_ne_nil (List.cons_ne_nil d label)] at hlone
            exact hlone

/-! ## §4. A mark at the head of a text. -/

theorem opening?_eq_some_iff {mark : Mark} {before : Option Char} {cs rest : List Char} {n : Nat} :
    opening? mark before cs = some (rest, n)
      ↔ cs = mark.opening ++ rest ∧ n = mark.opening.length
        ∧ (mark = .italic → before ≠ some '*' ∧ NoStar rest) := by
  constructor
  · intro h
    unfold opening? at h
    split at h
    · cases h
      exact ⟨rfl, rfl, fun hmark => nomatch hmark⟩
    · split at h
      · cases h
      · rename_i hstars
        cases h
        rw [Bool.or_eq_true, decide_eq_true_eq, decide_eq_true_eq, not_or] at hstars
        exact ⟨rfl, rfl, fun _ => hstars⟩
    · split at h
      · rename_i hquote
        cases h
        exact ⟨by rw [hquote]; rfl, rfl, fun hmark => nomatch hmark⟩
      · cases h
    · cases h
      exact ⟨rfl, rfl, fun hmark => nomatch hmark⟩
    · cases h
      exact ⟨rfl, rfl, fun hmark => nomatch hmark⟩
    · cases h
  · rintro ⟨rfl, rfl, hlone⟩
    exact opening?_written hlone

/-- At the head of a text stands a mark with its label, given the character before the text. -/
structure Stands (mark : Mark) (before : Option Char) (label : List Char) (url : Option (List Char))
    (cs : List Char) : Prop where
  /-- The label is not empty. -/
  nonempty : label ≠ []
  /-- The label is on one line. -/
  line : '\n' ∉ label
  /-- A link has a URL, and a style has none. -/
  links : mark.Links url
  /-- The text starts with the piece as it is written.  An italic label has a star on either side of
  it, and no star is next to one of these. -/
  text : ∃ rest, cs = (Piece.marked mark label url).written ++ rest
    ∧ (mark = .italic → before ≠ some '*' ∧ label.head? ≠ some '*' ∧ label.getLast? ≠ some '*'
      ∧ rest.head? ≠ some '*')

theorem stands_iff {mark : Mark} {before : Option Char} {label : List Char}
    {url : Option (List Char)} {cs : List Char} :
    Stands mark before label url cs
      ↔ ∃ inner, opening? mark before cs = some (inner, mark.opening.length)
        ∧ Closed mark url label inner := by
  constructor
  · rintro ⟨hne, hline, hlinks, rest, rfl, hlone⟩
    refine ⟨label ++ (mark.closing url ++ rest), opening?_eq_some_iff.mpr ⟨?_, rfl, fun hmark => ?_⟩,
      closed_iff.mpr ⟨hne, hline, hlinks, rest, rfl, fun hmark => (hlone hmark).2.2⟩⟩
    · exact written_append mark label url rest
    · refine ⟨(hlone hmark).1, ?_⟩
      show (label ++ _).head? ≠ some '*'
      rw [List.head?_append_of_ne_nil label hne]
      exact (hlone hmark).2.1
  · rintro ⟨inner, hopening, hclosed⟩
    obtain ⟨rfl, -, hopened⟩ := opening?_eq_some_iff.mp hopening
    obtain ⟨hne, hline, hlinks, rest, rfl, hlone⟩ := closed_iff.mp hclosed
    refine ⟨hne, hline, hlinks, rest, ?_, fun hmark => ?_⟩
    · exact (written_append mark label url rest).symm
    · have hstart := (hopened hmark).2
      unfold NoStar at hstart
      rw [List.head?_append_of_ne_nil label hne] at hstart
      exact ⟨(hopened hmark).1, hstart, hlone hmark⟩

/-- A mark that is found at the head of a text stands there, and its label is the shortest. -/
theorem findAt?_eq_some_iff {mark : Mark} {start : Nat} {before : Option Char} {cs : List Char}
    {f : Find} :
    findAt? mark start before cs = some f
      ↔ f = findOf start mark f.label f.url ∧ Stands mark before f.label f.url cs
        ∧ ∀ label url, Stands mark before label url cs → f.label.length ≤ label.length := by
  constructor
  · intro h
    unfold findAt? at h
    obtain ⟨⟨inner, opened⟩, hopening, h⟩ := Option.bind_eq_some_iff.mp h
    obtain ⟨⟨label, url, closed⟩, hlabel, h⟩ := Option.bind_eq_some_iff.mp h
    cases h
    obtain ⟨hclosed, rfl, hleast⟩ := label?_eq_some_iff.mp hlabel
    obtain ⟨-, rfl, -⟩ := opening?_eq_some_iff.mp hopening
    refine ⟨?_, stands_iff.mpr ⟨inner, hopening, hclosed⟩, fun label' url' h' => ?_⟩
    · unfold findOf Piece.written
      rw [List.length_append, List.length_append, Nat.add_assoc]
    · obtain ⟨inner', hopening', hclosed'⟩ := stands_iff.mp h'
      rw [hopening] at hopening'
      cases hopening'
      exact hleast label' url' hclosed'
  · rintro ⟨hf, hstands, hleast⟩
    obtain ⟨inner, hopening, hclosed⟩ := stands_iff.mp hstands
    have hlabel : label? mark inner = some (f.label, f.url, (mark.closing f.url).length) :=
      label?_eq_some_iff.mpr ⟨hclosed, rfl, fun label' url' h' =>
        hleast label' url' (stands_iff.mpr ⟨inner, hopening, h'⟩)⟩
    rw [findAt?_of_label? hopening hlabel, ← hf]

/-! ## §5. The finds in a text. -/

/-- A mark stands in a text where a find says, and its label is the shortest there. -/
structure Find.Occurs (f : Find) (cs : List Char) : Prop where
  /-- The find has the length of the piece as it is written. -/
  length : f.length = (Piece.marked f.mark f.label f.url).written.length
  /-- The mark stands there. -/
  stands : Stands f.mark (cs.take f.start).getLast? f.label f.url (cs.drop f.start)
  /-- It does not with a shorter label. -/
  shortest : ∀ label url, Stands f.mark (cs.take f.start).getLast? label url (cs.drop f.start) →
    f.label.length ≤ label.length

theorem Find.occurs_iff {mark : Mark} {cs : List Char} {f : Find} :
    f.mark = mark ∧ f.Occurs cs
      ↔ findAt? mark f.start (cs.take f.start).getLast? (cs.drop f.start) = some f := by
  rw [findAt?_eq_some_iff]
  constructor
  · rintro ⟨rfl, hlength, hstands, hshortest⟩
    refine ⟨?_, hstands, hshortest⟩
    unfold findOf
    rw [← hlength]
  · rintro ⟨hf, hstands, hshortest⟩
    have hmark : f.mark = mark := congrArg Find.mark hf
    subst hmark
    exact ⟨rfl, congrArg Find.length hf, hstands, hshortest⟩

theorem Find.Occurs.length_pos {f : Find} {cs : List Char} (h : f.Occurs cs) : 0 < f.length := by
  rw [h.length]
  exact written_marked_pos f.mark f.label f.url

/-- A find ends in the text. -/
theorem Find.Occurs.stop_le {f : Find} {cs : List Char} (h : f.Occurs cs) : f.stop ≤ cs.length := by
  obtain ⟨rest, htext, -⟩ := h.stands.text
  have hlength := congrArg List.length htext
  rw [List.length_drop, List.length_append, ← h.length] at hlength
  have hpos := h.length_pos
  unfold Find.stop
  omega

/-- No find starts in what is skipped. -/
theorem start_le_of_findsFrom {mark : Mark} {g : Find} {cs : List Char} :
    ∀ {start skip : Nat} {before : Option Char}, g ∈ findsFrom mark start skip before cs →
      start + skip ≤ g.start := by
  induction cs with
  | nil => intro start skip before h; exact absurd h List.not_mem_nil
  | cons c cs ih =>
      intro start skip before h
      cases skip with
      | succ skip =>
          have hle := ih h
          omega
      | zero =>
          rw [findsFrom] at h
          split at h
          · rename_i f hf
            rcases List.mem_cons.mp h with hhead | hrest
            · rw [hhead, congrArg Find.start (findAt?_eq_some_iff.mp hf).1]
              exact Nat.le_refl start
            · exact Nat.le_of_succ_le (Nat.le_of_add_right_le (ih hrest))
          · exact Nat.le_of_succ_le (ih h)

/-- What is found from some place on: a mark that stands there or later, and not inside a find
before it. -/
theorem mem_findsFrom_iff (mark : Mark) (f : Find) (rest : List Char) : ∀ (before : List Char)
    (skip : Nat), f ∈ findsFrom mark before.length skip before.getLast? rest
      ↔ before.length + skip ≤ f.start ∧ (f.mark = mark ∧ f.Occurs (before ++ rest))
        ∧ ∀ g ∈ findsFrom mark before.length skip before.getLast? rest,
            g.start < f.start → g.stop ≤ f.start := by
  induction rest with
  | nil =>
      intro before skip
      refine ⟨fun h => absurd h List.not_mem_nil, ?_⟩
      rintro ⟨hle, ⟨-, hoccurs⟩, -⟩
      -- There is no room for a find behind the end.
      have hpos := hoccurs.length_pos
      have hstop := hoccurs.stop_le
      unfold Find.stop at hstop
      rw [List.append_nil] at hstop
      omega
  | cons c rest ih =>
      intro before skip
      have hnext := ih (before ++ [c])
      rw [List.length_append, List.getLast?_concat, List.append_assoc] at hnext
      change ∀ skip, f ∈ findsFrom mark (before.length + 1) skip (some c) rest
        ↔ before.length + 1 + skip ≤ f.start ∧ (f.mark = mark ∧ f.Occurs (before ++ c :: rest))
          ∧ ∀ g ∈ findsFrom mark (before.length + 1) skip (some c) rest,
              g.start < f.start → g.stop ≤ f.start at hnext
      cases skip with
      | succ skip =>
          rw [findsFrom, hnext skip, Nat.add_assoc, Nat.add_comm 1]
      | zero =>
          have hhere : f.start = before.length → (f.mark = mark ∧ f.Occurs (before ++ c :: rest)
              ↔ findAt? mark before.length before.getLast? (c :: rest) = some f) := by
            intro hstart
            rw [Find.occurs_iff, hstart, List.take_left, List.drop_left]
          rw [findsFrom]
          cases hfind : findAt? mark before.length before.getLast? (c :: rest) with
          | none =>
              show f ∈ findsFrom mark (before.length + 1) 0 (some c) rest
                ↔ _ ∧ _ ∧ ∀ g ∈ findsFrom mark (before.length + 1) 0 (some c) rest, _
              rw [hnext 0]
              constructor
              · rintro ⟨hle, hoccurs, hclear⟩
                exact ⟨Nat.le_of_succ_le hle, hoccurs, hclear⟩
              · rintro ⟨hle, hoccurs, hclear⟩
                refine ⟨?_, hoccurs, hclear⟩
                -- Nothing is found here, so the find is further on.
                rcases Nat.eq_or_lt_of_le hle with heq | hlt
                · have hsome := (hhere heq.symm).mp hoccurs
                  rw [hfind] at hsome
                  cases hsome
                · exact hlt
          | some f₀ =>
              have hf₀ : f₀.start = before.length :=
                congrArg Find.start (findAt?_eq_some_iff.mp hfind).1
              have hpos : 0 < f₀.length := by
                rw [congrArg Find.length (findAt?_eq_some_iff.mp hfind).1]
                exact written_marked_pos mark f₀.label f₀.url
              have hstop : f₀.stop = before.length + 1 + (f₀.length - 1) := by
                unfold Find.stop
                omega
              have hlater := hnext (f₀.length - 1)
              rw [← hstop] at hlater
              show f ∈ f₀ :: findsFrom mark (before.length + 1) (f₀.length - 1) (some c) rest
                ↔ _ ∧ _ ∧ ∀ g ∈ f₀ :: findsFrom mark (before.length + 1) (f₀.length - 1) (some c) rest, _
              rw [List.mem_cons, List.forall_mem_cons, hlater]
              constructor
              · rintro (rfl | ⟨hle, hoccurs, hclear⟩)
                · refine ⟨Nat.le_of_eq hf₀.symm, (hhere hf₀).mpr hfind,
                    fun hlt => absurd hlt (Nat.lt_irrefl _), fun g hg hlt => ?_⟩
                  have hge := start_le_of_findsFrom hg
                  omega
                · refine ⟨?_, hoccurs, fun _ => hle, hclear⟩
                  unfold Find.stop at hle
                  omega
              · rintro ⟨hle, hoccurs, hfirst, hclear⟩
                -- Either this is the find here, or it is behind the end of that.
                rcases Nat.eq_or_lt_of_le hle with heq | hlt
                · have hsome := (hhere heq.symm).mp hoccurs
                  rw [hfind, Option.some.injEq] at hsome
                  exact Or.inl hsome.symm
                · exact Or.inr ⟨hfirst (hf₀ ▸ hlt), hoccurs, hclear⟩

/-- **What a mark finds in a text is where it stands with the shortest label, outside of the finds
before it.** -/
theorem mem_finds_iff {mark : Mark} {cs : List Char} {f : Find} :
    f ∈ finds mark cs
      ↔ f.mark = mark ∧ f.Occurs cs ∧ ∀ g ∈ finds mark cs, g.start < f.start → g.stop ≤ f.start := by
  have hall := mem_findsFrom_iff mark f cs [] 0
  rw [List.nil_append, and_assoc] at hall
  exact hall.trans (and_iff_right (Nat.zero_le f.start))

theorem findsFrom_increasing (mark : Mark) (cs : List Char) :
    ∀ (start skip : Nat) (before : Option Char),
      (findsFrom mark start skip before cs).Pairwise fun f g => f.start < g.start := by
  induction cs with
  | nil => intro start skip before; exact List.Pairwise.nil
  | cons c cs ih =>
      intro start skip before
      cases skip with
      | succ skip => exact ih (start + 1) skip (some c)
      | zero =>
          rw [findsFrom]
          split
          · rename_i f hf
            refine List.Pairwise.cons (fun g hg => ?_) (ih (start + 1) (f.length - 1) (some c))
            have hle := start_le_of_findsFrom hg
            rw [congrArg Find.start (findAt?_eq_some_iff.mp hf).1]
            show start < g.start
            omega
          · exact ih (start + 1) 0 (some c)

/-- The finds of one mark are in the order of their starts. -/
theorem finds_increasing (mark : Mark) (cs : List Char) :
    (finds mark cs).Pairwise fun f g => f.start < g.start :=
  findsFrom_increasing mark cs 0 0 none

end Syllabus.Markup
