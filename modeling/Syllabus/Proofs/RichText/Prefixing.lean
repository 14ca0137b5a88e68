/-
  Syllabus.Proofs.RichText.Prefixing
  ──────────────────────────────────
  **TEXT IN FRONT CHANGES NO MARK.**

  A mark is found by what follows it, and by the character before it only as
  far as that is a star.  So a text is cut up in the same way wherever it
  stands behind characters that no mark is made of: these go to the first of
  its pieces, and the others are the same.

      Find.moved        a find so many characters further on
      findsFrom_moved   what one mark finds, by induction on the text
      allFinds_behind   what all marks find behind a text
      pieces_behind     the pieces, of which only the first is longer
      shownText_behind  and what their runs show
      shownText_first   what is shown up to the first mark
-/
import Syllabus.Proofs.Block.Verbatim
import Syllabus.Proofs.RichText.Rebuilding

namespace Syllabus

namespace Markup

/-! ## §1. Finds. -/

/-- A find, so many characters further on. -/
def Find.moved (n : Nat) (f : Find) : Find := { f with start := n + f.start }

theorem Find.stop_moved (n : Nat) (f : Find) : (f.moved n).stop = n + f.stop :=
  Nat.add_assoc n f.start f.length

/-- Of what stands before it, a mark only sees whether it is a star. -/
theorem opening?_before (mark : Mark) {before before' : Option Char}
    (h : before = some '*' ↔ before' = some '*') (cs : List Char) :
    opening? mark before cs = opening? mark before' cs := by
  cases mark <;> simp only [opening?, h]

theorem findAt?_moved (mark : Mark) (n start : Nat) {before before' : Option Char}
    (h : before = some '*' ↔ before' = some '*') (cs : List Char) :
    findAt? mark (n + start) before cs = (findAt? mark start before' cs).map (Find.moved n) := by
  unfold findAt?
  rw [opening?_before mark h]
  cases opening? mark before' cs with
  | none => rfl
  | some opened =>
      cases hlabel : label? mark opened.1 with
      | none => simp [hlabel]
      | some closed => simp [hlabel, Find.moved]

/-- What a mark finds in a text, it finds as far on as the text is. -/
theorem findsFrom_moved (mark : Mark) (n : Nat) (cs : List Char) :
    ∀ (start skip : Nat) (before before' : Option Char), (before = some '*' ↔ before' = some '*') →
      findsFrom mark (n + start) skip before cs
        = (findsFrom mark start skip before' cs).map (Find.moved n) := by
  induction cs with
  | nil => intro start skip before before' _; rfl
  | cons c cs ih =>
      intro start skip before before' h
      -- From the second character on, the same character stands before both.
      have hrest := fun skip => ih (start + 1) skip (some c) (some c) Iff.rfl
      cases skip with
      | succ skip => exact hrest skip
      | zero =>
          rw [findsFrom, findsFrom, findAt?_moved mark n start h]
          cases findAt? mark start before' (c :: cs) with
          | none => exact hrest 0
          | some f => exact congrArg (f.moved n :: ·) (hrest (f.length - 1))

/-- Behind characters that no mark is made of, a mark finds what it finds in the text alone. -/
theorem finds_behind (mark : Mark) {w : List Char} (hw : IsUnmarked w) (rest : List Char) :
    finds mark (w ++ rest) = (finds mark rest).map (Find.moved w.length) := by
  obtain ⟨after, hafter, hstar⟩ := findsFrom_plain mark rest hw 0 none
  have hmoved := findsFrom_moved mark w.length rest 0 0 after none
    (iff_of_false hstar (by simp))
  rw [Nat.add_zero] at hmoved
  unfold finds
  rw [hafter, Nat.zero_add, hmoved]

theorem allFinds_behind {w : List Char} (hw : IsUnmarked w) (rest : List Char) :
    allFinds (w ++ rest) = (allFinds rest).map (Find.moved w.length) := by
  -- Moving the finds keeps the order of their starts, so they are sorted in the same way.
  have hsame : ∀ a ∈ Mark.all.flatMap fun mark => finds mark rest,
      ∀ b ∈ Mark.all.flatMap fun mark => finds mark rest,
      decide (a.start ≤ b.start)
        = decide ((a.moved w.length).start ≤ (b.moved w.length).start) := by
    intro a _ b _
    exact decide_eq_decide.mpr Nat.add_le_add_iff_left.symm
  unfold allFinds
  rw [List.map_mergeSort (s := fun a b => decide (a.start ≤ b.start)) hsame, List.map_flatMap]
  congr 1
  exact List.flatMap_congr fun mark _ => finds_behind mark hw rest

/-! ## §2. Pieces. -/

/-- Behind a text, the same pieces are cut out of what follows it. -/
theorem piecesFrom_behind (w rest : List Char) (fs : List Find) :
    ∀ offset, piecesFrom (w ++ rest) (w.length + offset) (fs.map (Find.moved w.length))
      = piecesFrom rest offset fs := by
  have hdrop : ∀ offset, (w ++ rest).drop (w.length + offset) = rest.drop offset := by
    intro offset
    rw [← List.drop_drop, List.drop_left]
  induction fs with
  | nil =>
      intro offset
      rw [List.map_nil, piecesFrom, piecesFrom, hdrop, List.length_append]
      simp only [Nat.add_lt_add_iff_left]
  | cons f fs ih =>
      intro offset
      rw [List.map_cons, piecesFrom, piecesFrom, Find.stop_moved, ih, ih, hdrop]
      show (if w.length + f.start < w.length + offset then _ else
        (if w.length + offset < w.length + f.start then
            [Piece.plain ((rest.drop offset).take (w.length + f.start - (w.length + offset)))]
          else []) ++ _) = _
      simp only [Nat.add_lt_add_iff_left, Nat.add_sub_add_left]
      rfl

/-- The pieces of a text behind characters that no mark is made of: these go to the first piece,
which is plain, and whatever they are, the rest of it and all other pieces are the same. -/
theorem pieces_behind (rest : List Char) : ∃ first others, first <+: rest
    ∧ ∀ w, IsUnmarked w → pieces (w ++ rest) = .plain (w ++ first) :: others := by
  cases hfinds : allFinds rest with
  | nil =>
      refine ⟨rest, [], List.prefix_refl rest, ?_⟩
      intro w hw
      unfold pieces
      rw [allFinds_behind hw, hfinds]
      rfl
  | cons f fs =>
      refine ⟨rest.take f.start, .marked f.mark f.label f.url :: piecesFrom rest f.stop fs,
        List.take_prefix _ _, ?_⟩
      intro w hw
      -- Even if the text opens with a find, there is a plain piece before it: what is in front.
      have hpos : 0 < w.length := List.length_pos_iff.mpr hw.nonempty
      unfold pieces
      rw [allFinds_behind hw, hfinds]
      show piecesFrom (w ++ rest) 0 (f.moved w.length :: fs.map (Find.moved w.length)) = _
      rw [piecesFrom, Find.stop_moved, piecesFrom_behind, List.drop_zero]
      show (if w.length + f.start < 0 then _ else
        (if 0 < w.length + f.start then [Piece.plain ((w ++ rest).take (w.length + f.start - 0))]
          else []) ++ _) = _
      rw [if_neg (Nat.not_lt_zero _), if_pos (by omega), Nat.sub_zero, List.take_length_add_append]
      rfl

/-! ## §3. Runs. -/

/-- The run that a piece becomes. -/
def Piece.made : Piece → Run
  | .plain text => Run.plain (String.ofList text)
  | .marked mark label url =>
      Run.of (String.ofList label) mark.style ((url.map String.ofList).filter Url.isWeb)

theorem Piece.made_marked (mark : Mark) (label : List Char) (url : Option (List Char)) :
    (Piece.marked mark label url).made
      = Run.of (String.ofList label) mark.style ((url.map String.ofList).filter Url.isWeb) := rfl

theorem Part.made_piece (p : Part) : p.piece.made = p.run := by
  cases p <;> rfl

theorem Piece.made_built (p : Piece) : p.made.Built := by
  cases p with
  | plain text => exact ⟨_, _, _, rfl⟩
  | marked mark label url => exact ⟨_, _, _, rfl⟩

/-- The runs of a text are those that its pieces become. -/
theorem runs_made (text : String) :
    Writing.Yields (runs text) ((pieces text.toList).map Piece.made) := by
  have hruns := runs_yields text
  rw [pieces_eq, List.map_map, show Piece.made ∘ Part.piece = Part.run from funext Part.made_piece]
  exact hruns

end Markup

/-! ## §4. What is shown. -/

namespace Run

/-- What some runs show. -/
def shownText (rs : List Run) : String := plainText (rs.map toJson)

theorem shownText_built {rs : List Run} (h : ∀ r ∈ rs, r.Built) :
    shownText rs = String.join (rs.map content) := Block.plainText_of h

end Run

namespace Markup

/-- What is shown of a text behind characters that no mark is made of and that are not all blank:
other such characters in front of it are shown in front, as long as the first run is not cut. -/
theorem shownText_behind {p w rest : List Char} (hp : ∀ c ∈ p, c ∉ markers) (hw : IsUnmarked w)
    (hvisible : ∃ c ∈ w, Text.isBlankChar c = false)
    (hlength : (p ++ (w ++ rest)).length ≤ Run.maxChars) :
    Run.shownText ((pieces (p ++ (w ++ rest))).map Piece.made)
      = String.ofList p ++ Run.shownText ((pieces (w ++ rest)).map Piece.made) := by
  obtain ⟨first, others, hfirst, hpieces⟩ := pieces_behind rest
  have hpw : IsUnmarked (p ++ w) := by
    refine ⟨?_, ?_⟩
    · exact List.append_ne_nil_of_right_ne_nil p hw.nonempty
    · intro c hc
      rcases List.mem_append.mp hc with hc | hc
      · exact hp c hc
      · exact hw.free c hc
  have hbuilt : ∀ ps : List Piece, ∀ r ∈ ps.map Piece.made, r.Built := by
    intro ps r hr
    obtain ⟨q, -, rfl⟩ := List.mem_map.mp hr
    exact q.made_built
  -- The first run shows all of its piece: it is not blank, and there is room for it.
  have hcontent : ∀ u, (∃ c ∈ u, Text.isBlankChar c = false) → u.length ≤ Run.maxChars →
      (Piece.plain u).made.content = String.ofList u := by
    intro u ⟨c, hc, hcvisible⟩ hu
    have hub : Text.isBlank (String.ofList u) = false := by
      refine Text.isBlank_of_visible ?_ hcvisible
      rw [String.toList_ofList]
      exact hc
    have hroom : (String.ofList u).length ≤ Run.maxChars := by
      rw [String.length_ofList]
      exact hu
    exact (Block.content_plain hroom).trans (Block.shownPiece_of_visible hub)
  obtain ⟨c, hc, hcvisible⟩ := hvisible
  have hroom := hfirst.length_le
  rw [List.length_append, List.length_append] at hlength
  rw [← List.append_assoc, hpieces _ hpw, hpieces _ hw, Run.shownText_built (hbuilt _),
    Run.shownText_built (hbuilt _), List.map_cons, List.map_cons, List.map_cons, List.map_cons,
    String.join_cons, String.join_cons, hcontent, hcontent, List.append_assoc, String.ofList_append,
    String.append_assoc]
  · exact ⟨c, List.mem_append_left _ hc, hcvisible⟩
  · rw [List.length_append]
    omega
  · exact ⟨c, List.mem_append_left _ (List.mem_append_right _ hc), hcvisible⟩
  · rw [List.length_append, List.length_append]
    omega

/-! ## §5. What is shown in front of the first mark. -/

/-- A text that is cut to the length of a run keeps its start. -/
theorem take_clipped {n : Nat} (hn : n + Run.ellipsis.length ≤ Run.maxChars) (s : String) :
    (Run.clipped s).toList.take n = s.toList.take n := by
  unfold Run.clipped
  split
  · rename_i hlong
    have hmark : Run.ellipsis.length = 3 := by decide
    rw [← String.length_toList] at hlong
    rw [String.toList_append, Text.takeChars, String.toList_ofList, List.take_append_of_le_length,
      List.take_take, Nat.min_eq_left]
    · omega
    · rw [List.length_take]
      omega
  · rfl

/-- What is in front of a text that is cut, and of more, is in front of the text, unless it is longer
than the text. -/
theorem prefix_clipped {front others : List Char} {s : String}
    (hroom : front.length + Run.ellipsis.length ≤ Run.maxChars)
    (h : front <+: (Run.clipped s).toList ++ others) : s.toList <+: front ∨ front <+: s.toList := by
  have hclipped := take_clipped hroom s
  rcases List.prefix_or_prefix_of_prefix h (List.prefix_append _ _) with hshort | hlong
  · right
    rw [List.prefix_iff_eq_take.mp hshort, hclipped]
    exact List.take_prefix _ _
  · -- All of the cut text is in it, so nothing was cut, or no more than what is behind it.
    rw [List.take_of_length_le hlong.length_le] at hclipped
    rw [hclipped] at hlong
    by_cases hlength : s.toList.length ≤ front.length
    · left
      rwa [List.take_of_length_le hlength] at hlong
    · right
      have hwhole : s.toList.take front.length = front :=
        hlong.eq_of_length (List.length_take_of_le (by omega))
      rw [← hwhole]
      exact List.take_prefix _ _

/-- The pieces of a text up to its first find, and that find. -/
theorem pieces_first {cs : List Char} {f : Find} {fs : List Find} (h : allFinds cs = f :: fs) :
    pieces cs = (if 0 < f.start then [.plain (cs.take f.start)] else [])
      ++ .marked f.mark f.label f.url :: piecesFrom cs f.stop fs := by
  unfold pieces
  rw [h]
  show piecesFrom cs 0 (f :: fs) = _
  rw [piecesFrom, if_neg (Nat.not_lt_zero _), List.drop_zero, Nat.sub_zero]

theorem shownText_pieces (cs : List Char) :
    Run.shownText ((pieces cs).map Piece.made)
      = String.join ((pieces cs).map fun p => p.made.content) := by
  rw [Run.shownText_built, List.map_map]
  · rfl
  · intro r hr
    obtain ⟨p, -, rfl⟩ := List.mem_map.mp hr
    exact p.made_built

/-- A run shows a text that is not blank, cut to its length. -/
theorem content_of_visible {content : String} (h : Text.isBlank content = false) (style : Style)
    (link : Option String) : (Run.of content style link).content = Run.clipped content := by
  unfold Run.of
  rw [h, if_neg Bool.false_ne_true]
  rfl

/-- It does if the text starts visibly. -/
theorem content_visible {c : Char} (hc : Text.isBlankChar c = false) (cs : List Char) (style : Style)
    (link : Option String) :
    (Run.of (String.ofList (c :: cs)) style link).content = Run.clipped (String.ofList (c :: cs)) := by
  refine content_of_visible (Text.isBlank_of_visible ?_ hc) style link
  rw [String.toList_ofList]
  exact List.mem_cons_self

section Opening

variable {c : Char} (hc : Text.isBlankChar c = false) {cs : List Char} {n : Nat}

include hc

/-- What a text that starts visibly shows up to its first find, cut to the length of a run, and
behind it: the label, and more. -/
theorem shownText_first {f : Find} {fs : List Find} (h : allFinds (c :: cs) = f :: fs) :
    ∃ others, (Run.shownText ((pieces (c :: cs)).map Piece.made)).toList
      = (Run.clipped (String.ofList ((c :: cs).take f.start))).toList
        ++ ((Piece.marked f.mark f.label f.url).made.content.toList ++ others) := by
  have hfront : String.join ((if 0 < f.start then [Piece.plain ((c :: cs).take f.start)] else []).map
      fun p => p.made.content) = Run.clipped (String.ofList ((c :: cs).take f.start)) := by
    cases hstart : f.start with
    | zero =>
        rw [List.take_zero]
        decide
    | succ k =>
        have hgap : (Piece.plain ((c :: cs).take (k + 1))).made.content
            = Run.clipped (String.ofList ((c :: cs).take (k + 1))) := content_visible hc _ {} none
        rw [if_pos (Nat.succ_pos k), List.map_singleton, hgap, String.join_cons, String.join_nil,
          String.append_empty]
  refine ⟨(String.join ((piecesFrom (c :: cs) f.stop fs).map fun p => p.made.content)).toList, ?_⟩
  rw [shownText_pieces, pieces_first h, List.map_append, String.join_append, hfront, List.map_cons,
    String.join_cons, String.toList_append, String.toList_append]

/-- **As far as no mark starts, a text that starts visibly is shown as it is written.** -/
theorem take_shownText (hn : n + Run.ellipsis.length ≤ Run.maxChars)
    (hfinds : ∀ f ∈ allFinds (c :: cs), n ≤ f.start) :
    (Run.shownText ((pieces (c :: cs)).map Piece.made)).toList.take n = (c :: cs).take n := by
  cases h : allFinds (c :: cs) with
  | nil =>
      have hpieces : pieces (c :: cs) = [.plain (c :: cs)] := by
        unfold pieces
        rw [h]
      have hcontent : (Piece.plain (c :: cs)).made.content = Run.clipped (String.ofList (c :: cs)) :=
        content_visible hc cs {} none
      rw [shownText_pieces, hpieces, List.map_singleton, hcontent, String.join_cons, String.join_nil,
        String.append_empty, take_clipped hn, String.toList_ofList]
  | cons f fs =>
      have hmem : f ∈ allFinds (c :: cs) := by
        rw [h]
        exact List.mem_cons_self
      have hstart := hfinds f hmem
      have hstop := (mem_finds_iff.mp (mem_allFinds.mp hmem)).2.1.stop_le
      unfold Find.stop at hstop
      obtain ⟨others, hshown⟩ := shownText_first hc h
      have hclipped := take_clipped hn (String.ofList ((c :: cs).take f.start))
      rw [String.toList_ofList] at hclipped
      -- The first run reaches to the first find, and so far at least.
      have hwhole : n ≤ (Run.clipped (String.ofList ((c :: cs).take f.start))).toList.length := by
        have htaken := congrArg List.length hclipped
        rw [List.length_take, List.length_take, List.length_take] at htaken
        omega
      rw [hshown, List.take_append_of_le_length hwhole, hclipped, List.take_take,
        Nat.min_eq_left hstart]

end Opening

end Markup

end Syllabus
