/-
  Syllabus.Proofs.Block.Verbatim
  ──────────────────────────────
  **WHICH CODE A BLOCK SHOWS AS IT WAS WRITTEN.**

  Code is trimmed, cut if it is too long, and spread over runs of 2000
  characters.  A run that would be blank is one space, whatever it was made
  from: that is meant for prose, but it also meets a piece of code that is
  blank from one cut to the next.

      keptCode          the code that a block is to show
      shownPiece        what a run shows of a piece of it
      code_kept_iff     all of it is shown exactly if no piece is blank
      blank_piece_lost  which is not so of every code
-/
import Syllabus.Proofs.Block.Builders
import Syllabus.Proofs.Block.Pieces
import Syllabus.Proofs.Text.Trimming

namespace Syllabus.Block

open Writing

/-! ## §1. The code that is kept. -/

/-- The trimmed code, or as much of it as goes in front of the mark of a cut. -/
def keptCode (content : String) : String :=
  let code := Text.strip content
  if code.length ≤ maxCodeChars then code
  else Text.takeChars (maxCodeChars - truncationMark.length) code ++ truncationMark

theorem fittedCode_yields (content : String) : Yields (fittedCode content) (keptCode content) := by
  unfold fittedCode keptCode
  by_cases hlong : maxCodeChars < (Text.strip content).length
  · rw [if_pos hlong, if_neg (Nat.not_le_of_lt hlong)]
    exact (gives_report _ _ _ _).yields.bind (yields_pure _)
  · rw [if_neg hlong, if_pos (Nat.le_of_not_lt hlong)]
    exact yields_pure _

theorem length_keptCode (content : String) :
    (keptCode content).length = min maxCodeChars (Text.strip content).length := by
  unfold keptCode
  by_cases hshort : (Text.strip content).length ≤ maxCodeChars
  · rw [if_pos hshort, Nat.min_eq_right hshort]
  · have hmark : truncationMark.length ≤ maxCodeChars := by decide
    rw [if_neg hshort, String.length_append, Text.length_takeChars]
    omega

/-- Code that is kept does not end in a blank: it is trimmed, or ends in the mark of a cut. -/
theorem visible_end_keptCode (content : String) {c : Char}
    (h : (keptCode content).toList.getLast? = some c) : Text.isBlankChar c = false := by
  unfold keptCode at h
  dsimp only at h
  split at h
  · rw [Text.toList_strip] at h
    exact (Text.stripChars_trimmed content.toList).2 c h
  · have hend : truncationMark.toList.getLast? = some 'd' := by decide
    rw [String.toList_append, List.getLast?_append, hend] at h
    cases h
    decide

/-! ## §2. Pieces of code. -/

/-- What the run of a piece of code shows: the piece, or a space for a blank one. -/
def shownPiece (piece : String) : String := if Text.isBlank piece then " " else piece

theorem shownPiece_of_visible {piece : String} (h : Text.isBlank piece = false) :
    shownPiece piece = piece := by
  unfold shownPiece
  rw [if_neg (by rw [h]; exact Bool.false_ne_true)]

theorem shownPiece_of_blank {piece : String} (h : Text.isBlank piece = true) :
    shownPiece piece = " " := if_pos h

/-- A piece that is not too long is shown as it is, unless it is blank. -/
theorem content_plain {piece : String} (h : piece.length ≤ Run.maxChars) :
    (Run.plain piece).content = shownPiece piece := by
  unfold Run.plain Run.of shownPiece
  split
  · rfl
  · show Run.clipped piece = piece
    exact if_neg (Nat.not_lt_of_le h)

/-- A piece of a text is as long as a run may be, or it is the end of the text. -/
theorem mem_textChunks {s piece : String} (h : piece ∈ textChunks Run.maxChars s) :
    piece.length ≤ Run.maxChars
      ∧ (s ≠ "" → piece.length = Run.maxChars ∨ piece.toList <:+ s.toList) := by
  have hsize : 1 ≤ Run.maxChars := by decide
  by_cases hs : s = ""
  · rw [hs, textChunks_empty] at h
    rw [List.mem_singleton.mp h]
    exact ⟨Nat.zero_le _, fun hne => absurd hs hne⟩
  · rw [textChunks_of_ne _ hs] at h
    obtain ⟨cs, hcs, rfl⟩ := List.mem_map.mp h
    rw [String.length_ofList, String.toList_ofList]
    exact ⟨(mem_chunks hsize hcs).2, fun _ => mem_chunks_full hsize hcs⟩

/-- Code is shown in as many runs as it has pieces, each of which shows its piece. -/
theorem contents_textChunks (code : String) :
    ((textChunks Run.maxChars code).map Run.plain).map Run.content
      = (textChunks Run.maxChars code).map shownPiece := by
  rw [List.map_map]
  exact List.map_congr_left fun piece hpiece => content_plain (mem_textChunks hpiece).1

/-- One run that is shorter than its piece leaves all of them shorter than their pieces. -/
theorem length_join_plain_lt {pieces : List String} (h : ∀ p ∈ pieces, 1 ≤ p.length)
    {piece : String} (hmem : piece ∈ pieces)
    (hlt : (Run.plain piece).content.length < piece.length) :
    (String.join (pieces.map fun p => (Run.plain p).content)).length
      < (String.join pieces).length := by
  induction pieces with
  | nil => exact absurd hmem List.not_mem_nil
  | cons p pieces ih =>
      have hrest : ∀ q ∈ pieces, 1 ≤ q.length := fun q hq => h q (List.mem_cons_of_mem p hq)
      rw [List.map_cons, String.join_cons, String.join_cons, String.length_append,
        String.length_append]
      rcases List.mem_cons.mp hmem with hhead | hlater
      · rw [← hhead]
        have hle := length_join_plain hrest
        omega
      · have hle := length_content_plain (h p List.mem_cons_self)
        have hlt' := ih hrest hlater
        omega

/-- A blank piece of code is full, so that the run that stands for it is shorter. -/
theorem length_blank_piece {content piece : String} (hne : keptCode content ≠ "")
    (h : piece ∈ textChunks Run.maxChars (keptCode content)) (hblank : Text.isBlank piece = true) :
    piece.length = Run.maxChars := by
  rcases (mem_textChunks h).2 hne with hlength | ⟨before, hbefore⟩
  · exact hlength
  · exfalso
    -- The end of the code is visible, so no blank piece stands there.
    have hnonempty : piece.toList ≠ [] := by
      rw [← List.length_pos_iff, String.length_toList]
      exact length_pos_textChunks Run.maxChars (by decide) hne piece h
    have hlast := List.getLast?_eq_some_getLast hnonempty
    have hend : (keptCode content).toList.getLast? = some (piece.toList.getLast hnonempty) := by
      rw [← hbefore, List.getLast?_append, hlast]
      rfl
    have hvisible := visible_end_keptCode content hend
    rw [(Text.isBlank_iff piece).mp hblank _ (List.getLast_mem hnonempty)] at hvisible
    cases hvisible

/-- What is shown is the code that is kept exactly if no piece of it is blank. -/
theorem join_shown_iff (content : String) :
    String.join ((textChunks Run.maxChars (keptCode content)).map shownPiece) = keptCode content
      ↔ ∀ piece ∈ textChunks Run.maxChars (keptCode content), Text.isBlank piece = false := by
  constructor
  · intro hjoin piece hpiece
    rw [Bool.eq_false_iff]
    intro hblank
    by_cases hne : keptCode content = ""
    · -- A block without code shows a space.
      rw [hne, textChunks_empty] at hjoin
      exact absurd hjoin (by decide)
    · have hlength := length_blank_piece hne hpiece hblank
      have hpos := length_pos_textChunks Run.maxChars (by decide) hne
      have hlt : (Run.plain piece).content.length < piece.length := by
        rw [content_plain (mem_textChunks hpiece).1, shownPiece_of_blank hblank, hlength]
        decide
      have hshorter := length_join_plain_lt hpos hpiece hlt
      have hcontents := contents_textChunks (keptCode content)
      rw [List.map_map] at hcontents
      rw [← hcontents] at hjoin
      change String.join (List.map (fun p => (Run.plain p).content) _) = _ at hjoin
      rw [hjoin, join_textChunks] at hshorter
      exact absurd hshorter (Nat.lt_irrefl _)
  · intro hvisible
    have hsame : (textChunks Run.maxChars (keptCode content)).map shownPiece
        = textChunks Run.maxChars (keptCode content) :=
      (List.map_congr_left fun piece hpiece => shownPiece_of_visible (hvisible piece hpiece)).trans
        (List.map_id _)
    rw [hsame, join_textChunks]

/-! ## §3. Blocks of code. -/

theorem makeCode_yields (content : String) (language : Json) (caption : Option String) :
    Yields (makeCode content language caption)
      (.code ((textChunks Run.maxChars (keptCode content)).map Run.plain)
        (Language.ofJson language Language.default) (captionRuns caption)) :=
  (fittedCode_yields content).bind (yields_pure _)

/-- **A block shows code as it was written exactly if no piece of it is blank**: it keeps the trimmed
code, or the first of it and the mark of a cut, and its runs are the pieces of that, of 2000
characters each, but for a space in place of a blank piece. -/
theorem code_kept_iff (content : String) (language : Json) (caption : Option String) :
    ∃ code runs,
      code = (if (Text.strip content).length ≤ 50000 then Text.strip content
          else Text.takeChars (50000 - truncationMark.length) (Text.strip content) ++ truncationMark)
        ∧ code.length = min 50000 (Text.strip content).length
        ∧ (∀ j, (makeCode content language caption j).1
            = .code runs (Language.ofJson language Language.default) (captionRuns caption))
        ∧ (∀ r ∈ runs, 1 ≤ r.content.length ∧ r.content.length ≤ 2000)
        ∧ runs.map Run.content = (textChunks 2000 code).map shownPiece
        ∧ (String.join (runs.map Run.content) = code
            ↔ ∀ piece ∈ textChunks 2000 code, Text.isBlank piece = false) := by
  have hcontents := contents_textChunks (keptCode content)
  refine ⟨keptCode content, _, rfl, length_keptCode content,
    (makeCode_yields content language caption).result, ?_, hcontents, ?_⟩
  · intro r hr
    obtain ⟨piece, hpiece, rfl⟩ := List.mem_map.mp hr
    have hlength := (mem_textChunks hpiece).1
    rw [content_plain hlength]
    by_cases hblank : Text.isBlank piece = true
    · rw [shownPiece_of_blank hblank]
      exact ⟨by decide, by decide⟩
    · rw [shownPiece_of_visible (Bool.eq_false_iff.mpr hblank)]
      exact ⟨Text.length_pos_of_visible (Bool.eq_false_iff.mpr hblank), hlength⟩
  · rw [hcontents]
    exact join_shown_iff content

/-- Two letters with 3999 blanks between them. -/
def farApart : List Char := 'x' :: List.replicate 1999 ' ' ++ (List.replicate 2000 ' ' ++ ['y'])

theorem length_farApart : farApart.length = 4001 := by
  unfold farApart
  rw [List.length_append, List.length_append, List.length_cons, List.length_replicate,
    List.length_replicate]
  rfl

theorem strip_farApart : Text.strip (String.ofList farApart) = String.ofList farApart := by
  apply Text.strip_of_trimmed
  rw [String.toList_ofList]
  refine ⟨fun c hc => ?_, fun c hc => ?_⟩
  · cases hc
    decide
  · unfold farApart at hc
    rw [List.getLast?_append, List.getLast?_append] at hc
    cases hc
    decide

theorem keptCode_farApart : keptCode (String.ofList farApart) = String.ofList farApart := by
  unfold keptCode
  rw [strip_farApart]
  refine if_pos ?_
  rw [String.length_ofList, length_farApart]
  decide

/-- The second of their three pieces is blank. -/
theorem textChunks_farApart : textChunks Run.maxChars (String.ofList farApart)
    = [String.ofList ('x' :: List.replicate 1999 ' '), String.ofList (List.replicate 2000 ' '), "y"] := by
  have hchunks : chunks 2000 farApart
      = ['x' :: List.replicate 1999 ' ', List.replicate 2000 ' ', ['y']] := by
    unfold chunks
    rw [length_farApart]
    unfold farApart
    rw [piecesOf_append (by rw [List.length_cons, List.length_replicate]),
      piecesOf_append (by rw [List.length_replicate])]
    rfl
  have hne : String.ofList farApart ≠ "" := by
    intro hnil
    have hchars := congrArg String.toList hnil
    rw [String.toList_ofList] at hchars
    cases hchars
  rw [textChunks_of_ne _ hne, String.toList_ofList]
  show (chunks 2000 farApart).map String.ofList = _
  rw [hchunks]
  rfl

/-- The blanks between two letters that are far apart are not all shown. -/
theorem blank_piece_lost :
    Text.strip (String.ofList farApart) = String.ofList farApart
      ∧ (String.ofList farApart).length = 4001
      ∧ ∃ runs, (∀ j, (makeCode (String.ofList farApart) (.str Language.default) none j).1
            = .code runs (Language.ofJson (.str Language.default) Language.default) [])
          ∧ runs.map Run.content = [String.ofList ('x' :: List.replicate 1999 ' '), " ", "y"]
          ∧ String.join (runs.map Run.content) ≠ String.ofList farApart := by
  have hfirst : Text.isBlank (String.ofList ('x' :: List.replicate 1999 ' ')) = false := by
    unfold Text.isBlank
    rw [String.toList_ofList]
    rfl
  have hsecond : Text.isBlank (String.ofList (List.replicate 2000 ' ')) = true := by
    rw [Text.isBlank_iff, String.toList_ofList]
    intro c hc
    rw [List.eq_of_mem_replicate hc]
    decide
  have hcontents := contents_textChunks (String.ofList farApart)
  have hall := (join_shown_iff (String.ofList farApart)).mp
  have hmade := makeCode_yields (String.ofList farApart) (.str Language.default) none
  rw [keptCode_farApart] at hall hmade
  refine ⟨strip_farApart, by rw [String.length_ofList, length_farApart], _, hmade.result, ?_, ?_⟩
  · rw [hcontents, textChunks_farApart, List.map_cons, List.map_cons, shownPiece_of_visible hfirst,
      shownPiece_of_blank hsecond]
    rfl
  · intro hjoin
    rw [hcontents] at hjoin
    have hvisible := hall hjoin (String.ofList (List.replicate 2000 ' '))
      (by rw [textChunks_farApart]; exact List.mem_cons_of_mem _ List.mem_cons_self)
    rw [hsecond] at hvisible
    cases hvisible

end Syllabus.Block
