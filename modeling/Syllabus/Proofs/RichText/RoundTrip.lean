/-
  Syllabus.Proofs.RichText.RoundTrip
  ──────────────────────────────────
  **A TEXT THAT IS WRITTEN FROM PIECES IS READ AS THOSE PIECES.**

  Every mark finds its own pieces, so all finds together are those of the
  marked pieces, and no two start at the same place: once they are in order
  they are what was written.  Cutting the text up at them gives back the
  plain pieces in between.

      allFinds_written   all finds, in order, are those of the marked pieces
      pieces_written     cutting the text up gives back the pieces
      runs_written       and each piece gives its run, with nothing reported
-/
import Mathlib.Data.List.Nodup
import Syllabus.Proofs.Journal.Notes
import Syllabus.Proofs.RichText.Finding

namespace Syllabus.Markup

/-! ## §1. All finds in order. -/

/-- Finds that are sought mark by mark are all there, in some order. -/
theorem perm_of_marks (fs : List Find) {marks : List Mark} (h : marks.Nodup) :
    (marks.flatMap fun m => fs.filter fun f => f.mark = m).Perm
      (fs.filter fun f => f.mark ∈ marks) := by
  induction marks with
  | nil =>
      rw [List.filter_eq_nil_iff.mpr]
      · exact List.Perm.nil
      · intro f _ hmem
        exact absurd (of_decide_eq_true hmem) List.not_mem_nil
  | cons m marks ih =>
      rw [List.nodup_cons] at h
      have hown : (fs.filter fun f => f.mark ∈ m :: marks).filter (fun f => f.mark = m)
          = fs.filter fun f => f.mark = m := by
        rw [List.filter_filter]
        refine List.filter_congr fun f _ => ?_
        by_cases hm : f.mark = m
        · simp [hm]
        · simp [hm]
      have hothers : (fs.filter fun f => f.mark ∈ m :: marks).filter (fun f => !decide (f.mark = m))
          = fs.filter fun f => f.mark ∈ marks := by
        rw [List.filter_filter]
        refine List.filter_congr fun f _ => ?_
        by_cases hm : f.mark = m
        · simp [hm, h.1]
        · simp [hm]
      -- The finds of the first mark, and then all others, which are those of the other marks.
      have hsplit := List.filter_append_perm (fun f : Find => decide (f.mark = m))
        (fs.filter fun f => f.mark ∈ m :: marks)
      rw [hown, hothers] at hsplit
      rw [List.flatMap_cons]
      exact ((ih h.2).append_left _).trans hsplit

theorem start_le_of_markedFrom {ps : List Piece} : ∀ {start : Nat},
    ∀ f ∈ markedFrom start ps, start ≤ f.start := by
  induction ps with
  | nil => intro start f hf; exact absurd hf List.not_mem_nil
  | cons p ps ih =>
      intro start f hf
      cases p with
      | plain text => exact Nat.le_of_add_right_le (ih f hf)
      | marked mark label url =>
          rcases List.mem_cons.mp hf with hfirst | hrest
          · rw [hfirst]
            exact Nat.le_refl start
          · exact Nat.le_of_add_right_le (ih f hrest)

theorem written_marked_pos (mark : Mark) (label : List Char) (url : Option (List Char)) :
    0 < (Piece.marked mark label url).written.length := by
  show 0 < (mark.opening ++ (label ++ mark.closing url)).length
  have hopening : 0 < mark.opening.length := by cases mark <;> decide
  rw [List.length_append]
  omega

/-- The marked pieces start one after the other. -/
theorem markedFrom_increasing {ps : List Piece} : ∀ {start : Nat},
    (markedFrom start ps).Pairwise fun f g => f.start < g.start := by
  induction ps with
  | nil => intro start; exact List.Pairwise.nil
  | cons p ps ih =>
      intro start
      cases p with
      | plain text => exact ih
      | marked mark label url =>
          refine List.Pairwise.cons ?_ ih
          intro g hg
          have hle := start_le_of_markedFrom g hg
          have hpos := written_marked_pos mark label url
          show start < g.start
          omega

theorem starts_trans (f g k : Find) (hfg : decide (f.start ≤ g.start) = true)
    (hgk : decide (g.start ≤ k.start) = true) : decide (f.start ≤ k.start) = true := by
  rw [decide_eq_true_eq] at hfg hgk ⊢
  exact Nat.le_trans hfg hgk

theorem starts_total (f g : Find) :
    (decide (f.start ≤ g.start) || decide (g.start ≤ f.start)) = true := by
  rw [Bool.or_eq_true, decide_eq_true_eq, decide_eq_true_eq]
  exact Nat.le_total f.start g.start

theorem allFinds_sorted (cs : List Char) : (allFinds cs).Pairwise fun f g => f.start ≤ g.start :=
  (List.pairwise_mergeSort starts_trans starts_total _).imp of_decide_eq_true

/-- All finds in a text that is put together from pieces are those of its marked pieces. -/
theorem allFinds_written {ps : List Piece} (h : Fitting ps) :
    allFinds (written ps) = markedFrom 0 ps := by
  have hperm : (allFinds (written ps)).Perm (markedFrom 0 ps) := by
    unfold allFinds
    refine (List.mergeSort_perm _ _).trans ?_
    have heach : (fun mark => finds mark (written ps))
        = fun mark => (markedFrom 0 ps).filter fun f => f.mark = mark := by
      funext mark
      exact findsFrom_written mark h fun _ _ _ hnone => nomatch hnone
    have hall : (markedFrom 0 ps).filter (fun f => f.mark ∈ Mark.all) = markedFrom 0 ps := by
      rw [List.filter_eq_self]
      intro f _
      cases f.mark <;> decide
    have hmarks := perm_of_marks (markedFrom 0 ps) (by decide : Mark.all.Nodup)
    rw [hall] at hmarks
    rw [heach]
    exact hmarks
  -- Two lists of the same finds, both in order, are equal if no two finds start at one place.
  have hsorted := allFinds_sorted (written ps)
  have hstarts : ((markedFrom 0 ps).map Find.start).Nodup :=
    List.pairwise_map.mpr (markedFrom_increasing.imp Nat.ne_of_lt)
  refine hperm.eq_of_pairwise ?_ hsorted (markedFrom_increasing.imp Nat.le_of_lt)
  intro f g hf hg hle hge
  exact List.inj_on_of_nodup_map hstarts (hperm.mem_iff.mp hf) hg (Nat.le_antisymm hle hge)

/-! ## §2. Cutting up. -/

theorem pieces_of_nonempty {cs : List Char} (h : cs ≠ []) :
    pieces cs = piecesFrom cs 0 (allFinds cs) := by
  unfold pieces
  cases allFinds cs with
  | nil => exact (if_pos (List.length_pos_iff.mpr h)).symm
  | cons f fs => rfl

/-- What is in front of a find is plain. -/
theorem piecesFrom_gap {cs : List Char} {offset : Nat} {f : Find} {fs : List Find}
    (h : offset < f.start) :
    piecesFrom cs offset (f :: fs)
      = .plain ((cs.drop offset).take (f.start - offset)) :: piecesFrom cs f.start (f :: fs) := by
  rw [piecesFrom, if_neg (Nat.lt_asymm h), if_pos h, piecesFrom, if_neg (Nat.lt_irrefl _),
    if_neg (Nat.lt_irrefl _)]
  rfl

/-- Where a find starts, its piece comes first. -/
theorem piecesFrom_find {cs : List Char} {f : Find} {fs : List Find} :
    piecesFrom cs f.start (f :: fs) = .marked f.mark f.label f.url :: piecesFrom cs f.stop fs := by
  rw [piecesFrom, if_neg (Nat.lt_irrefl _), if_neg (Nat.lt_irrefl _)]
  rfl

/-- A text that is put together from pieces is cut up into them. -/
theorem piecesFrom_written {ps : List Piece} (h : Fitting ps) : ∀ before : List Char,
    piecesFrom (before ++ written ps) before.length (markedFrom before.length ps) = ps := by
  induction h with
  | nil =>
      intro before
      refine if_neg ?_
      rw [show written [] = [] from rfl, List.append_nil]
      exact Nat.lt_irrefl _
  | @cons p ps hp hnext h ih =>
      intro before
      have hrest := ih (before ++ p.written)
      rw [List.append_assoc, List.length_append] at hrest
      change piecesFrom (before ++ (p.written ++ written ps)) _ _ = _ at hrest
      show piecesFrom (before ++ (p.written ++ written ps)) _ _ = _
      cases hp with
      | @marked mark label url hlabel hline hurl hweb =>
          refine (piecesFrom_find (f := findOf before.length mark label url)).trans ?_
          exact congrArg (Piece.marked mark label url :: ·) hrest
      | @plain text hfree =>
          have hpos : 0 < text.length := List.length_pos_iff.mpr hfree.nonempty
          show piecesFrom (before ++ (text ++ written ps)) before.length
            (markedFrom (before.length + text.length) ps) = _
          change piecesFrom (before ++ (text ++ written ps)) (before.length + text.length)
            (markedFrom (before.length + text.length) ps) = ps at hrest
          cases ps with
          | nil =>
              rw [show written [] = [] from rfl, List.append_nil]
              show (if before.length < (before ++ text).length then
                [Piece.plain ((before ++ text).drop before.length)] else []) = _
              rw [if_pos (by rw [List.length_append]; omega), List.drop_left]
          | cons q ps =>
              -- The next piece is a marked one, so its find is where this one ends.
              cases q with
              | plain other => exact absurd rfl (hnext (.plain other) rfl)
              | marked mark label url =>
                  change piecesFrom _ _ (findOf (before.length + text.length) mark label url :: _)
                    = _ at hrest
                  show piecesFrom _ _ (findOf (before.length + text.length) mark label url :: _) = _
                  have hstart : (findOf (before.length + text.length) mark label url).start
                      = before.length + text.length := rfl
                  rw [piecesFrom_gap (by rw [hstart]; omega), hstart, hrest, List.drop_left,
                    Nat.add_sub_cancel_left, List.take_left]

theorem written_ne_nil {ps : List Piece} (hne : ps ≠ []) (h : Fitting ps) : written ps ≠ [] := by
  cases h with
  | nil => exact absurd rfl hne
  | @cons p ps hp hnext h =>
      have hp' : p.written ≠ [] := by
        cases hp with
        | plain hfree => exact hfree.nonempty
        | marked => exact List.length_pos_iff.mp (written_marked_pos _ _ _)
      exact fun hnil => hp' (List.append_eq_nil_iff.mp hnil).1

/-- Cutting up a text that is put together from pieces gives them back. -/
theorem pieces_written {ps : List Piece} (hne : ps ≠ []) (h : Fitting ps) :
    pieces (written ps) = ps := by
  rw [pieces_of_nonempty (written_ne_nil hne h), allFinds_written h]
  exact piecesFrom_written h []

/-! ## §3. Runs. -/

/-- The run that a piece is to give: its text or its label, in the one style of its mark or with
its link. -/
def Piece.expected : Piece → Run
  | .plain text => Run.plain (String.ofList text)
  | .marked mark label url => Run.of (String.ofList label) mark.style (url.map String.ofList)

/-- A piece that fits gives its run, and nothing is reported. -/
theorem gives_run {p : Piece} (h : p.Fits) : Writing.Gives p.run p.expected {} := by
  cases h with
  | plain => exact Writing.gives_pure _
  | @marked mark label url hlabel hline hurl hweb =>
      -- A style has no link, and the URL of a link is a web address, so nothing is dropped.
      have hlink : Run.checkedLink (Json.ofOption (url.map String.ofList))
          = pure (url.map String.ofList) := by
        cases hurl with
        | style => rfl
        | @link url hne htarget =>
            have htruthy : (Json.str (String.ofList url)).isTruthy = true := by
              show (!(String.ofList url).isEmpty) = true
              simpa [String.isEmpty_iff] using hne
            show (if !(Json.str (String.ofList url)).isTruthy then _
              else if Url.isWeb (String.ofList url) then _ else _) = _
            rw [htruthy, if_neg (by decide), if_pos (hweb url rfl)]
            rfl
      intro j
      show (Run.checkedLink (Json.ofOption (url.map String.ofList)) >>= fun link =>
        pure (Run.of (String.ofList label) mark.style link)) j = _
      rw [hlink]
      exact Writing.gives_pure _ j

theorem gives_runs {ps : List Piece} (h : Fitting ps) :
    Writing.Gives (ps.mapM Piece.run) (ps.map Piece.expected) {} := by
  induction h with
  | nil => exact Writing.gives_pure []
  | @cons p ps hp hnext h ih =>
      rw [List.mapM_cons]
      show Writing.Gives _ _ ({} ++ ({} ++ {}))
      exact (gives_run hp).bind (ih.bind (Writing.gives_pure _))

/-- **A text that is written from pieces is read as those pieces**, one run for each, in order, and
nothing is reported. -/
theorem runs_written {ps : List Piece} (hne : ps ≠ []) (h : Fitting ps) (j : Journal) :
    runs (String.ofList (written ps)) j = (ps.map Piece.expected, j) := by
  have hruns := gives_runs h j
  rw [Journal.noted_none] at hruns
  unfold runs
  rw [String.toList_ofList, pieces_written hne h]
  exact hruns

/-- Whether a text is unmarked can be computed. -/
theorem isUnmarked_of_all {cs : List Char} (hne : cs ≠ [])
    (h : (cs.all fun c => !markers.contains c) = true) : IsUnmarked cs where
  nonempty := hne
  free := by
    intro c hc hmarker
    have hnone := List.all_eq_true.mp h c hc
    rw [List.contains_iff_mem.mpr hmarker] at hnone
    exact absurd hnone (by decide)

/-- A URL goes on after characters that may stand in one. -/
theorem IsTarget.after {url : List Char} (h : IsTarget url) {cs : List Char}
    (hcs : (cs.all fun c => isUrlChar c && !markers.contains c) = true) : IsTarget (cs ++ url) := by
  induction cs with
  | nil => exact h
  | cons c cs ih =>
      rw [List.all_cons, Bool.and_eq_true, Bool.and_eq_true] at hcs
      obtain ⟨⟨hurl, hfree⟩, hrest⟩ := hcs
      refine .char ⟨hurl, fun hmarker => ?_⟩ (ih hrest)
      rw [List.contains_iff_mem.mpr hmarker] at hfree
      exact absurd hfree (by decide)

/-- A bold word, a plain one between two stars that are not next to each other, and a link whose
URL has parentheses. -/
theorem runs_written_link :
    runs "**a**b*c* d [e](http://f.g/h_(i))" {}
      = ([Run.bold "a", Run.plain "b", Run.of "c" { italic := true } none, Run.plain " d ",
          Run.of "e" {} (some "http://f.g/h_(i)")], {}) := by
  have hinside : ∀ c ∈ ['i'], IsTargetChar c := by
    intro c hc
    rw [List.mem_singleton.mp hc]
    exact ⟨by decide, by decide⟩
  have hgroup : IsTarget "(i)".toList := IsTarget.group hinside .nil
  have htarget : IsTarget ("http://f.g/h_".toList ++ "(i)".toList) := hgroup.after (by decide)
  have hstyled : ∀ mark c, mark ≠ Mark.link → c ∉ markers → c ≠ '\n' →
      (Piece.marked mark [c] none).Fits := by
    intro mark c hmark hfree hline
    refine .marked (isUnmarked_of_all (by simp) (by simp [hfree])) ?_ (.style hmark) fun _ h => nomatch h
    exact fun h => hline (List.mem_singleton.mp h).symm
  have hlink : (Piece.marked .link ['e'] (some "http://f.g/h_(i)".toList)).Fits := by
    refine .marked (isUnmarked_of_all (by decide) (by decide)) (by simp)
      (.link (by decide) htarget) ?_
    intro u hu
    rw [← Option.some.inj hu]
    decide
  have hfits : Fitting [.marked .bold ['a'] none, .plain ['b'], .marked .italic ['c'] none,
      .plain " d ".toList, .marked .link ['e'] (some "http://f.g/h_(i)".toList)] := by
    refine .cons (hstyled .bold 'a' (by decide) (by decide) (by decide)) (by simp [Piece.isPlain]) ?_
    refine .cons (.plain (isUnmarked_of_all (by decide) (by decide))) (by simp [Piece.isPlain]) ?_
    refine .cons (hstyled .italic 'c' (by decide) (by decide) (by decide)) (by simp [Piece.isPlain]) ?_
    refine .cons (.plain (isUnmarked_of_all (by decide) (by decide))) (by simp [Piece.isPlain]) ?_
    exact .cons hlink (by simp) .nil
  exact runs_written (by decide) hfits {}

end Syllabus.Markup
