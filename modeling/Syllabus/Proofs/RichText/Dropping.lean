/-
  Syllabus.Proofs.RichText.Dropping
  ─────────────────────────────────
  **WHICH LINKS OF A TEXT ARE DROPPED.**

  A link in a text keeps its label and loses its URL if that is no web
  address, and the loss is reported.  What is reported of a text can be read
  off its pieces:

      Markup.droppedLinks   the reports of the links of a text
      Wording.dropped       the same of the text of an item
      runs?_reports         these and no others are reported

  A text without an opening bracket has no link (`droppedLinks_eq_nil`).
-/
import Syllabus.Proofs.Journal.Overlooking
import Syllabus.Proofs.RichText.Finding
import Syllabus.Proofs.RichText.Runs
import Syllabus.Proofs.Text.Trimming
import Syllabus.RichText.Input

namespace Syllabus

open Writing

/-! ## §1. Reports of links. -/

/-- What is reported of a link: that it is dropped, unless it is absent or a web address. -/
def droppedLink : Option String → List Report
  | some url =>
      if url.isEmpty || Url.isWeb url then [] else [("invalid_link", Run.badLinkMessage (.str url))]
  | none => []

theorem Run.linked_reports (content : String) (style : Style) (link : Option String) :
    Reports (Run.linked content style (Json.ofOption link)) (droppedLink link) := by
  have hchecked : Reports (Run.checkedLink (Json.ofOption link)) (droppedLink link) := by
    cases link with
    | none => exact reports_pure none
    | some url =>
        show Reports (Run.checkedLink (.str url)) (droppedLink (some url))
        rw [Run.checkedLink_str]
        unfold droppedLink
        dsimp only
        split
        · exact reports_pure _
        · exact (reports_report _ _ _ _).then_pure fun _ => none
  exact hchecked.then_pure _

namespace Markup

/-- What is reported of a piece. -/
def Piece.dropped : Piece → List Report
  | .plain _ => []
  | .marked _ _ url => droppedLink (url.map String.ofList)

/-- What is reported of the links of a text. -/
def droppedLinks (text : String) : List Report :=
  (pieces (Text.strip text).toList).flatMap Piece.dropped

theorem Piece.run_reports (p : Piece) : Reports p.run p.dropped := by
  cases p with
  | plain text => exact reports_pure _
  | marked mark label url => exact Run.linked_reports _ _ _

theorem runs_reports (text : String) :
    Reports (runs text) ((pieces text.toList).flatMap Piece.dropped) :=
  Reports.mapM fun p _ => p.run_reports

end Markup

/-! ## §2. Texts without links. -/

namespace Markup

theorem label?_closing {mark : Mark} {cs label : List Char} {closing : Closing}
    (h : label? mark cs = some (label, closing)) :
    ∃ last rest, closing? mark last rest = some closing := by
  induction cs generalizing label with
  | nil => exact absurd h (by simp [label?])
  | cons c cs ih =>
      unfold label? at h
      split at h
      · cases h
      · split at h
        · rename_i found hfound
          cases h
          exact ⟨c, cs, hfound⟩
        · obtain ⟨⟨label', closing'⟩, hrest, heq⟩ := Option.map_eq_some_iff.mp h
          cases heq
          exact ih hrest

/-- Only a link has a URL. -/
theorem mark_of_closing {mark : Mark} {last : Char} {cs url : List Char} {n : Nat}
    (h : closing? mark last cs = some (some url, n)) : mark = .link := by
  unfold closing? at h
  split at h
  · cases h
  · split at h <;> cases h
  · split at h <;> cases h
  · cases h
  · rfl
  · cases h

theorem mem_of_findAt? {mark : Mark} {start : Nat} {before : Option Char} {cs : List Char}
    {f : Find} (h : findAt? mark start before cs = some f) (hurl : f.url ≠ none) : '[' ∈ cs := by
  unfold findAt? at h
  obtain ⟨⟨rest, opened⟩, hopening, h⟩ := Option.bind_eq_some_iff.mp h
  obtain ⟨⟨label, url, closed⟩, hlabel, h⟩ := Option.bind_eq_some_iff.mp h
  cases h
  obtain ⟨last, after, hclosing⟩ := label?_closing hlabel
  cases url with
  | none => exact absurd rfl hurl
  | some url =>
      rw [mark_of_closing hclosing] at hopening
      -- Of all marks only a link is left, and it opens with a bracket.
      cases cs with
      | nil => cases hopening
      | cons c cs =>
          by_cases hc : c = '['
          · rw [hc]
            exact List.mem_cons_self
          · rw [opening?_other (by simpa [Mark.opening] using hc)] at hopening
            cases hopening

theorem mem_of_findsFrom {mark : Mark} {cs : List Char} {f : Find} (hurl : f.url ≠ none) :
    ∀ {start skip : Nat} {before : Option Char}, f ∈ findsFrom mark start skip before cs →
      '[' ∈ cs := by
  induction cs with
  | nil => intro start skip before h; exact absurd h (by simp [findsFrom])
  | cons c cs ih =>
      intro start skip before h
      cases skip with
      | succ skip => exact List.mem_cons_of_mem c (ih h)
      | zero =>
          unfold findsFrom at h
          split at h
          · rename_i found hfound
            rcases List.mem_cons.mp h with hhead | hrest
            · exact mem_of_findAt? (hhead ▸ hfound) hurl
            · exact List.mem_cons_of_mem c (ih hrest)
          · exact List.mem_cons_of_mem c (ih h)

/-- A piece is marked because its mark was found. -/
theorem exists_find_of_piecesFrom {cs : List Char} {mark : Mark} {label : List Char}
    {url : Option (List Char)} {fs : List Find} :
    ∀ {offset : Nat}, Piece.marked mark label url ∈ piecesFrom cs offset fs →
      ∃ f ∈ fs, f.url = url := by
  induction fs with
  | nil =>
      intro offset h
      unfold piecesFrom at h
      split at h
      · exact absurd (List.mem_singleton.mp h) (by simp)
      · exact absurd h List.not_mem_nil
  | cons f fs ih =>
      intro offset h
      have hlater : ∀ {offset : Nat}, Piece.marked mark label url ∈ piecesFrom cs offset fs →
          ∃ g ∈ f :: fs, g.url = url := by
        intro offset h
        obtain ⟨g, hg, hgurl⟩ := ih h
        exact ⟨g, List.mem_cons_of_mem f hg, hgurl⟩
      unfold piecesFrom at h
      split at h
      · exact hlater h
      · rcases List.mem_append.mp h with hgap | hrest
        · split at hgap
          · exact absurd (List.mem_singleton.mp hgap) (by simp)
          · exact absurd hgap List.not_mem_nil
        · rcases List.mem_cons.mp hrest with hhead | hrest
          · cases hhead
            exact ⟨f, List.mem_cons_self, rfl⟩
          · exact hlater hrest

/-- Without an opening bracket there is no link to drop. -/
theorem flatMap_dropped_eq_nil {cs : List Char} (h : '[' ∉ cs) :
    (pieces cs).flatMap Piece.dropped = [] := by
  rw [List.flatMap_eq_nil_iff]
  intro p hp
  cases p with
  | plain text => rfl
  | marked mark label url =>
      cases url with
      | none => rfl
      | some url =>
          exfalso
          unfold pieces at hp
          split at hp
          · exact absurd (List.mem_singleton.mp hp) (by simp)
          · obtain ⟨f, hf, hfurl⟩ := exists_find_of_piecesFrom hp
            obtain ⟨m, -, hfinds⟩ := List.mem_flatMap.mp (List.mem_mergeSort.mp hf)
            exact h (mem_of_findsFrom (by rw [hfurl]; simp) hfinds)

theorem droppedLinks_eq_nil {s : String} (h : '[' ∉ s.toList) : droppedLinks s = [] :=
  flatMap_dropped_eq_nil fun hmem => h (Text.mem_of_mem_strip hmem)

end Markup

/-! ## §3. Texts of blocks. -/

/-- What is reported of the link of a segment; a blank segment is not looked at. -/
def Segment.dropped (s : Segment) : List Report :=
  if Text.isBlank s.text then [] else droppedLink s.link

/-- What is reported of the links of a text, in either form. -/
def Wording.dropped : Wording → List Report
  | .plain s => Markup.droppedLinks s
  | .segments ss => ss.flatMap Segment.dropped

theorem Segment.run?_reports (s : Segment) : Reports s.run? s.dropped := by
  unfold Segment.run? Segment.dropped
  split
  · exact reports_pure none
  · exact (Run.linked_reports s.text s.style s.link).then_pure some

namespace TextInput

theorem text_reports (s : String) :
    Reports ((TextInput.text s).runs? true) (Markup.droppedLinks s) := by
  show Reports (if (Text.strip s).isEmpty then pure none
    else do
      let runs ← Markup.runs (Text.strip s)
      pure (some runs)) _
  split
  · -- Nothing is left of the text, so there is nothing to report either.
    rename_i hempty
    have hnothing : Text.strip s = "" := String.isEmpty_iff.mp hempty
    unfold Markup.droppedLinks
    rw [hnothing, Markup.flatMap_dropped_eq_nil (by decide)]
    exact reports_pure none
  · exact (Markup.runs_reports (Text.strip s)).then_pure some

/-- A text without links reports nothing. -/
theorem text_reports_nil {s : String} (h : '[' ∉ s.toList) :
    Reports ((TextInput.text s).runs? true) [] := by
  rw [← Markup.droppedLinks_eq_nil h]
  exact text_reports s

theorem runs_reports (rs : List Run) (markup : Bool) :
    Reports ((TextInput.runs rs).runs? markup) [] := reports_pure _

/-- The text of an item reports the links that it drops. -/
theorem wording_reports (w : Wording) : Reports (w.input.runs? true) w.dropped := by
  cases w with
  | plain s => exact text_reports s
  | segments ss =>
      have hruns : Reports (Segment.runs ss) (ss.flatMap Segment.dropped) :=
        (Reports.mapM fun s _ => s.run?_reports).then_pure _
      exact hruns.then_pure someRuns

theorem orBlank_reports {input : TextInput} {markup : Bool} {rs : List Report}
    (h : Reports (input.runs? markup) rs) : Reports (input.runsOrBlank markup) rs :=
  h.then_pure _

end TextInput

end Syllabus
