/-
  Syllabus.Proofs.Block.Reporting
  ───────────────────────────────
  **BUILDERS RECORD WHAT THEY LOG.**

  A builder of blocks that has the collector of the run hands it on, so all
  that it logs is recorded.  For the builders that templates call without it
  the lemmas say what that is: the dropped links of the text, and code that was
  cut (`cutCode`).  For the others it is enough that there is such a list.
-/
import Syllabus.Proofs.Block.Tables
import Syllabus.Proofs.RichText.Dropping

namespace Syllabus.Block

open Writing

/-! ## §1. Texts. -/

section Texts

variable {input : TextInput} {markup : Bool} {rs : List Report}
  (h : Reports (input.runs? markup) rs) (color : String) (children : List Block)

include h

theorem makeParagraph_reports : Reports (makeParagraph input color children markup) rs := by
  have hparagraph := h.then_pure fun o =>
    o.map fun runs => Block.paragraph runs (colored color) children
  unfold makeParagraph
  convert hparagraph using 2
  funext o
  cases o <;> rfl

theorem makeHeading_reports (level : HeadingLevel) (toggleable : Bool) :
    Reports (makeHeading level input color toggleable children markup) rs :=
  (TextInput.orBlank_reports h).then_pure _

theorem makeCallout_reports (icon : String) :
    Reports (makeCallout input icon color children markup) rs :=
  (TextInput.orBlank_reports h).then_pure _

theorem makeQuote_reports : Reports (makeQuote input color children markup) rs :=
  (TextInput.orBlank_reports h).then_pure _

theorem makeEntry_reports (marker : Marker) :
    Reports (makeEntry marker input color children markup) rs :=
  (TextInput.orBlank_reports h).then_pure _

theorem makeToggle_reports : Reports (makeToggle input color children markup) rs :=
  (TextInput.orBlank_reports h).then_pure _

end Texts

/-! ## §2. Code. -/

/-- What is reported of code: that it was cut, if it is too long. -/
def cutCode (content : String) : List Report :=
  if maxCodeChars < (Text.strip content).length then
    [("code_truncated",
      s!"Code block truncated from {(Text.strip content).length} to {maxCodeChars} chars")]
  else []

theorem makeCode_reports (content : String) (language : Json) (caption : Option String) :
    Reports (makeCode content language caption) (cutCode content) := by
  have hfitted : Reports (fittedCode content) (cutCode content) := by
    unfold fittedCode cutCode
    dsimp only
    split
    · exact (reports_report _ _ _ _).then_pure _
    · exact reports_pure _
  exact hfitted.then_pure _

@[simp] theorem cutCode_strip (content : String) : cutCode (Text.strip content) = cutCode content := by
  unfold cutCode
  rw [Text.strip_strip]

theorem cutCode_of_isBlank {content : String} (h : Text.isBlank content = true) :
    cutCode content = [] := by
  have hempty : Text.strip content = "" := by
    rw [← String.isEmpty_iff, Text.isEmpty_strip]
    exact h
  unfold cutCode
  rw [hempty]
  rfl

/-! ## §3. Addresses. -/

theorem withUrl_reports (kind : String) (url : Json) (make : String → Block) :
    ∃ rs, Reports (withUrl kind url make) rs := by
  have hbad : ∃ rs, Reports (badUrl kind url) rs :=
    ⟨_, (reports_report _ _ _ _).then_pure fun _ => _⟩
  unfold withUrl
  split
  · split
    · exact ⟨[], reports_pure _⟩
    · exact hbad
  · exact hbad

theorem makeMedia_reports (kind : MediaKind) (url : Json) (caption : Option String) :
    ∃ rs, Reports (makeMedia kind url caption) rs :=
  withUrl_reports kind.name url fun address => .media kind address (captionRuns caption)

theorem makeFile_reports (url : Json) (name caption : Option String) :
    ∃ rs, Reports (makeFile url name caption) rs :=
  withUrl_reports "file" url fun address => .file address (captionRuns caption) (fileName name)

theorem makeEmbed_reports (url : Json) : ∃ rs, Reports (makeEmbed url) rs :=
  withUrl_reports "embed" url .embed

theorem makeBookmark_reports (url : Json) (caption : Option String) :
    ∃ rs, Reports (makeBookmark url caption) rs :=
  withUrl_reports "bookmark" url fun address => .bookmark address (captionRuns caption)

theorem makeLinkPreview_reports (url : Json) (caption : Option String) :
    ∃ rs, Reports (makeLinkPreview url caption) rs := by
  obtain ⟨rs, hbookmark⟩ := makeBookmark_reports url caption
  exact ⟨_, (reports_report _ _ _ _).bind fun _ => hbookmark⟩

/-! ## §4. Tables. -/

/-- What is logged of uneven rows is no degradation. -/
theorem makeTable_reports (rows : List (List String)) (columnHeader rowHeader : Bool) :
    Reports (makeTable (rows.map fun row => row.map .str) columnHeader rowHeader) [] := by
  obtain ⟨b, n, hgives, htable⟩ := makeTable_tabulates rows columnHeader rowHeader
  refine ⟨b, n, hgives, ?_, ?_⟩
  · rw [Notes.recorded, htable.found, List.map_nil]
  · rw [Notes.logged, htable.remarks, unevenRows, List.filterMap_map]
    exact List.filterMap_eq_nil_iff.mpr fun _ _ => rfl

end Syllabus.Block
