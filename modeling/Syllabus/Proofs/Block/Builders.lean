/-
  Syllabus.Proofs.Block.Builders
  ──────────────────────────────
  **EVERY BUILDER GIVES A BLOCK.**

  There is one promise for each builder: whatever it is called with, it gives
  a block in its final form, as long as the children that it is handed are
  blocks; and what it may report is said with it.

      makeX_meets     what the builder of X promises

  The two that need an argument are code, where a length has to be kept over
  runs that were cut and padded, and tables, where rows have to be brought to
  one width.
-/
import Syllabus.Proofs.Block.Pieces
import Syllabus.Proofs.RichText.Runs
import Syllabus.Proofs.Text.Trimming

namespace Syllabus

/-- What is reported of a URL that is needed: that it is no web address. -/
structure Diagnostic.RefusesUrl (kind : String) (url : Json) (d : Diagnostic) : Prop where
  /-- It names what needs the URL, and the URL. -/
  found : d = ⟨"invalid_url", kind ++ ": invalid URL " ++ url.quoted, [], .warning⟩
  /-- The URL is none, in fact. -/
  refused : ∀ s, url = .str s → Url.isWeb s = false

namespace Block

open Form Writing

/-! ## §1. Texts. -/

theorem isBlock_notice (text : String) : IsBlock (notice text).toJson :=
  isBlock_paragraph (isText_singleton (isRun_plain text)) (by decide) AreBlocks.nil

section Text

variable {input : TextInput} {children : List Block} (color : String) (markup : Bool)
  (hinput : input.Sound) (hchildren : AreBlocks children)

include hinput hchildren

theorem makeParagraph_meets :
    Meets Diagnostic.DropsLink (fun o => AreBlocks o.toList)
      (makeParagraph input color children markup) := by
  refine (TextInput.runs?_meets hinput markup).bind fun o ho => ?_
  cases o with
  | none => exact meets_pure AreBlocks.nil
  | some runs =>
      exact meets_pure (AreBlocks.singleton
        (isBlock_paragraph (ho runs rfl) (colored_mem color) hchildren))

theorem makeHeading_meets (level : HeadingLevel) (toggleable : Bool) :
    Meets Diagnostic.DropsLink (fun b => IsBlock b.toJson)
      (makeHeading level input color toggleable children markup) := by
  refine (TextInput.runsOrBlank_meets hinput markup).bind fun runs hruns => meets_pure ?_
  refine isBlock_heading hruns (colored_mem color) ?_ level toggleable
  split
  · exact hchildren
  · exact AreBlocks.nil

theorem makeCallout_meets (icon : String) :
    Meets Diagnostic.DropsLink (fun b => IsBlock b.toJson)
      (makeCallout input icon color children markup) :=
  (TextInput.runsOrBlank_meets hinput markup).bind fun _ hruns =>
    meets_pure (isBlock_callout hruns (colored_mem color) hchildren _)

theorem makeQuote_meets :
    Meets Diagnostic.DropsLink (fun b => IsBlock b.toJson) (makeQuote input color children markup) :=
  (TextInput.runsOrBlank_meets hinput markup).bind fun _ hruns =>
    meets_pure (isBlock_quote hruns (colored_mem color) hchildren)

theorem makeEntry_meets (marker : Marker) :
    Meets Diagnostic.DropsLink (fun b => IsBlock b.toJson)
      (makeEntry marker input color children markup) :=
  (TextInput.runsOrBlank_meets hinput markup).bind fun _ hruns =>
    meets_pure (isBlock_entry hruns (colored_mem color) hchildren marker)

theorem makeToggle_meets :
    Meets Diagnostic.DropsLink (fun b => IsBlock b.toJson) (makeToggle input color children markup) :=
  (TextInput.runsOrBlank_meets hinput markup).bind fun _ hruns =>
    meets_pure (isBlock_toggle hruns (colored_mem color) hchildren)

end Text

/-! ## §2. Code. -/

/-- Code that was fitted is not too long. -/
theorem fittedCode_meets (content : String) :
    Meets (Diagnostic.Warns ["code_truncated"]) (fun code => code.length ≤ maxCodeChars)
      (fittedCode content) := by
  unfold fittedCode
  by_cases hlong : maxCodeChars < (Text.strip content).length
  · rw [if_pos hlong]
    refine (meets_report ⟨rfl, rfl, List.mem_singleton.mpr rfl⟩).bind fun _ _ => meets_pure ?_
    rw [String.length_append, Text.length_takeChars]
    have hmark : truncationMark.length ≤ maxCodeChars := by decide
    omega
  · rw [if_neg hlong]
    exact meets_pure (Nat.le_of_not_lt hlong)

theorem isRun_toJson_of (content : String) (style : Style) (link : Option String) :
    Run.isRun (Run.of content style link).toJson = true := by
  unfold Run.of
  split <;> rfl

theorem givenContent_toJson_of (content : String) (style : Style) (link : Option String) :
    Run.givenContent (Run.of content style link).toJson = (Run.of content style link).content := by
  unfold Run.of
  split <;> rfl

/-- The text of runs that were built is what their contents are, one after the other. -/
theorem plainText_of {rs : List Run} (h : ∀ r ∈ rs, ∃ content style link, r = Run.of content style link) :
    Run.plainText (rs.map Run.toJson) = String.join (rs.map Run.content) := by
  unfold Run.plainText
  rw [List.filter_eq_self.mpr, List.map_map]
  · refine congrArg String.join (List.map_congr_left fun r hr => ?_)
    obtain ⟨content, style, link, rfl⟩ := h r hr
    exact givenContent_toJson_of content style link
  · intro v hv
    obtain ⟨r, hr, rfl⟩ := List.mem_map.mp hv
    obtain ⟨content, style, link, rfl⟩ := h r hr
    exact isRun_toJson_of content style link

theorem plainText_plain (texts : List String) :
    Run.plainText ((texts.map Run.plain).map Run.toJson)
      = String.join (texts.map fun s => (Run.plain s).content) := by
  rw [plainText_of, List.map_map]
  · rfl
  · intro r hr
    obtain ⟨s, -, rfl⟩ := List.mem_map.mp hr
    exact ⟨s, {}, none, rfl⟩

/-- A run is no longer than its text, unless it stands for an empty one. -/
theorem length_content_plain {s : String} (h : 1 ≤ s.length) :
    (Run.plain s).content.length ≤ s.length := by
  unfold Run.plain Run.of
  split
  · exact h
  · show (Run.clipped s).length ≤ s.length
    unfold Run.clipped
    split
    · rename_i hlong
      rw [String.length_append, Text.length_takeChars]
      have hmark : Run.ellipsis.length ≤ Run.maxChars := by decide
      omega
    · exact Nat.le_refl _

theorem length_join_plain {texts : List String} (h : ∀ s ∈ texts, 1 ≤ s.length) :
    (String.join (texts.map fun s => (Run.plain s).content)).length ≤ (String.join texts).length := by
  induction texts with
  | nil => exact Nat.le_refl _
  | cons s texts ih =>
      rw [List.map_cons, String.join_cons, String.join_cons, String.length_append,
        String.length_append]
      have hs := length_content_plain (h s List.mem_cons_self)
      have hrest := ih fun t ht => h t (List.mem_cons_of_mem s ht)
      omega

/-- The runs of code are together no longer than code may be. -/
theorem length_plainText_code {code : String} (h : code.length ≤ maxCodeChars) :
    (Run.plainText (((textChunks Run.maxChars code).map Run.plain).map Run.toJson)).length
      ≤ maxCodeChars := by
  rw [plainText_plain]
  -- Only empty code is padded; otherwise each piece of it has one character at least.
  by_cases hcode : code = ""
  · rw [hcode, textChunks_empty]
    decide
  · have hpos := length_pos_textChunks Run.maxChars (by decide) hcode
    exact Nat.le_trans (length_join_plain hpos) (by rw [join_textChunks]; exact h)

/-- A language that is looked up is a known one. -/
theorem language_mem {fallback : String} (h : fallback ∈ Language.all) (value : Json) :
    Language.ofJson value fallback ∈ Language.all := by
  have hshorthands : ∀ entry ∈ Language.shorthands, entry.2 ∈ Language.all := by decide
  have hnormal : ∀ s, Language.normalize s fallback ∈ Language.all := by
    intro s
    unfold Language.normalize
    dsimp only
    split
    · exact h
    · split
      · rename_i hname
        exact List.contains_iff_mem.mp hname
      -- What is no name of a language may be short for one, and is plain text if it is not.
      · cases hlookup : Language.shorthands.lookup (Text.lower (Text.strip s)) with
        | none => decide
        | some name =>
            obtain ⟨l₁, l₂, heq, _⟩ := List.lookup_eq_some_iff.mp hlookup
            refine hshorthands (Text.lower (Text.strip s), name) ?_
            rw [heq]
            simp
  cases value with
  | str s => exact hnormal s
  | null => exact h
  | bool b => exact h
  | int n => exact h
  | float x => exact h
  | arr vs => exact h
  | obj ms => exact h

theorem makeCode_meets (content : String) (language : Json) (caption : Option String) :
    Meets (Diagnostic.Warns ["code_truncated"]) (fun b => IsBlock b.toJson)
      (makeCode content language caption) := by
  refine (fittedCode_meets content).bind fun code hcode => meets_pure ?_
  refine isBlock_code (isText_of ?_ ?_) (isRuns_caption caption) (language_mem (by decide) language)
    (length_plainText_code hcode)
  · rw [Ne, List.map_eq_nil_iff]
    exact textChunks_ne_nil Run.maxChars code
  · intro r hr
    obtain ⟨s, _, rfl⟩ := List.mem_map.mp hr
    exact isRun_plain s

/-! ## §3. Addresses. -/

theorem badUrl_meets {kind : String} {url : Json} (h : ∀ s, url = .str s → Url.isWeb s = false) :
    Meets (Diagnostic.RefusesUrl kind url) (fun b => IsBlock b.toJson) (badUrl kind url) :=
  (meets_report ⟨rfl, h⟩).bind fun _ _ => meets_pure (isBlock_notice _)

theorem withUrl_meets {kind : String} {url : Json} {make : String → Block}
    (hmake : ∀ address, Url.isWeb address = true → IsBlock (make address).toJson) :
    Meets (Diagnostic.RefusesUrl kind url) (fun b => IsBlock b.toJson) (withUrl kind url make) := by
  cases url with
  | str s =>
      show Meets _ _ (if Url.isWeb s then pure (make (Text.strip s)) else badUrl kind (.str s))
      by_cases hweb : Url.isWeb s = true
      · rw [if_pos hweb]
        exact meets_pure (hmake _ (by rw [Url.isWeb_strip]; exact hweb))
      · rw [if_neg hweb]
        refine badUrl_meets ?_
        intro s' hs
        rw [← Json.str.inj hs]
        exact Bool.eq_false_iff.mpr hweb
  | null => exact badUrl_meets (by intro s h; exact absurd h (by simp))
  | bool b => exact badUrl_meets (by intro s h; exact absurd h (by simp))
  | int n => exact badUrl_meets (by intro s h; exact absurd h (by simp))
  | float x => exact badUrl_meets (by intro s h; exact absurd h (by simp))
  | arr vs => exact badUrl_meets (by intro s h; exact absurd h (by simp))
  | obj ms => exact badUrl_meets (by intro s h; exact absurd h (by simp))

theorem makeMedia_meets (kind : MediaKind) (url : Json) (caption : Option String) :
    Meets (Diagnostic.RefusesUrl kind.name url) (fun b => IsBlock b.toJson)
      (makeMedia kind url caption) :=
  withUrl_meets fun _ hweb => isBlock_media kind hweb (isRuns_caption caption)

theorem makeFile_meets (url : Json) (name caption : Option String) :
    Meets (Diagnostic.RefusesUrl "file" url) (fun b => IsBlock b.toJson) (makeFile url name caption) :=
  withUrl_meets fun _ hweb => isBlock_file (fileName name) hweb (isRuns_caption caption)

theorem makeEmbed_meets (url : Json) :
    Meets (Diagnostic.RefusesUrl "embed" url) (fun b => IsBlock b.toJson) (makeEmbed url) :=
  withUrl_meets fun _ hweb => isBlock_embed hweb

theorem makeBookmark_meets (url : Json) (caption : Option String) :
    Meets (Diagnostic.RefusesUrl "bookmark" url) (fun b => IsBlock b.toJson)
      (makeBookmark url caption) :=
  withUrl_meets fun _ hweb => isBlock_bookmark hweb (isRuns_caption caption)

theorem makeLinkPreview_meets (url : Json) (caption : Option String) :
    Meets (fun d => d.Warns ["link_preview_downgraded"] ∨ d.RefusesUrl "bookmark" url)
      (fun b => IsBlock b.toJson) (makeLinkPreview url caption) :=
  (meets_report (.inl ⟨rfl, rfl, List.mem_singleton.mpr rfl⟩)).bind fun _ _ =>
    (makeBookmark_meets url caption).mono (fun _ h => .inr h) fun _ h => h

/-! ## §4. Tables. -/

variable {D : Diagnostic → Prop}

/-- A cell is a text, unless it is made of runs that were not built here. -/
theorem cellRuns_meets {cell : Json} (h : (TextInput.ofJson cell).Sound) :
    Meets D (fun rs => IsText (Run.listJson rs)) (cellRuns cell) := by
  cases cell with
  | str s => exact meets_pure (isText_singleton (isRun_plain s))
  | arr vs => exact (TextInput.runsOrBlank_meets h true).unrecorded
  | null => exact meets_pure (isText_singleton isRun_blank)
  | bool b => exact meets_pure (isText_singleton (isRun_plain _))
  | int n => exact meets_pure (isText_singleton (isRun_plain _))
  | float x => exact meets_pure (isText_singleton (isRun_plain _))
  | obj ms => exact meets_pure (isText_singleton (isRun_plain _))

/-- A row has as many cells as the table is wide: what is too long is cut, what is too short is
filled up. -/
theorem makeRow_meets {row : List Json} (h : ∀ cell ∈ row, (TextInput.ofJson cell).Sound)
    (width index : Nat) :
    Meets D (fun cells => cells.length = width ∧ ∀ cell ∈ cells, IsText (Run.listJson cell))
      (makeRow width index row) := by
  have hcells : Meets D
      (fun cells => cells.length = (row.take width).length
        ∧ ∀ cell ∈ cells, IsText (Run.listJson cell)) ((row.take width).mapM cellRuns) :=
    Meets.mapM fun cell hcell => cellRuns_meets (h cell (List.mem_of_mem_take hcell))
  refine hcells.bind fun cells hfit => ?_
  have hfilled : (cells ++ List.replicate (width - cells.length) [Run.blank]).length = width
      ∧ ∀ cell ∈ cells ++ List.replicate (width - cells.length) [Run.blank],
          IsText (Run.listJson cell) := by
    refine ⟨?_, ?_⟩
    · rw [List.length_append, List.length_replicate]
      have hshort := List.length_take_le width row
      omega
    · intro cell hcell
      rcases List.mem_append.mp hcell with hown | hfill
      · exact hfit.2 cell hown
      · rw [List.eq_of_mem_replicate hfill]
        exact isText_singleton isRun_blank
  dsimp only
  split
  · exact (meets_log _ _ _).bind fun _ _ => meets_pure hfilled
  · exact meets_pure hfilled

theorem makeRows_meets {rows : List (List Json)}
    (h : ∀ row ∈ rows, ∀ cell ∈ row, (TextInput.ofJson cell).Sound) (width : Nat) :
    ∀ index, Meets D (fun made => ∀ row ∈ made,
        row.length = width ∧ ∀ cell ∈ row, IsText (Run.listJson cell)) (makeRows width index rows) := by
  induction rows with
  | nil => intro index; exact meets_pure (by intro row hrow; exact absurd hrow List.not_mem_nil)
  | cons row rows ih =>
      intro index
      refine (makeRow_meets (h row List.mem_cons_self) width index).bind fun cells hcells => ?_
      have hrest := ih (fun r hr => h r (List.mem_cons_of_mem row hr)) (index + 1)
      refine hrest.bind fun made hmade => meets_pure ?_
      intro r hr
      rcases List.mem_cons.mp hr with hfirst | hlater
      · rw [hfirst]; exact hcells
      · exact hmade r hlater

/-- A table whose first row is not empty is as wide as that row. -/
theorem makeTable_meets {first : List Json} {rows : List (List Json)} (hfirst : first ≠ [])
    (h : ∀ row ∈ first :: rows, ∀ cell ∈ row, (TextInput.ofJson cell).Sound)
    (columnHeader rowHeader : Bool) :
    Meets D (fun b => IsBlock b.toJson) (makeTable (first :: rows) columnHeader rowHeader) :=
  (makeRows_meets h first.length 0).bind fun _ hcells =>
    meets_pure (isBlock_table (List.length_pos_iff.mpr hfirst) hcells)

end Block

end Syllabus
