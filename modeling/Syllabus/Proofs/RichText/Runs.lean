/-
  Syllabus.Proofs.RichText.Runs
  ─────────────────────────────
  **EVERY TEXT BECOMES RUNS THAT ARE ACCEPTED.**

  A run that is built here fits whatever it is built from: its text is cut to
  the length of a run and is blank only as one space, its color is a known one
  and its link is dropped unless it is a web address.  A text with markup is
  cut up into one piece at least, blank segments are passed over, and a block
  that must show a text gets a blank run when nothing is left.

      fitsRun_clipped      a text that is visible fits when it is cut
      isRun_of             so does every run that is built
      runs?_meets          a text gives runs, of which there is one at least
      runsOrBlank_meets    or a blank run if need be

  The one thing that is reported on the way is a link that was dropped.
-/
import Syllabus.Proofs.Block.Form
import Syllabus.Proofs.Journal.Promise

namespace Syllabus

/-! ## §1. Texts that are cut. -/

theorem Text.length_takeChars (n : Nat) (s : String) :
    (Text.takeChars n s).length = min n s.length := by
  unfold Text.takeChars
  rw [← String.length_toList, String.toList_ofList, List.length_take, String.length_toList]

theorem Text.length_pos_of_visible {s : String} (h : Text.isBlank s = false) : 1 ≤ s.length := by
  have hne : s.toList ≠ [] := by
    intro hnil
    unfold Text.isBlank at h
    rw [hnil] at h
    exact absurd h (by simp)
  rw [← String.length_toList]
  exact List.length_pos_iff.mpr hne

/-- A text that ends in visible characters is not blank. -/
theorem Text.visible_append {s t : String} (h : Text.isBlank t = false) :
    Text.isBlank (s ++ t) = false := by
  unfold Text.isBlank at h ⊢
  rw [String.toList_append, List.all_append, h, Bool.and_false]

namespace Form

/-- A visible text fits once it is cut: the mark of the cut is visible. -/
theorem fitsRun_clipped {s : String} (h : Text.isBlank s = false) : FitsRun (Run.clipped s) := by
  unfold Run.clipped
  split
  · rename_i hlong
    have hvisible := Text.visible_append (s := Text.takeChars (Run.maxChars - Run.ellipsis.length) s)
      (show Text.isBlank Run.ellipsis = false by decide)
    have hlength : (Text.takeChars (Run.maxChars - Run.ellipsis.length) s ++ Run.ellipsis).length
        ≤ 2000 := by
      rw [String.length_append, Text.length_takeChars]
      have hmark : Run.ellipsis.length = 3 := by decide
      have hmax : Run.maxChars = 2000 := rfl
      omega
    exact ⟨⟨Text.length_pos_of_visible hvisible, hlength⟩, .inl hvisible⟩
  · rename_i hshort
    exact ⟨⟨Text.length_pos_of_visible h, Nat.le_of_not_lt hshort⟩, .inl h⟩

end Form

theorem Color.normalize_mem {fallback : String} (h : fallback ∈ Color.all) (value : String) :
    Color.normalize value fallback ∈ Color.all := by
  unfold Color.normalize
  split
  · rename_i hvalue
    exact List.contains_iff_mem.mp hvalue
  · exact h

/-- The color of a block is a known one. -/
theorem Block.colored_mem (color : String) : Block.colored color ∈ Color.all :=
  Color.normalize_mem (by decide) color

/-! ## §2. Runs that are built. -/

namespace Form

/-- A run of a text that fits, with a link that leads somewhere and in a known color. -/
theorem isRun_text {content : String} {link : Option String} {style : Style} (hfits : FitsRun content)
    (hlink : ∀ url, link = some url → Url.isWeb url = true) (hcolor : style.color ∈ Color.all) :
    IsRun (Run.text content link style).toJson where
  kind := rfl
  content := ⟨content, rfl, hfits⟩
  link := by
    refine ⟨Run.linkJson link, rfl, ?_⟩
    cases link with
    | none => exact .inl rfl
    | some url => exact .inr ⟨url, rfl, hlink url rfl⟩
  color := ⟨style.color, hcolor, rfl⟩

theorem isRun_blank : IsRun Run.blank.toJson :=
  isRun_text ⟨⟨by decide, by decide⟩, .inr rfl⟩ (by intro url h; exact absurd h (by simp)) (by decide)

theorem isRun_of {content : String} {style : Style} {link : Option String}
    (hlink : ∀ url, link = some url → Url.isWeb url = true) :
    IsRun (Run.of content style link).toJson := by
  unfold Run.of
  split
  · exact isRun_blank
  · rename_i hvisible
    exact isRun_text (fitsRun_clipped (Bool.eq_false_iff.mpr hvisible)) hlink
      (Color.normalize_mem (by decide) style.color)

/-- A run without a link always fits. -/
theorem isRun_unlinked (content : String) (style : Style) : IsRun (Run.of content style none).toJson :=
  isRun_of (by intro url h; exact absurd h (by simp))

theorem isRun_plain (content : String) : IsRun (Run.plain content).toJson := isRun_unlinked content {}

theorem isRun_bold (content : String) : IsRun (Run.bold content).toJson := isRun_unlinked content _

theorem isRun_code (content : String) : IsRun (Run.code content).toJson := isRun_unlinked content _

/-- Runs that are all accepted, and of which there is one at least, are a text. -/
theorem isText_of {runs : List Run} (hne : runs ≠ []) (h : ∀ r ∈ runs, IsRun r.toJson) :
    IsText (Run.listJson runs) := by
  refine ⟨runs.map Run.toJson, rfl, by simpa using hne, ?_⟩
  intro v hv
  obtain ⟨r, hr, rfl⟩ := List.mem_map.mp hv
  exact h r hr

theorem isText_singleton {r : Run} (h : IsRun r.toJson) : IsText (Run.listJson [r]) := by
  refine isText_of (List.cons_ne_nil r []) ?_
  intro s hs
  rw [List.mem_singleton.mp hs]
  exact h

/-- The runs of a caption. -/
theorem isRuns_caption (caption : Option String) : IsRuns (Run.listJson (Block.captionRuns caption)) := by
  refine ⟨(Block.captionRuns caption).map Run.toJson, rfl, ?_⟩
  intro v hv
  obtain ⟨r, hr, rfl⟩ := List.mem_map.mp hv
  unfold Block.captionRuns at hr
  split at hr
  · split at hr
    · exact absurd hr List.not_mem_nil
    · rw [List.mem_singleton.mp hr]
      exact isRun_plain _
  · exact absurd hr List.not_mem_nil

end Form

/-! ## §3. Links, markup and segments. -/

/-- What is reported of runs: a link that was dropped. -/
abbrev Diagnostic.DropsLink : Diagnostic → Prop := Diagnostic.Warns ["invalid_link"]

open Form Writing

theorem Run.checkedLink_meets (link : Json) :
    Meets Diagnostic.DropsLink (fun l => ∀ url, l = some url → Url.isWeb url = true)
      (Run.checkedLink link) := by
  have hnone : ∀ url, (none : Option String) = some url → Url.isWeb url = true := by
    intro url h
    exact absurd h (by simp)
  -- Whatever is no web address is reported and dropped in the same way.
  have hdropped : Meets Diagnostic.DropsLink (fun l => ∀ url, l = some url → Url.isWeb url = true)
      (do Writing.report .richText "invalid_link" (Run.badLinkMessage link) .warning
          pure none) :=
    (meets_report ⟨rfl, rfl, List.mem_singleton.mpr rfl⟩).bind fun _ _ => meets_pure hnone
  by_cases htruthy : link.isTruthy = true
  · unfold Run.checkedLink
    rw [if_neg (by rw [htruthy]; decide)]
    cases link with
    | str url =>
        show Meets _ _ (if Url.isWeb url = true then pure (some url) else do
          Writing.report .richText "invalid_link" (Run.badLinkMessage (.str url)) .warning
          pure none)
        by_cases hweb : Url.isWeb url = true
        · rw [if_pos hweb]
          refine meets_pure ?_
          intro url' h
          rw [← Option.some.inj h]
          exact hweb
        · rw [if_neg hweb]
          exact hdropped
    | null => exact hdropped
    | bool b => exact hdropped
    | int n => exact hdropped
    | float x => exact hdropped
    | arr vs => exact hdropped
    | obj ms => exact hdropped
  · unfold Run.checkedLink
    rw [if_pos (by rw [Bool.eq_false_iff.mpr htruthy]; rfl)]
    exact meets_pure hnone

theorem Run.linked_meets (content : String) (style : Style) (link : Json) :
    Meets Diagnostic.DropsLink (fun r => IsRun r.toJson) (Run.linked content style link) :=
  (Run.checkedLink_meets link).bind fun _ hlink => meets_pure (isRun_of hlink)

/-- A link that an author wrote is kept if it is a web address, and reported if it is not. -/
theorem Run.checkedLink_str (url : String) :
    Run.checkedLink (.str url)
      = if (url.isEmpty || Url.isWeb url) = true then pure ((some url).filter Url.isWeb)
        else (do
          Writing.report .richText "invalid_link" (Run.badLinkMessage (.str url)) .warning
          pure none) := by
  rw [Option.filter_some]
  show (if (!(!url.isEmpty)) = true then pure none
    else if Url.isWeb url = true then pure (some url)
    else (do
      Writing.report .richText "invalid_link" (Run.badLinkMessage (.str url)) .warning
      pure none) : Writing (Option String)) = _
  rw [Bool.not_not]
  by_cases hempty : url.isEmpty = true
  · -- The empty text is no web address, so it is dropped without a report.
    have hweb : ¬ Url.isWeb url = true := by
      rw [String.isEmpty_iff.mp hempty]
      decide
    rw [if_pos hempty, if_pos (by rw [hempty, Bool.true_or]), if_neg hweb]
  · rw [if_neg hempty]
    by_cases hweb : Url.isWeb url = true
    · rw [if_pos hweb, if_pos (by rw [hweb, Bool.or_true]), if_pos hweb]
    · rw [if_neg hweb, if_neg (by simp [hempty, hweb])]

/-- A run has its link if that is a web address, and is the same without it if not. -/
theorem Run.linked_yields (content : String) (style : Style) (link : Option String) :
    Yields (Run.linked content style (Json.ofOption link))
      (Run.of content style (link.filter Url.isWeb)) := by
  have hchecked : Yields (Run.checkedLink (Json.ofOption link)) (link.filter Url.isWeb) := by
    cases link with
    | none => exact yields_pure none
    | some url =>
        show Yields (Run.checkedLink (.str url)) _
        rw [Run.checkedLink_str]
        by_cases hkept : (url.isEmpty || Url.isWeb url) = true
        · rw [if_pos hkept]
          exact yields_pure _
        · rw [if_neg hkept]
          rw [Bool.or_eq_true, not_or] at hkept
          rw [Option.filter_some, if_neg hkept.2]
          exact (gives_report _ _ _ _).yields.bind (yields_pure none)
  exact hchecked.bind (yields_pure _)

theorem Markup.piecesFrom_cons_ne_nil (cs : List Char) (f : Markup.Find) (fs : List Markup.Find) :
    Markup.piecesFrom cs 0 (f :: fs) ≠ [] := by
  unfold Markup.piecesFrom
  rw [if_neg (Nat.not_lt_zero f.start)]
  simp

/-- A text has one piece at least. -/
theorem Markup.pieces_ne_nil (cs : List Char) : Markup.pieces cs ≠ [] := by
  unfold Markup.pieces
  split
  · exact List.cons_ne_nil _ _
  · rename_i fs hne
    cases hfs : Markup.allFinds cs with
    | nil => exact absurd hfs hne
    | cons f rest => exact Markup.piecesFrom_cons_ne_nil cs f rest

theorem Markup.runs_meets (text : String) :
    Meets Diagnostic.DropsLink (fun rs => IsText (Run.listJson rs)) (Markup.runs text) := by
  have hpiece : ∀ p ∈ Markup.pieces text.toList,
      Meets Diagnostic.DropsLink (fun r => IsRun r.toJson) p.run := by
    intro p _
    cases p with
    | plain text => exact meets_pure (isRun_plain _)
    | marked mark label url => exact Run.linked_meets _ _ _
  refine (Meets.mapM hpiece).result ?_
  rintro rs ⟨hlength, hrs⟩
  refine isText_of ?_ hrs
  have hpos := List.length_pos_iff.mpr (Markup.pieces_ne_nil text.toList)
  exact List.length_pos_iff.mp (hlength ▸ hpos)

/-- What a segment gives is a run, if it gives anything. -/
def Segment.Gives (o : Option Run) : Prop := ∀ r, o = some r → IsRun r.toJson

theorem Segment.gives_none : Segment.Gives none := by
  intro r h
  exact absurd h (by simp)

theorem Segment.run?_meets (s : Segment) : Meets Diagnostic.DropsLink Segment.Gives s.run? := by
  unfold Segment.run?
  split
  · exact meets_pure Segment.gives_none
  · refine (Run.linked_meets s.text s.style _).bind fun run hrun => meets_pure ?_
    intro r h
    rw [← Option.some.inj h]
    exact hrun

/-- What a segment shows: a run of its text, unless it is blank. -/
def Segment.shown? (s : Segment) : Option Run :=
  if Text.isBlank s.text then none else some (Run.of s.text s.style (s.link.filter Url.isWeb))

theorem Segment.run?_yields (s : Segment) : Yields s.run? s.shown? := by
  unfold Segment.run? Segment.shown?
  by_cases hblank : Text.isBlank s.text = true
  · rw [if_pos hblank, if_pos hblank]
    exact yields_pure none
  · rw [if_neg hblank, if_neg hblank]
    exact (Run.linked_yields s.text s.style s.link).bind (yields_pure _)

theorem Segment.runs_yields (ss : List Segment) :
    Yields (Segment.runs ss) (ss.filterMap Segment.shown?) := by
  have hruns := Yields.mapM fun s (_ : s ∈ ss) => s.run?_yields
  have hshown : (ss.map Segment.shown?).filterMap id = ss.filterMap Segment.shown? :=
    List.filterMap_map
  exact hshown ▸ hruns.bind (yields_pure _)

/-- Reading a segment reports nothing. -/
theorem Segment.ofJson?_meets {D : Diagnostic → Prop} (v : Json) :
    Meets D (fun _ => True) (Segment.ofJson? v) := by
  unfold Segment.ofJson?
  split
  · split
    · exact meets_pure trivial
    · exact (meets_log _ _ _).bind fun _ _ => meets_pure trivial
  · exact meets_pure trivial

theorem Segment.looseRun?_meets (v : Json) :
    Meets Diagnostic.DropsLink Segment.Gives (Segment.looseRun? v) := by
  refine (Segment.ofJson?_meets v).bind fun o _ => ?_
  cases o with
  | none => exact meets_pure Segment.gives_none
  | some s => exact s.run?_meets

/-- The runs among what segments give. -/
theorem Segment.forall_of_gives {P : Run → Prop} {os : List (Option Run)}
    (h : ∀ o ∈ os, ∀ r, o = some r → P r) : ∀ r ∈ os.filterMap id, P r := by
  intro r hr
  obtain ⟨o, ho, hor⟩ := List.mem_filterMap.mp hr
  exact h o ho r hor

theorem Segment.runs_meets (ss : List Segment) :
    Meets Diagnostic.DropsLink (fun rs => ∀ r ∈ rs, IsRun r.toJson) (Segment.runs ss) :=
  (Meets.mapM fun s _ => s.run?_meets).bind fun _ h => meets_pure (Segment.forall_of_gives h.2)

theorem Segment.looseRuns_meets (vs : List Json) :
    Meets Diagnostic.DropsLink (fun rs => ∀ r ∈ rs, IsRun r.toJson) (Segment.looseRuns vs) :=
  (Meets.mapM fun v _ => Segment.looseRun?_meets v).bind fun _ h =>
    meets_pure (Segment.forall_of_gives h.2)

/-! ## §4. The text of a block. -/

namespace TextInput

/-- The text is not made of runs that were not built here. -/
def Sound : TextInput → Prop
  | .runs rs => ∀ r ∈ rs, IsRun r.toJson
  | _ => True

theorem sound_text (s : String) : (TextInput.text s).Sound := trivial

theorem sound_input (w : Wording) : w.input.Sound := by
  cases w <;> exact trivial

/-- What there is to show is a text, if there is anything. -/
def Shows (o : Option (List Run)) : Prop := ∀ rs, o = some rs → IsText (Run.listJson rs)

theorem shows_none : Shows none := by
  intro rs h
  exact absurd h (by simp)

theorem shows_some {rs : List Run} (h : IsText (Run.listJson rs)) : Shows (some rs) := by
  intro rs' h'
  rw [← Option.some.inj h']
  exact h

theorem shows_someRuns {rs : List Run} (h : ∀ r ∈ rs, IsRun r.toJson) : Shows (someRuns rs) := by
  unfold someRuns
  split
  · exact shows_none
  · rename_i hne
    refine shows_some (isText_of ?_ h)
    intro hnil
    exact hne (by rw [hnil]; rfl)

theorem runs?_meets {input : TextInput} (h : input.Sound) (markup : Bool) :
    Meets Diagnostic.DropsLink Shows (input.runs? markup) := by
  cases input with
  | nothing => exact meets_pure shows_none
  | text s =>
      show Meets _ _ (if (Text.strip s).isEmpty then pure none
        else if markup then (do
          let runs ← Markup.runs (Text.strip s)
          pure (some runs))
        else pure (some [Run.plain (Text.strip s)]))
      split
      · exact meets_pure shows_none
      · split
        · exact (Markup.runs_meets _).bind fun rs hrs => meets_pure (shows_some hrs)
        · exact meets_pure (shows_some (isText_singleton (isRun_plain _)))
  | segments ss =>
      exact (Segment.runs_meets ss).bind fun rs hrs => meets_pure (shows_someRuns hrs)
  | loose vs =>
      exact (Segment.looseRuns_meets vs).bind fun rs hrs => meets_pure (shows_someRuns hrs)
  | runs rs =>
      refine meets_pure (shows_someRuns ?_)
      intro r hr
      exact h r ((List.mem_filter.mp hr).1)

theorem runsOrBlank_meets {input : TextInput} (h : input.Sound) (markup : Bool) :
    Meets Diagnostic.DropsLink (fun rs => IsText (Run.listJson rs)) (input.runsOrBlank markup) := by
  refine (runs?_meets h markup).bind fun o ho => meets_pure ?_
  cases o with
  | none => exact isText_singleton isRun_blank
  | some rs => exact ho rs rfl

end TextInput

end Syllabus
