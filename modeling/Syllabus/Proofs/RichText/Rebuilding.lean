/-
  Syllabus.Proofs.RichText.Rebuilding
  ───────────────────────────────────
  **WHICH RUNS COME THROUGH A SECOND TIME.**

  A text is made into runs, and runs may be given as a text again.  They are
  taken as they are, but for blank ones.  Segments and texts without markup
  have no blank run.  A text with markup has one wherever a piece of it is
  blank: the space between two marks, or a blank label.

      TextInput.Unbroken   no piece of the text is blank
      runs?_builds         what the runs of a text are like
      runs_ofJson          what is made of runs that are given again
      rebuilt_iff          they come out the same exactly if the text was unbroken
-/
import Syllabus.Proofs.Block.Builders
import Syllabus.Proofs.RichText.RoundTrip
import Syllabus.Proofs.RichText.Splitting

namespace Syllabus

open Writing

/-! ## §1. Runs that were built. -/

namespace Run

/-- A run was built from some text. -/
def Built (r : Run) : Prop := ∃ content style link, r = Run.of content style link

/-- A run in its final form, as a run that is given. -/
def again (r : Run) : Run := .given r.toJson

theorem Built.isRun {r : Run} (h : r.Built) : isRun r.toJson = true := by
  obtain ⟨content, style, link, rfl⟩ := h
  exact Block.isRun_toJson_of content style link

theorem Built.content_again {r : Run} (h : r.Built) : r.again.content = r.content := by
  obtain ⟨content, style, link, rfl⟩ := h
  exact Block.givenContent_toJson_of content style link

theorem isBlank_clipped {s : String} (h : Text.isBlank s = false) :
    Text.isBlank (clipped s) = false := by
  unfold clipped
  split
  · exact Text.visible_append (by decide)
  · exact h

/-- A run is blank exactly if its text is. -/
theorem isBlank_content_of (content : String) (style : Style) (link : Option String) :
    Text.isBlank (Run.of content style link).content = Text.isBlank content := by
  unfold Run.of
  split
  · rename_i hblank
    rw [hblank]
    decide
  · rename_i hvisible
    rw [Bool.eq_false_iff.mpr hvisible]
    exact isBlank_clipped (Bool.eq_false_iff.mpr hvisible)

end Run

/-! ## §2. Texts without a blank piece. -/

/-- The text that a piece shows. -/
def Markup.Piece.shown : Markup.Piece → String
  | .plain text => String.ofList text
  | .marked _ label _ => String.ofList label

namespace TextInput

/-- The text was written by an author, and is not made of runs. -/
def Authored : TextInput → Prop
  | .runs _ => False
  | _ => True

/-- No piece of a text with markup is blank. -/
def Unbroken (markup : Bool) : TextInput → Prop
  | .text s => markup = true →
      ∀ p ∈ Markup.pieces (Text.strip s).toList, Text.isBlank p.shown = false
  | _ => True

/-- The runs of a text were built, one at least, and they are all visible exactly if no piece of the
text is blank. -/
structure Builds (input : TextInput) (markup : Bool) (rs : List Run) : Prop where
  /-- There is a run. -/
  nonempty : rs ≠ []
  /-- Each was built. -/
  built : ∀ r ∈ rs, r.Built
  /-- When none is blank. -/
  visible_iff : (∀ r ∈ rs, Text.isBlank r.content = false) ↔ input.Unbroken markup

end TextInput

theorem Markup.Part.run_built (p : Markup.Part) : p.run.Built := by
  cases p with
  | plain text => exact ⟨_, _, _, rfl⟩
  | found f => exact ⟨_, _, _, rfl⟩

theorem Markup.Part.isBlank_run (p : Markup.Part) :
    Text.isBlank p.run.content = Text.isBlank p.piece.shown := by
  cases p with
  | plain text => exact Run.isBlank_content_of _ _ _
  | found f => exact Run.isBlank_content_of _ _ _

/-! ## §3. The runs of a text. -/

namespace TextInput

theorem builds_of_visible {input : TextInput} {markup : Bool} (h : input.Unbroken markup)
    {rs : List Run} (hne : rs ≠ [])
    (hrs : ∀ r ∈ rs, r.Built ∧ Text.isBlank r.content = false) : Builds input markup rs where
  nonempty := hne
  built := fun r hr => (hrs r hr).1
  visible_iff := ⟨fun _ => h, fun _ r hr => (hrs r hr).2⟩

theorem markup_builds (s : String) :
    Builds (.text s) true ((Markup.parts (Text.strip s).toList).map Markup.Part.run) where
  nonempty := by
    have hpieces := Markup.pieces_ne_nil (Text.strip s).toList
    rw [Markup.pieces_eq, Ne, List.map_eq_nil_iff] at hpieces
    rw [Ne, List.map_eq_nil_iff]
    exact hpieces
  built := by
    intro r hr
    obtain ⟨p, -, rfl⟩ := List.mem_map.mp hr
    exact p.run_built
  visible_iff := by
    show _ ↔ (true = true → _)
    rw [Markup.pieces_eq]
    simp only [List.forall_mem_map, Markup.Part.isBlank_run, forall_const]

end TextInput

/-- What a segment gives is built and visible, if it gives anything. -/
def Segment.Shows (o : Option Run) : Prop :=
  ∀ r, o = some r → r.Built ∧ Text.isBlank r.content = false

theorem Segment.shows_none : Segment.Shows none := by
  intro r h
  cases h

theorem Segment.run?_shows (s : Segment) : Meets (fun _ => True) Segment.Shows s.run? := by
  refine s.run?_yields.meets ?_
  unfold Segment.shown?
  split
  · exact Segment.shows_none
  · rename_i hvisible
    intro r h
    rw [← Option.some.inj h]
    exact ⟨⟨_, _, _, rfl⟩,
      (Run.isBlank_content_of _ _ _).trans (Bool.eq_false_iff.mpr hvisible)⟩

theorem Segment.looseRun?_shows (v : Json) :
    Meets (fun _ => True) Segment.Shows (Segment.looseRun? v) := by
  refine (Segment.ofJson?_meets v).bind fun o _ => ?_
  cases o with
  | none => exact meets_pure Segment.shows_none
  | some s => exact s.run?_shows

theorem Segment.runs_visible (ss : List Segment) :
    Meets (fun _ => True) (fun rs => ∀ r ∈ rs, r.Built ∧ Text.isBlank r.content = false)
      (Segment.runs ss) :=
  (Meets.mapM fun s _ => s.run?_shows).bind fun _ h => meets_pure (Segment.forall_of_gives h.2)

theorem Segment.looseRuns_visible (vs : List Json) :
    Meets (fun _ => True) (fun rs => ∀ r ∈ rs, r.Built ∧ Text.isBlank r.content = false)
      (Segment.looseRuns vs) :=
  (Meets.mapM fun v _ => Segment.looseRun?_shows v).bind fun _ h =>
    meets_pure (Segment.forall_of_gives h.2)

namespace TextInput

theorem someRuns_builds {input : TextInput} {markup : Bool} (h : input.Unbroken markup)
    {rs : List Run} (hrs : ∀ r ∈ rs, r.Built ∧ Text.isBlank r.content = false) :
    ∀ rs', someRuns rs = some rs' → Builds input markup rs' := by
  intro rs' heq
  unfold someRuns at heq
  split at heq
  · cases heq
  · rename_i hne
    cases heq
    exact builds_of_visible h (fun hnil => hne (by rw [hnil]; rfl)) hrs

theorem runs?_builds {input : TextInput} (h : input.Authored) (markup : Bool) :
    Meets (fun _ => True) (fun o => ∀ rs, o = some rs → Builds input markup rs)
      (input.runs? markup) := by
  cases input with
  | nothing =>
      refine meets_pure ?_
      intro rs hrs
      cases hrs
  | text s =>
      show Meets _ _ (if (Text.strip s).isEmpty then pure none
        else if markup then (do
          let runs ← Markup.runs (Text.strip s)
          pure (some runs))
        else pure (some [Run.plain (Text.strip s)]))
      split
      · refine meets_pure ?_
        intro rs hrs
        cases hrs
      · rename_i hne
        cases markup with
        | true =>
            rw [if_pos rfl]
            have hruns : Yields (do
                let runs ← Markup.runs (Text.strip s)
                pure (some runs)) (some ((Markup.parts (Text.strip s).toList).map Markup.Part.run)) :=
              (Markup.runs_yields (Text.strip s)).bind (yields_pure _)
            refine hruns.meets ?_
            intro rs hrs
            rw [← Option.some.inj hrs]
            exact markup_builds s
        | false =>
            rw [if_neg Bool.false_ne_true]
            have hunbroken : (TextInput.text s).Unbroken false :=
              fun hmarkup => absurd hmarkup Bool.false_ne_true
            refine meets_pure ?_
            intro rs hrs
            rw [← Option.some.inj hrs]
            refine builds_of_visible hunbroken (List.cons_ne_nil _ _) ?_
            intro r hr
            rw [List.mem_singleton.mp hr]
            refine ⟨⟨_, _, _, rfl⟩, (Run.isBlank_content_of _ _ _).trans ?_⟩
            rw [← Text.isEmpty_strip, Text.strip_strip]
            exact Bool.eq_false_iff.mpr hne
  | segments ss =>
      have hunbroken : (TextInput.segments ss).Unbroken markup := trivial
      exact (Segment.runs_visible ss).bind fun _ hrs =>
        meets_pure (someRuns_builds hunbroken hrs)
  | loose vs =>
      have hunbroken : (TextInput.loose vs).Unbroken markup := trivial
      exact (Segment.looseRuns_visible vs).bind fun _ hrs =>
        meets_pure (someRuns_builds hunbroken hrs)
  | runs rs => exact h.elim

/-! ## §4. The second time. -/

/-- Runs that were built are taken as runs when they are given again. -/
theorem ofJson_listJson {rs : List Run} (hne : rs ≠ []) (h : ∀ r ∈ rs, r.Built) :
    TextInput.ofJson (Run.listJson rs) = .runs (rs.map Run.again) := by
  have hruns : (rs.map Run.toJson).filter Run.isRun = rs.map Run.toJson := by
    rw [List.filter_eq_self]
    intro v hv
    obtain ⟨r, hr, rfl⟩ := List.mem_map.mp hv
    exact (h r hr).isRun
  cases rs with
  | nil => exact absurd rfl hne
  | cons r rs =>
      show (if Run.isRun r.toJson then TextInput.runs (((r :: rs).map Run.toJson).filter Run.isRun
        |>.map .given) else _) = _
      rw [if_pos (h r List.mem_cons_self).isRun, hruns, List.map_map]
      rfl

/-- The runs that are not blank. -/
def visibleRuns (rs : List Run) : List Run := rs.filter fun r => !Text.isBlank r.content

theorem runs?_again {rs : List Run} (h : ∀ r ∈ rs, r.Built) (markup : Bool) :
    (TextInput.runs (rs.map Run.again)).runs? markup
      = pure (someRuns ((visibleRuns rs).map Run.again)) := by
  show pure (someRuns ((rs.map Run.again).filter fun r => !Text.isBlank r.content)) = _
  rw [List.filter_map]
  congr 3
  refine List.filter_congr fun r hr => ?_
  show (!Text.isBlank r.again.content) = _
  rw [(h r hr).content_again]

/-- The final form of runs that are given again is that of the runs. -/
theorem listJson_again (rs : List Run) : Run.listJson (rs.map Run.again) = Run.listJson rs := by
  unfold Run.listJson
  rw [List.map_map]
  rfl

/-- All runs are given again exactly if nothing of it is blank. -/
theorem someRuns_again_iff {rs : List Run} (hne : rs ≠ []) :
    (someRuns ((visibleRuns rs).map Run.again)).map Run.listJson = some (Run.listJson rs)
      ↔ ∀ r ∈ rs, Text.isBlank r.content = false := by
  constructor
  · intro h
    obtain ⟨again, hagain, hsame⟩ := Option.map_eq_some_iff.mp h
    unfold someRuns at hagain
    split at hagain
    · cases hagain
    · cases hagain
      rw [listJson_again] at hsame
      have hlength := congrArg List.length (Json.arr.inj hsame)
      rw [List.length_map, List.length_map] at hlength
      intro r hr
      have hkept := List.length_filter_eq_length_iff.mp hlength r hr
      rwa [Bool.not_eq_true'] at hkept
  · intro h
    have hall : visibleRuns rs = rs := List.filter_eq_self.mpr fun r hr => by rw [h r hr]; rfl
    have hsome : someRuns (rs.map Run.again) = some (rs.map Run.again) := by
      refine if_neg ?_
      rw [List.isEmpty_iff, List.map_eq_nil_iff]
      exact hne
    rw [hall, hsome, Option.map_some, listJson_again]

/-- **Runs that are given as a text again come out the same exactly if no piece of the text that they
were made from is blank**: all but the blank ones are kept, whether or not markup counts, and nothing
is noted. -/
theorem rebuilt_iff {input : TextInput} (hauthored : input.Authored) {markup : Bool} {j : Journal}
    {rs : List Run} (hrs : (input.runs? markup j).1 = some rs) (markup' : Bool) (j' : Journal) :
    (TextInput.ofJson (Run.listJson rs)).runs? markup' j'
        = (someRuns ((visibleRuns rs).map Run.again), j')
      ∧ (((TextInput.ofJson (Run.listJson rs)).runs? markup' j').1.map Run.listJson
            = some (Run.listJson rs)
          ↔ input.Unbroken markup) := by
  obtain ⟨hne, hbuilt, hvisible⟩ := (runs?_builds hauthored markup).holds j rs hrs
  rw [ofJson_listJson hne hbuilt, runs?_again hbuilt]
  exact ⟨rfl, (someRuns_again_iff hne).trans hvisible⟩

/-- The runs of a text that is written from pieces. -/
theorem runs?_written {ps : List Markup.Piece} (hne : ps ≠ []) (h : Markup.Fitting ps)
    (htrimmed : Text.Trimmed (Markup.written ps)) (j : Journal) :
    ((TextInput.text (String.ofList (Markup.written ps))).runs? true j).1
      = some (ps.map Markup.Piece.expected) := by
  have hstrip : Text.strip (String.ofList (Markup.written ps)) = String.ofList (Markup.written ps) :=
    Text.strip_of_trimmed (by rw [String.toList_ofList]; exact htrimmed)
  have hvisible : ¬ (String.ofList (Markup.written ps)).isEmpty = true := by
    rw [String.isEmpty_iff, ← String.toList_eq_nil_iff, String.toList_ofList]
    exact Markup.written_ne_nil hne h
  have hruns : Yields (Markup.runs (String.ofList (Markup.written ps)))
      (ps.map Markup.Piece.expected) := by
    unfold Markup.runs
    rw [String.toList_ofList, Markup.pieces_written hne h]
    exact (Markup.gives_runs h).yields
  show ((if (Text.strip (String.ofList (Markup.written ps))).isEmpty then pure none
    else if true = true then (do
      let runs ← Markup.runs (Text.strip (String.ofList (Markup.written ps)))
      pure (some runs))
    else pure (some [Run.plain (Text.strip (String.ofList (Markup.written ps)))])) j).1 = _
  rw [hstrip, if_neg hvisible, if_pos rfl]
  exact (hruns.bind (yields_pure (some _))).result j

theorem fits_bold {c : Char} (hfree : c ∉ Markup.markers) (hline : c ≠ '\n') :
    (Markup.Piece.marked .bold [c] none).Fits := by
  refine .marked (Markup.isUnmarked_of_all (by simp) (by simp [hfree])) ?_ (.style (by decide))
    fun _ h => nomatch h
  exact fun h => hline (List.mem_singleton.mp h).symm

/-- A bold letter and a plain one come out the same. -/
theorem rebuilt_bold :
    (TextInput.text "**a** b").Authored
      ∧ ((TextInput.text "**a** b").runs? true {}).1 = some [Run.bold "a", Run.plain " b"]
      ∧ ((TextInput.ofJson (Run.listJson [Run.bold "a", Run.plain " b"])).runs? false {}).1.map
          Run.listJson = some (Run.listJson [Run.bold "a", Run.plain " b"]) := by
  have hfits : Markup.Fitting [.marked .bold ['a'] none, .plain [' ', 'b']] := by
    refine .cons (fits_bold (by decide) (by decide)) (by simp [Markup.Piece.isPlain]) ?_
    exact .cons (.plain (Markup.isUnmarked_of_all (by decide) (by decide))) (by simp) .nil
  have htrimmed : Text.Trimmed "**a** b".toList :=
    ⟨fun c hc => by cases hc; decide, fun c hc => by cases hc; decide⟩
  have hrs := runs?_written (by decide) hfits htrimmed {}
  have hauthored : (TextInput.text "**a** b").Authored := trivial
  refine ⟨hauthored, hrs, (rebuilt_iff hauthored hrs false {}).2.mpr fun _ p hp => ?_⟩
  have hchars : (Text.strip "**a** b").toList
      = Markup.written [.marked .bold ['a'] none, .plain [' ', 'b']] := by decide
  rw [hchars, Markup.pieces_written (by decide) hfits, List.mem_cons, List.mem_singleton] at hp
  rcases hp with rfl | rfl
  · decide
  · decide

/-- The space between two bold letters is a run of its own, and is lost. -/
theorem gap_not_rebuilt :
    ((TextInput.text "**a** **b**").runs? true {}).1
        = some [Run.bold "a", Run.plain " ", Run.bold "b"]
      ∧ ((TextInput.ofJson (Run.listJson [Run.bold "a", Run.plain " ", Run.bold "b"])).runs? true
          {}).1.map Run.listJson = some (Run.listJson [Run.bold "a", Run.bold "b"])
      ∧ Run.listJson [Run.bold "a", Run.bold "b"]
          ≠ Run.listJson [Run.bold "a", Run.plain " ", Run.bold "b"] := by
  have hfits : Markup.Fitting [.marked .bold ['a'] none, .plain [' '], .marked .bold ['b'] none] := by
    refine .cons (fits_bold (by decide) (by decide)) (by simp [Markup.Piece.isPlain]) ?_
    refine .cons (.plain (Markup.isUnmarked_of_all (by decide) (by decide)))
      (by simp [Markup.Piece.isPlain]) ?_
    exact .cons (fits_bold (by decide) (by decide)) (by simp) .nil
  have htrimmed : Text.Trimmed "**a** **b**".toList :=
    ⟨fun c hc => by cases hc; decide, fun c hc => by cases hc; decide⟩
  exact ⟨runs?_written (by decide) hfits htrimmed {}, by decide, by decide⟩

end TextInput

end Syllabus
