/-
  Syllabus.Proofs.Item.Contents
  ─────────────────────────────
  **WHAT THE BUILDER OF EACH TAG DOES WITH WHAT IS NESTED.**

  Twenty-two kinds of content are built in three ways.  Some *open* the
  children of their item: these are built first, and the builder goes on with
  the blocks.  A comparison with both sides opens the children of the sides.
  All others never look at what is nested.

      build_open, build_closed, build_sides    the three ways, as equations
      made_meets                               what a builder promises once
                                               the nested blocks are there
      build_meets                              what it promises for the rest

  `Content.Reports` lists what a builder may report, and when.
-/
import Syllabus.Proofs.Item.Nesting
import Syllabus.Proofs.Template.Builders

namespace Syllabus

/-! ## §1. Three ways to build. -/

/-- Whether a text opens its children: callouts do, and headings that can be folded. -/
def TextFields.opens (f : TextFields) : TextKind → Bool
  | .callout => true
  | .heading1 | .heading2 | .heading3 => f.toggleable
  | .paragraph | .quote => false

/-- Whether content opens the children of its item. -/
def Content.opens : Content → Bool
  | .text kind f => f.opens kind
  | .entry .. | .toggle _ | .step _ | .syncedBlock _ => true
  | _ => false

/-- The sides whose children content opens: those of a comparison that has both. -/
def Content.sides? : Content → Option (SideFields × SideFields)
  | .comparison f =>
      match f.left, f.right with
      | some l, some r => some (l, r)
      | _, _ => none
  | _ => none

/-- Nested blocks that are there already. -/
def Nested.made (children : List Block) : Nested := ⟨pure children, pure [], pure []⟩

variable {c : Content} {nested : Nested} {color : String} {l r : SideFields}

/-- The children are built first. -/
theorem Content.build_open (h : c.opens = true) :
    c.build nested color = nested.children >>= fun bs => c.build (.made bs) color := by
  cases c with
  | text kind f =>
      cases kind with
      | callout => rfl
      | paragraph => exact absurd h (show ¬ (false = true) by decide)
      | quote => exact absurd h (show ¬ (false = true) by decide)
      | heading1 | heading2 | heading3 =>
          have hfold : f.toggleable = true := h
          unfold Content.build TextFields.build
          simp only [TextKind.level?, hfold, if_true]
          rfl
  | entry kind f => rfl
  | toggle f => rfl
  | step f => rfl
  | syncedBlock vs => rfl
  | _ => exact absurd h (show ¬ (false = true) by decide)

/-- What is nested is not looked at. -/
theorem Content.build_closed (h : c.opens = false) (hs : c.sides? = none) :
    c.build nested color = c.build (.made []) color := by
  cases c with
  | text kind f =>
      cases kind with
      | callout => exact absurd h (show ¬ (true = false) by decide)
      | paragraph => rfl
      | quote => rfl
      | heading1 | heading2 | heading3 =>
          have hflat : f.toggleable = false := h
          unfold Content.build TextFields.build
          simp only [TextKind.level?, hflat, Bool.false_eq_true, if_false]
  | entry kind f => exact absurd h (show ¬ (true = false) by decide)
  | toggle f => exact absurd h (show ¬ (true = false) by decide)
  | step f => exact absurd h (show ¬ (true = false) by decide)
  | syncedBlock vs => exact absurd h (show ¬ (true = false) by decide)
  | comparison f =>
      obtain ⟨left, right⟩ := f
      cases left with
      | none => rfl
      | some l =>
          cases right with
          | none => rfl
          | some r => exact absurd hs (by simp [Content.sides?])
  | _ => rfl

/-- Only a comparison that has both sides opens them. -/
theorem Content.eq_of_sides (h : c.sides? = some (l, r)) : c = .comparison ⟨some l, some r⟩ := by
  cases c with
  | comparison f =>
      obtain ⟨left, right⟩ := f
      cases left with
      | none => exact absurd h (by simp [Content.sides?])
      | some l' =>
          cases right with
          | none => exact absurd h (by simp [Content.sides?])
          | some r' =>
              simp only [Content.sides?, Option.some.injEq, Prod.mk.injEq] at h
              rw [h.1, h.2]
  | _ => exact absurd h (by simp [Content.sides?])

/-- The two sides are built one after the other, each at its own place. -/
theorem Content.build_sides (h : c.sides? = some (l, r)) :
    c.build nested color
      = (do
        let left ← Building.scope [.key "left"] (l.build nested.left)
        let right ← Building.scope [.key "right"] (r.build nested.right)
        Building.single (Template.comparison l.title left r.title right)) := by
  rw [Content.eq_of_sides h]
  rfl

/-- A comparison does not open children of its own. -/
theorem Content.opens_of_sides (h : c.sides? = some (l, r)) : c.opens = false := by
  rw [Content.eq_of_sides h]
  rfl

/-- A comparison without one of its sides leaves a line, whatever is given of the other. -/
theorem ComparisonFields.build_incomplete {f : ComparisonFields}
    (hs : (Content.comparison f).sides? = none) :
    f.build nested
      = (do
        Building.ofWriting (Writing.report .compiler "comparison_incomplete"
          "Comparison needs both left and right sides; emitting a divider" .warning)
        pure [.divider]) := by
  obtain ⟨left, right⟩ := f
  cases left with
  | none => rfl
  | some l =>
      cases right with
      | none => rfl
      | some r => exact absurd hs (by simp [Content.sides?])

/-! ## §2. What builders report. -/

/-- The kind of media that a tag shows, if it shows media. -/
def MediaTag.kind? : MediaTag → Option MediaKind
  | .image => some .image
  | .video => some .video
  | .audio => some .audio
  | .pdf => some .pdf
  | _ => none

/-- What building content may report about its own item. -/
inductive Content.Reports : Content → Diagnostic → Prop where
  /-- A link that was dropped. -/
  | link {c : Content} {d : Diagnostic} (h : d.DropsLink) : Reports c d
  /-- Code that was cut, a table without rows, a comparison without one of its sides, or a
  reference that refers to nothing. -/
  | given {c : Content} {d : Diagnostic} (h : d.Warns ["code_truncated", "empty_table",
      "comparison_incomplete", "synced_reference_missing_id", "link_preview_downgraded"]) : Reports c d
  /-- Media at no web address. -/
  | media {kind : MediaKind} {tag : MediaTag} {f : MediaFields} {d : Diagnostic}
      (hkind : tag.kind? = some kind) (h : d.RefusesUrl kind.name (.str f.url)) : Reports (.media tag f) d
  /-- Anything else that is at no web address. -/
  | page {tag : MediaTag} {f : MediaFields} {d : Diagnostic} {name : String}
      (hname : name ∈ ["file", "embed", "bookmark"]) (h : d.RefusesUrl name (.str f.url)) :
      Reports (.media tag f) d
  /-- What is wrong with a quiz. -/
  | quiz {f : QuizFields} {d : Diagnostic} (h : d.OfQuiz f.options.length f.correctIndex) :
      Reports (.quiz f) d

/-- The codes of everything that content may report. -/
def contentCodes : List String :=
  ["invalid_link", "code_truncated", "empty_table", "comparison_incomplete",
    "synced_reference_missing_id", "link_preview_downgraded", "invalid_url", "quiz_too_few_options",
    "quiz_index_clamped"]

/-- Whatever content reports is a warning about its own place. -/
theorem Content.Reports.warns {d : Diagnostic} (h : c.Reports d) : d.Warns contentCodes := by
  have hurl : ∀ {name : String} {url : Json}, d.RefusesUrl name url → d.Warns contentCodes := by
    intro name url h
    rw [h.found]
    exact ⟨rfl, rfl, show "invalid_url" ∈ contentCodes by decide⟩
  cases h with
  | link h => exact h.mono (by decide)
  | given h => exact h.mono (by decide)
  | media hkind h => exact hurl h
  | page hname h => exact hurl h
  | quiz h =>
      cases h with
      | link h => exact h.mono (by decide)
      | few h hcount => exact h.mono (by decide)
      | clamped h hindex => exact h.mono (by decide)

/-! ## §3. What builders promise. -/

open Form

section Promises

variable {D : Diagnostic → Prop} {E : Failure → Prop}

theorem Building.ends_single {w : Writing Block} {b : Block} {n : Notes} (h : Writing.Gives w b n) :
    Ends (Building.single w) (.ok [b]) n := by
  have hends := (ends_ofWriting h).bind (f := fun b => pure [b]) (ends_pure [b])
  rw [Notes.append_none] at hends
  exact hends

theorem Building.single_meets {w : Writing Block}
    (h : Writing.Meets D (fun b => IsBlock b.toJson) w) : Meets D AreBlocks E (Building.single w) :=
  (meets_ofWriting h).bind fun _ hb => meets_pure (AreBlocks.singleton hb)

/-- A builder that drops links at most. -/
theorem Building.single_of_drops {w : Writing Block}
    (h : Writing.Meets Diagnostic.DropsLink (fun b => IsBlock b.toJson) w) :
    Meets c.Reports AreBlocks E (Building.single w) :=
  Building.single_meets (h.mono (fun _ hd => .link hd) fun _ hb => hb)

theorem ListKind.entries_meets (kind : ListKind) (items : List String) :
    Writing.Meets Diagnostic.DropsLink AreBlocks (kind.entries items) :=
  Template.each_meets
    (fun s => Block.makeEntry_meets Color.default true (TextInput.sound_text s) AreBlocks.nil _) _

theorem MediaFields.build_meets (f : MediaFields) (tag : MediaTag) :
    Writing.Meets (Content.media tag f).Reports (fun b => IsBlock b.toJson) (f.build tag) := by
  have hmedia : ∀ kind, tag.kind? = some kind → Writing.Meets (Content.media tag f).Reports
      (fun b => IsBlock b.toJson) (Block.makeMedia kind (.str f.url) f.caption) := by
    intro kind hkind
    exact (Block.makeMedia_meets kind _ f.caption).mono (fun _ hd => .media hkind hd) fun _ hb => hb
  cases tag with
  | image => exact hmedia .image rfl
  | video => exact hmedia .video rfl
  | audio => exact hmedia .audio rfl
  | pdf => exact hmedia .pdf rfl
  | file =>
      exact (Block.makeFile_meets _ f.name f.caption).mono
        (fun _ hd => .page (by decide) hd) fun _ hb => hb
  | embed => exact (Block.makeEmbed_meets _).mono (fun _ hd => .page (by decide) hd) fun _ hb => hb
  | bookmark =>
      exact (Block.makeBookmark_meets _ f.caption).mono (fun _ hd => .page (by decide) hd)
        fun _ hb => hb
  | linkPreview =>
      refine (Block.makeLinkPreview_meets _ f.caption).mono ?_ fun _ hb => hb
      intro d hd
      rcases hd with hpreview | hurl
      · exact .given (hpreview.mono (by decide))
      · exact .page (by decide) hurl

theorem LayoutKind.isBlock (color : String) (kind : LayoutKind) :
    IsBlock (kind.block color).toJson := by
  cases kind with
  | divider => exact isBlock_divider
  | tableOfContents => exact isBlock_tableOfContents (Block.colored_mem color)
  | breadcrumb => exact isBlock_breadcrumb

theorem TableFields.build_meets (f : TableFields) :
    Writing.Meets (Diagnostic.Warns ["empty_table"]) AreBlocks f.build := by
  unfold TableFields.build
  split
  · rename_i c cs rest _
    have hsound : ∀ row ∈ (((c :: cs) :: rest).map fun row => row.map Json.str), ∀ cell ∈ row,
        (TextInput.ofJson cell).Sound := by
      intro row hrow cell hcell
      obtain ⟨texts, _, rfl⟩ := List.mem_map.mp hrow
      obtain ⟨s, _, rfl⟩ := List.mem_map.mp hcell
      exact TextInput.sound_text s
    have htable := Block.makeTable_meets (D := Diagnostic.Warns ["empty_table"])
      (List.cons_ne_nil (Json.str c) (cs.map Json.str)) hsound f.hasColumnHeader f.hasRowHeader
    exact htable.bind fun b hb => Writing.meets_pure (AreBlocks.singleton hb)
  · refine (Writing.meets_report ?_).bind fun _ _ => Writing.meets_pure AreBlocks.nil
    exact ⟨rfl, rfl, List.mem_singleton.mpr rfl⟩

theorem syncedReference_meets (blockId : String) :
    Writing.Meets (Diagnostic.Warns ["synced_reference_missing_id"]) AreBlocks
      (syncedReference blockId) := by
  unfold syncedReference
  split
  · refine (Writing.meets_report ?_).bind fun _ _ => Writing.meets_pure AreBlocks.nil
    exact ⟨rfl, rfl, List.mem_singleton.mpr rfl⟩
  · exact Writing.meets_pure (AreBlocks.singleton (isBlock_syncedReference _))

/-- A text gives blocks, whatever kind of block it becomes. -/
theorem TextFields.made_meets (f : TextFields) (kind : TextKind) {children : List Block}
    (hchildren : AreBlocks children) :
    Building.Meets (Content.text kind f).Reports AreBlocks E (f.build kind color (.made children)) := by
  have hinput := TextInput.sound_input f.text
  -- A heading that cannot be folded drops the blocks that it is handed.
  have hheading : ∀ level, Building.Meets (Content.text kind f).Reports AreBlocks E (do
      let bs ← if f.toggleable then pure children else pure []
      Building.single (Block.makeHeading level f.text.input color f.toggleable bs true)) := by
    intro level
    cases f.toggleable with
    | true =>
        exact Building.single_of_drops (Block.makeHeading_meets color true hinput hchildren level _)
    | false =>
        exact Building.single_of_drops
          (Block.makeHeading_meets color true hinput AreBlocks.nil level _)
  cases kind with
  | heading1 => exact hheading .one
  | heading2 => exact hheading .two
  | heading3 => exact hheading .three
  | paragraph =>
      have hparagraph := Block.makeParagraph_meets color true hinput AreBlocks.nil
      refine (Building.meets_ofWriting (hparagraph.mono (fun _ hd => .link hd) fun _ h => h)).bind
        fun o ho => Building.meets_pure ho
  | quote =>
      exact Building.single_of_drops (Block.makeQuote_meets color true hinput AreBlocks.nil)
  | callout =>
      exact Building.single_of_drops (Block.makeCallout_meets color true hinput hchildren _)

theorem ComparisonFields.made_meets {f : ComparisonFields} (hs : (Content.comparison f).sides? = none) :
    Building.Meets (Content.comparison f).Reports AreBlocks E (f.build nested) := by
  rw [ComparisonFields.build_incomplete hs]
  refine (Building.meets_ofWriting (Writing.meets_report (.given ?_))).bind fun _ _ =>
    Building.meets_pure (AreBlocks.singleton isBlock_divider)
  exact ⟨rfl, rfl, by decide⟩

/-- A builder that is handed its nested blocks gives blocks, and reports what it may. -/
theorem Content.made_meets {children : List Block} (hchildren : AreBlocks children)
    (hs : c.sides? = none) : Building.Meets c.Reports AreBlocks E (c.build (.made children) color) := by
  cases c with
  | text kind f => exact f.made_meets kind hchildren
  | note kind s => exact Building.single_meets (Template.note_meets s kind)
  | code f =>
      refine Building.single_meets ((Block.makeCode_meets _ _ f.caption).mono ?_ fun _ h => h)
      intro d hd
      exact .given (hd.mono (by decide))
  | equation f =>
      exact Building.meets_pure (AreBlocks.singleton (isBlock_equation _))
  | codeWithExplanation f =>
      show Building.Meets _ _ _ (Building.ofWriting (Template.codeWithExplanation
        (orElse f.code f.text) (.str f.language) f.explanations))
      exact Building.meets_ofWriting (Template.codeWithExplanation_meets _ _ f.explanations)
  | entry kind f =>
      exact Building.single_of_drops
        (Block.makeEntry_meets color true (TextInput.sound_input f.text) hchildren _)
  | group kind items =>
      refine Building.meets_ofWriting ((kind.entries_meets items).mono ?_ fun _ h => h)
      intro d hd
      exact .link hd
  | toggle f =>
      exact Building.single_of_drops
        (Block.makeToggle_meets color true (TextInput.sound_input f.text) hchildren)
  | media tag f => exact Building.single_meets (f.build_meets tag)
  | layout kind => exact Building.meets_pure (AreBlocks.singleton (kind.isBlock color))
  | table f =>
      refine Building.meets_ofWriting (f.build_meets.mono ?_ fun _ h => h)
      intro d hd
      exact .given (hd.mono (by decide))
  | comparison f => exact ComparisonFields.made_meets hs
  | definition f => exact Building.single_meets (Template.definition_meets f.term _ _)
  | step f => exact Building.single_meets (Template.step_meets hchildren _ _ _)
  | exercise f => exact Building.single_meets (Template.exercise_meets _ _ f.solution _)
  | quiz f =>
      refine Building.single_meets ((Template.quiz_meets _ f.options f.correctIndex).mono ?_
        fun _ h => h)
      intro d hd
      exact .quiz hd
  | summary items => exact Building.single_meets (Template.summary_meets items)
  | objectives f => exact Building.single_meets (Template.objectives_meets _)
  | prerequisites items => exact Building.single_meets (Template.prerequisites_meets items)
  | estimatedTime minutes => exact Building.single_meets (Template.estimatedTime_meets _)
  | syncedBlock vs => exact Building.meets_pure (AreBlocks.singleton (isBlock_synced hchildren))
  | syncedBlockReference blockId =>
      refine Building.meets_ofWriting ((syncedReference_meets blockId).mono ?_ fun _ h => h)
      intro d hd
      exact .given (hd.mono (by decide))

/-- A side has its points in front of what is nested in it. -/
theorem SideFields.build_meets (side : SideFields) {b : Building (List Block)}
    (hlink : ∀ d, d.DropsLink → D d) (h : Building.Meets D AreBlocks E b) :
    Building.Meets D AreBlocks E (side.build b) := by
  have hpoints := (ListKind.bulleted.entries_meets side.items).mono hlink fun _ hbs => hbs
  exact (Building.meets_ofWriting hpoints).bind fun points hp => h.bind fun bs hbs =>
    Building.meets_pure (hp.append hbs)

/-- Content keeps the promises of what is nested in it. -/
theorem Content.build_meets (hown : ∀ d, c.Reports d → D d)
    (hchildren : c.opens = true → Building.Meets D AreBlocks E nested.children)
    (hleft : c.sides?.isSome = true →
      Building.Meets (fun d => D (d.under [.key "left"])) AreBlocks E nested.left)
    (hright : c.sides?.isSome = true →
      Building.Meets (fun d => D (d.under [.key "right"])) AreBlocks E nested.right)
    (hlink : c.sides?.isSome = true → ∀ side ∈ ["left", "right"], ∀ d : Diagnostic, d.DropsLink →
      D (d.under [.key side])) :
    Building.Meets D AreBlocks E (c.build nested color) := by
  cases hsides : c.sides? with
  | some sides =>
      obtain ⟨l, r⟩ := sides
      rw [hsides] at hleft hright hlink
      rw [Content.build_sides hsides]
      have hl := l.build_meets (hlink rfl "left" (by decide)) (hleft rfl)
      have hr := r.build_meets (hlink rfl "right" (by decide)) (hright rfl)
      refine (hl.scope fun d hd => hd).bind fun left hlbs => ?_
      refine (hr.scope fun d hd => hd).bind fun right hrbs => ?_
      exact Building.single_meets (Template.comparison_meets hlbs hrbs l.title r.title)
  | none =>
      have hmade : ∀ bs, AreBlocks bs → Building.Meets D AreBlocks E (c.build (.made bs) color) :=
        fun bs hbs => (Content.made_meets hbs hsides).mono hown fun _ h => h
      cases hopens : c.opens with
      | true =>
          rw [Content.build_open hopens]
          exact (hchildren hopens).bind hmade
      | false =>
          rw [Content.build_closed hopens hsides]
          exact hmade [] AreBlocks.nil

end Promises

end Syllabus
