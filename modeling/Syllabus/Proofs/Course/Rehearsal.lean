/-
  Syllabus.Proofs.Course.Rehearsal
  ────────────────────────────────
  **A REHEARSAL SAYS WHAT THE REVIEW SAYS, AND WHAT BUILDING WOULD DO.**

  A rehearsal adds to the errors of the review those errors of building whose
  code the review does not know.  That these are the losses, and nothing else,
  is a fact about all of building: whatever any item reports, it is an error
  only if the item does not fit.

      Diagnostic.Graded      errors are items that do not fit, and losses
      Course.page_graded     all that building a page reports is graded so

  And with all builders in order, isolation is not noticed at all:

      buildItem_unfailing    every item is built the same way
      Course.page_unfailing  so is every page
      rehearsal_agrees       so the rehearsal agrees with the review and with
                             what is built
-/
import Syllabus.Course.Rehearsal
import Syllabus.Proofs.Course.Shape
import Syllabus.Proofs.Item.Isolation

namespace Syllabus

open Form Building

/-! ## §1. Isolation when nothing fails. -/

/-- There is nothing to recover from in what cannot fail. -/
theorem Building.recover_of_meets {α : Type} {D : Diagnostic → Prop} {P : α → Prop} {b : Building α}
    (h : Meets D P (fun _ => False) b) (handle : Failure → Building α) :
    Building.recover b handle = b := by
  obtain ⟨r, n, hends, _, hresult⟩ := h
  cases r with
  | error e => exact absurd hresult id
  | ok a =>
      funext j
      exact (hends.recover handle j).trans (hends j).symm

section Unfailing

variable {options : BuildOptions} (hworks : ∀ tag, options.failing tag = none)

include hworks

theorem Item.build_unfailing {item : Item} {nested : Nested} {D : Diagnostic → Prop}
    (h : Meets D AreBlocks (fun _ => False) (item.build {} nested)) :
    item.build options nested = item.build {} nested := by
  cases item with
  | known color content =>
      have hbuilt : content.buildWith options nested color = content.buildWith {} nested color := by
        rw [Content.buildWith_working (hworks content.tag), Content.buildWith_working rfl]
      have h : Meets D AreBlocks (fun _ => False) (content.buildWith {} nested color) := h
      show (if options.isolate = true then
          Building.recover (content.buildWith options nested color) (leaveNotice content.tag)
        else content.buildWith options nested color) = content.buildWith {} nested color
      rw [hbuilt]
      split
      · exact recover_of_meets h _
      · rfl
  | unknown tag text => rfl
  | malformed tag error => rfl

omit hworks in
theorem buildFrom_congr {options' : BuildOptions} {vs : List Json}
    (h : ∀ v ∈ vs, buildItem options v = buildItem options' v) :
    ∀ index, buildFrom options index vs = buildFrom options' index vs := by
  induction vs with
  | nil => intro index; rfl
  | cons v vs ih =>
      intro index
      rw [buildFrom_cons, buildFrom_cons, h v List.mem_cons_self,
        ih fun w hw => h w (List.mem_cons_of_mem v hw)]

/-- With all builders in order, every item is built as if failures were not isolated. -/
theorem buildItem_unfailing (v : Json) : buildItem options v = buildItem {} v := by
  have hshape : ∀ w, Meets (fun _ => True) AreBlocks (fun _ => False) (buildItem {} w) :=
    fun w => buildItem_shape w
  induction v using item_induction with
  | scalar v hv =>
      have hitem := hshape v
      rw [buildItem_scalar _ hv] at hitem ⊢
      rw [buildItem_scalar _ hv, Item.build_unfailing hworks hitem]
  | object ms ihchildren ihsides =>
      have hitem := hshape (.obj ms)
      have hnested : Nested.of options ms = Nested.of {} ms := by
        unfold Nested.of buildItems
        rw [buildFrom_congr ihchildren, buildFrom_congr (ihsides "left"),
          buildFrom_congr (ihsides "right")]
      rw [buildItem_obj] at hitem ⊢
      rw [buildItem_obj, hnested, Item.build_unfailing hworks hitem]

theorem sectionBlocks_unfailing (sections : List Section) :
    ∀ index, sectionBlocks options index sections = sectionBlocks {} index sections := by
  induction sections with
  | nil => intro index; rfl
  | cons s sections ih =>
      intro index
      have hcontent : buildItems options s.content = buildItems {} s.content :=
        buildFrom_congr (fun v _ => buildItem_unfailing hworks v) 0
      have hsection : s.blocks options = s.blocks {} := by
        unfold Section.blocks
        rw [hcontent]
      unfold sectionBlocks
      rw [hsection, ih]

/-- So is every page. -/
theorem Course.page_unfailing (c : Course) : c.page options = c.page {} := by
  unfold Course.page
  rw [sectionBlocks_unfailing hworks]

end Unfailing

/-! ## §2. What is an error. -/

/-- The diagnostic is an error exactly if the review knows its code or it reports a loss. -/
def Diagnostic.Graded (d : Diagnostic) : Prop :=
  d.severity = .error ↔ d.code ∈ reviewedCodes ∨ d.isLoss = true

theorem Diagnostic.Graded.under {d : Diagnostic} (h : d.Graded) (steps : Path) :
    (d.under steps).Graded := h

theorem Diagnostic.Warns.graded {codes : List String} {d : Diagnostic} (h : d.Warns codes)
    (hcodes : ∀ code ∈ codes, code ∉ reviewedCodes ∧ code ≠ Loss.code) : d.Graded := by
  obtain ⟨hreviewed, hloss⟩ := hcodes d.code h.2.2
  have hwarning : d.severity ≠ .error := by
    rw [h.2.1]
    decide
  refine iff_of_false hwarning ?_
  rintro (hcode | hcode)
  · exact hreviewed hcode
  · exact hloss (of_decide_eq_true hcode)

theorem Loss.graded_diagnostic (l : Loss) : l.diagnostic.Graded :=
  iff_of_true rfl (.inr rfl)

/-- What an item reports about itself is a warning, unless the item does not fit. -/
theorem Item.Reports.graded {item : Item} {d : Diagnostic} (h : item.Reports d) : d.Graded := by
  cases h with
  | known hcontent => exact hcontent.warns.graded (by decide)
  | unknown hunknown => exact hunknown.graded (by decide)
  | malformed => exact iff_of_true rfl (.inl (List.mem_singleton.mpr rfl))

section Anywhere

variable {D : Diagnostic → Prop} {E : Failure → Prop}
  (hunder : ∀ d, D d → ∀ steps, D (d.under steps)) (hown : ∀ item d, Item.Reports item d → D d)

include hunder hown

/-- What is true of all that items report about themselves, wherever they stand, is true of all that
building items reports. -/
theorem buildItems_reports (items : List Json) : Meets D AreBlocks E (buildItems {} items) := by
  have hkept : KeptByItems fun _ d => D d :=
    { own := fun v d hd => hown (Item.ofJson v) d hd
      child := fun _ _ _ _ _ d hd => hunder d hd _
      sideChild := fun _ _ _ _ _ _ _ d hd => hunder d hd _
      sideLink := fun _ _ _ _ d hlink =>
        hunder d (hown (.known none (.layout .divider)) d (.known (.link hlink))) _ }
  exact buildFrom_meets AreBlocks.nil (fun _ _ hb hc => hb.append hc) fun v _ _ =>
    (buildItem_meets hkept v).mono (fun d hd => hunder d hd _) fun _ hb => hb

/-- So it is of all that building a page reports, if it is of its items. -/
theorem Course.page_reports {options : BuildOptions} (c : Course)
    (hitems : ∀ items, Meets D AreBlocks E (buildItems options items)) :
    Meets D AreBlocks E (c.page options) := by
  have hlink : ∀ d : Diagnostic, d.DropsLink → D d := fun d hd =>
    hown (.known none (.layout .divider)) d (.known (.link hd))
  refine Course.page_meets hlink fun s _ i => ?_
  have hsection : Meets D AreBlocks E (s.blocks options) :=
    Section.blocks_meets hlink ((hitems s.content).mono (fun d hd => hunder d hd _) fun _ hb => hb)
  exact hsection.mono (fun d hd => hunder d hd _) fun _ hb => hb

end Anywhere

/-- Items that are built with failures isolated are graded too: what they report besides the losses
is reported by the items with stand-ins. -/
theorem buildItems_isolated_graded (failing : Tag → Option String) (items : List Json) :
    Meets Diagnostic.Graded AreBlocks (fun _ => False)
      (buildItems { failing, isolate := true } items) := by
  obtain ⟨blocks, n, m, _, hblocks, hends, hplain, _, hkept, hlost⟩ :=
    isolates_from failing (fun v (_ : v ∈ items) => isolates_item failing v) 0
  have hnoticed : Meets Diagnostic.Graded AreBlocks (fun _ => False)
      (buildItems {} (items.map (noticed failing))) :=
    buildItems_reports (fun _ hd => hd.under) (fun _ _ hd => hd.graded) _
  obtain ⟨_, m', hplain', hgraded, _⟩ := hnoticed
  rw [← (Ends.unique hplain hplain').2] at hgraded
  refine ⟨.ok blocks, n, hends, ?_, hblocks⟩
  intro d hd
  cases hloss : d.isLoss with
  | false =>
      refine hgraded d ?_
      rw [← hkept, List.mem_filter, hloss]
      exact ⟨hd, rfl⟩
  | true =>
      have hmem : d ∈ n.found.filter Diagnostic.isLoss := List.mem_filter.mpr ⟨hd, hloss⟩
      rw [hlost, List.mem_map] at hmem
      obtain ⟨l, _, rfl⟩ := hmem
      exact l.graded_diagnostic

/-- All that building a page reports is graded, whatever builders are out of order. -/
theorem Course.page_graded (failing : Tag → Option String) (c : Course) :
    Meets Diagnostic.Graded AreBlocks (fun _ => False) (c.page { failing, isolate := true }) :=
  Course.page_reports (fun _ hd => hd.under) (fun _ _ hd => hd.graded) c
    (buildItems_isolated_graded failing)

/-- With all builders in order no loss is reported. -/
theorem Course.page_lossless (c : Course) :
    Meets (fun d => d.isLoss = false) AreBlocks (fun _ => False) (c.page {}) := by
  have hown : ∀ item d, Item.Reports item d → d.isLoss = false :=
    fun _ _ hd => decide_eq_false hd.not_loss
  exact Course.page_reports (fun _ hd _ => hd) hown c
    (buildItems_reports (fun _ hd _ => hd) hown)

/-! ## §3. Rehearsals. -/

/-- The errors that no review finds are the losses. -/
theorem buildErrors_of_graded {found : Collector} (h : ∀ d ∈ found.entries, d.Graded) :
    buildErrors found = (found.entries.filter Diagnostic.isLoss).map Diagnostic.text := by
  unfold buildErrors Collector.errors
  rw [List.filter_filter]
  congr 1
  refine List.filter_congr fun d hd => ?_
  have hunknown : d.isLoss = true → d.code ∉ reviewedCodes := by
    intro hloss
    rw [show d.code = Loss.code from of_decide_eq_true hloss]
    decide
  rw [Bool.eq_iff_iff, Bool.and_eq_true, Bool.not_eq_true', decide_eq_true_eq,
    List.contains_eq_mem, decide_eq_false_iff_not, show _ ↔ _ from h d hd]
  constructor
  · rintro ⟨hnot, hcode | hloss⟩
    · exact absurd hcode hnot
    · exact hloss
  · exact fun hloss => ⟨hunknown hloss, .inr hloss⟩

/-- **A rehearsal agrees with the review and with building.**  Whatever builders are out of order, it
comes to the errors of the review and then the text of each loss that was recorded, to the warnings
of the review, and to what building with isolated failures gives and records.  With all builders in
order that is what building gives and records, and the errors are those of the review. -/
theorem rehearsal_agrees (failing : Tag → Option String) (course : Json) (c : Course)
    (hc : Course.ofJson course = .ok c) :
    let verdict := (Review.course course {}).1
    ∃ r remarks blocks after,
      Course.rehearse failing course = .ok (r, remarks)
        ∧ (c.page { failing, isolate := true }).run.run {} = (.ok blocks, after)
        ∧ r.errors
          = verdict.errors ++ (after.collector.entries.filter Diagnostic.isLoss).map Diagnostic.text
        ∧ r.warnings = verdict.warnings
        ∧ (r.valid = true ↔ r.errors = [])
        ∧ r.generatedBlocks = blocks.length
        ∧ r.diagnostics = after.collector.entries
        ∧ ((∀ tag, failing tag = none) →
          (c.page {}).run.run {} = (.ok blocks, after)
            ∧ r.errors = verdict.errors
            ∧ r.valid = verdict.valid) := by
  intro verdict
  obtain ⟨result, n, hends, hgraded, hblocks⟩ := c.page_graded failing
  cases result with
  | error e => exact absurd hblocks id
  | ok blocks =>
      have hrun := hends {}
      have hentries : ∀ d ∈ (({} : Journal).noted n).collector.entries, d.Graded := by
        rw [Journal.noted_fresh]
        exact hgraded
      have hrehearse : Course.rehearse failing course
          = .ok ({ errors := verdict.errors ++ buildErrors (({} : Journal).noted n).collector
                   warnings := verdict.warnings
                   statistics := Statistics.ofCourse course
                   generatedBlocks := blocks.length
                   diagnostics := (({} : Journal).noted n).collector.entries },
              (({} : Journal).noted n).remarks) := by
        simp only [Course.rehearse, Building.fresh, hc, hrun, bind, Except.bind, pure, Except.pure]
        rfl
      refine ⟨_, _, blocks, _, hrehearse, hrun, ?_, rfl, List.isEmpty_iff, rfl, rfl, ?_⟩
      · exact congrArg (verdict.errors ++ ·) (buildErrors_of_graded hentries)
      · intro hworks
        have hworks : ∀ tag, ({ failing, isolate := true } : BuildOptions).failing tag = none := hworks
        rw [c.page_unfailing hworks] at hends hrun
        obtain ⟨_, m, hplain, hlossless, _⟩ := c.page_lossless
        rw [← (hends.unique hplain).2] at hlossless
        have hnone : (({} : Journal).noted n).collector.entries.filter Diagnostic.isLoss = [] := by
          rw [Journal.noted_fresh, List.filter_eq_nil_iff]
          intro d hd
          rw [hlossless d hd]
          exact Bool.false_ne_true
        have herrors : verdict.errors ++ buildErrors (({} : Journal).noted n).collector
            = verdict.errors := by
          rw [buildErrors_of_graded hentries, hnone, List.map_nil, List.append_nil]
        exact ⟨hrun, herrors, congrArg List.isEmpty herrors⟩

/-- A section with a quiz and with an entry that does not fit.  With the builder of quizzes out of
order there is a loss besides the error of the review; with all builders in order there is none. -/
theorem rehearsal_agrees_quiz :
    let quiz : Json := .obj [("type", .str "quiz"), ("options", .arr [.str "yes", .int 2])]
    let entry : Json := .obj [("type", .str "bullet"), ("checked", .str "maybe")]
    let course : Json := .obj [("title", .str "Course"), ("sections", .arr [.obj
      [("title", .str "One"), ("content", .arr [quiz, entry])]])]
    let c : Course :=
      { title := "Course", sections := [{ title := "One", content := [quiz, entry] }] }
    let failing : Tag → Option String := fun tag => if tag = .quiz then some "no ink" else none
    Course.ofJson course = .ok c
      ∧ (∃ r remarks, Course.rehearse failing course = .ok (r, remarks)
        ∧ r.errors = (Review.course course {}).1.errors
          ++ ["sections.0.content.0: Failed to build quiz item: no ink"])
      ∧ ∃ r remarks blocks after, Course.rehearse (fun _ => none) course = .ok (r, remarks)
        ∧ (c.page {}).run.run {} = (.ok blocks, after)
        ∧ r.errors = (Review.course course {}).1.errors
        ∧ r.diagnostics = after.collector.entries := by
  intro quiz entry course c failing
  have hread : Course.ofJson course = .ok c := by rfl
  have hlosses : ((((c.page { failing, isolate := true }).run.run {}).2.collector.entries.filter
      Diagnostic.isLoss).map Diagnostic.text)
        = ["sections.0.content.0: Failed to build quiz item: no ink"] := by
    decide +kernel
  obtain ⟨r, remarks, _, after, hrehearse, hrun, herrors, _⟩ :=
    rehearsal_agrees failing course c hread
  obtain ⟨r', remarks', blocks', after', hrehearse', _, _, _, _, _, hdiagnostics', hworks'⟩ :=
    rehearsal_agrees (fun _ => none) course c hread
  obtain ⟨hrun', herrors', _⟩ := hworks' fun _ => rfl
  rw [hrun] at hlosses
  rw [hlosses] at herrors
  exact ⟨hread, ⟨r, remarks, hrehearse, herrors⟩,
    ⟨r', remarks', blocks', after', hrehearse', hrun', herrors', hdiagnostics'⟩⟩

end Syllabus
