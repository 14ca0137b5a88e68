/-
  Syllabus.Proofs.Course.Shape
  ────────────────────────────
  **WHAT IS SENT IS ALWAYS ACCEPTED.**

  The body of a page is its header, its sections and its footer.  Header and
  footer are made by templates, and the content of a section is a list of
  items; so everything on a page is a block in the final form that the remote
  side accepts, whatever the author wrote, as soon as there is a course at all.

      Course.page_meets    a page keeps every promise of its sections
      compiled_isBlock     lists of items and courses give blocks
-/
import Syllabus.Course.Page
import Syllabus.Proofs.Item.Shape

namespace Syllabus

open Form Writing

/-! ## §1. Header and footer. -/

theorem navigation_areBlocks : AreBlocks navigation :=
  AreBlocks.cons isBlock_breadcrumb
    (AreBlocks.cons (isBlock_tableOfContents (Block.colored_mem "gray"))
      (AreBlocks.singleton isBlock_divider))

theorem Course.descriptionBlocks_meets (c : Course) :
    Meets Diagnostic.DropsLink AreBlocks c.descriptionBlocks := by
  unfold Course.descriptionBlocks
  cases c.description with
  | none => exact meets_pure AreBlocks.nil
  | some s =>
      have hcallout := Block.makeCallout_meets "blue_background" true (TextInput.sound_text s)
        AreBlocks.nil "📖"
      exact hcallout.bind fun b hb => meets_pure (AreBlocks.singleton hb)

/-- A block of metadata that may be absent, and what is done with it. -/
theorem optional_meets {D : Diagnostic → Prop} {α : Type} {Q : α → Prop} {w : Writing Block}
    {next : List Block → Writing α} (hw : Meets D (fun b => IsBlock b.toJson) w)
    (hnext : ∀ bs, AreBlocks bs → Meets D Q (next bs)) (absent : Bool) :
    Meets D Q (if absent = true then (do
        let bs ← pure []
        next bs)
      else do
        let b ← w
        let bs ← pure [b]
        next bs) := by
  cases absent with
  | true => exact (meets_pure AreBlocks.nil).bind hnext
  | false =>
      exact hw.bind fun b hb => (meets_pure (AreBlocks.singleton hb)).bind hnext

/-- Metadata comes in columns of one block each. -/
theorem Course.metadataColumns_meets {D : Diagnostic → Prop} (c : Course) :
    Meets D (fun columns => ∀ bs ∈ columns, bs ≠ [] ∧ AreBlocks bs) c.metadataColumns := by
  have htime : Meets D AreBlocks (c.estimatedTime.toList.mapM Template.estimatedTime) :=
    Template.each_meets Template.estimatedTime_meets _
  refine htime.bind fun time ht => ?_
  refine optional_meets (Template.prerequisites_meets c.prerequisites) (fun before hb => ?_) _
  refine optional_meets (Template.objectives_meets c.objectives) (fun goals hg => meets_pure ?_) _
  intro bs hbs
  obtain ⟨b, hmem, rfl⟩ := List.mem_map.mp hbs
  exact ⟨List.cons_ne_nil b [], AreBlocks.singleton ((ht.append hb).append hg b hmem)⟩

theorem Course.metadataBlocks_meets {D : Diagnostic → Prop} (c : Course) :
    Meets D AreBlocks c.metadataBlocks := by
  refine c.metadataColumns_meets.bind fun columns hcolumns => ?_
  match columns with
  | [] => exact meets_pure AreBlocks.nil
  | [column] =>
      have hcolumn := (hcolumns column List.mem_cons_self).2
      exact meets_pure (hcolumn.append (AreBlocks.singleton isBlock_divider))
  | first :: second :: rest =>
      have hlist : IsBlock (Block.makeColumns (first :: second :: rest)).toJson :=
        isBlock_columns (by simp) hcolumns
      exact meets_pure (AreBlocks.cons hlist (AreBlocks.singleton isBlock_divider))

theorem Course.header_meets (c : Course) : Meets Diagnostic.DropsLink AreBlocks c.header :=
  c.descriptionBlocks_meets.bind fun _ hd => c.metadataBlocks_meets.bind fun _ hm =>
    meets_pure ((navigation_areBlocks.append hd).append hm)

theorem pageFooter_meets {D : Diagnostic → Prop} : Meets D AreBlocks pageFooter :=
  Template.courseComplete_meets.bind fun _ hb =>
    meets_pure (AreBlocks.cons isBlock_divider (AreBlocks.singleton hb))

/-! ## §2. Sections. -/

theorem Section.headBlocks_meets (s : Section) :
    Meets Diagnostic.DropsLink AreBlocks s.headBlocks := by
  have hheading := Block.makeHeading_meets (s.color.getD "blue") true
    (TextInput.sound_text s.title) AreBlocks.nil .one s.toggleable
  refine hheading.bind fun heading hh => ?_
  have hend : ∀ about : Option Block, AreBlocks about.toList →
      Meets Diagnostic.DropsLink AreBlocks
        (pure (.divider :: heading :: about.toList) : Writing (List Block)) := by
    intro about ha
    exact meets_pure (AreBlocks.cons isBlock_divider (AreBlocks.cons hh ha))
  cases s.description with
  | none => exact hend none AreBlocks.nil
  | some d =>
      exact (Block.makeParagraph_meets "gray" true (TextInput.sound_text d) AreBlocks.nil).bind hend

section Promises

variable {D : Diagnostic → Prop} {E : Failure → Prop} {options : BuildOptions}

theorem Section.blocks_meets {s : Section} (hlink : ∀ d, d.DropsLink → D d)
    (hcontent : Building.Meets (fun d => D (d.under [.key "content"])) AreBlocks E
      (buildItems options s.content)) : Building.Meets D AreBlocks E (s.blocks options) := by
  have hhead := s.headBlocks_meets.mono hlink fun _ hb => hb
  refine (Building.meets_ofWriting hhead).bind fun head hh => ?_
  exact (hcontent.scope fun d hd => hd).bind fun content hc => Building.meets_pure (hh.append hc)

theorem sectionBlocks_meets {sections : List Section} :
    ∀ {index : Nat}, (∀ s i, (s, i) ∈ sections.zipIdx index →
        Building.Meets (fun d => D (d.under [.key "sections", .index i])) AreBlocks E
          (s.blocks options)) →
      Building.Meets D AreBlocks E (sectionBlocks options index sections) := by
  induction sections with
  | nil => intro index _; exact Building.meets_pure AreBlocks.nil
  | cons s sections ih =>
      intro index h
      rw [List.zipIdx_cons] at h
      have hfirst := h s index List.mem_cons_self
      have hrest := ih fun t i ht => h t i (List.mem_cons_of_mem _ ht)
      refine (hfirst.scope fun d hd => hd).bind fun bs hb => ?_
      exact hrest.bind fun cs hc => Building.meets_pure (hb.append hc)

/-- A page keeps the promises of its sections. -/
theorem Course.page_meets {c : Course} (hlink : ∀ d, d.DropsLink → D d)
    (hsections : ∀ s i, (s, i) ∈ c.sections.zipIdx →
      Building.Meets (fun d => D (d.under [.key "sections", .index i])) AreBlocks E
        (s.blocks options)) : Building.Meets D AreBlocks E (c.page options) := by
  have hheader := c.header_meets.mono hlink fun _ hb => hb
  refine (Building.meets_ofWriting hheader).bind fun header hh => ?_
  refine (sectionBlocks_meets hsections).bind fun sections hs => ?_
  refine (Building.meets_ofWriting pageFooter_meets).bind fun footer hf => Building.meets_pure ?_
  exact (hh.append hs).append hf

/-- Every course gives blocks. -/
theorem Course.page_shape (c : Course) :
    Building.Meets (fun _ => True) AreBlocks E (c.page {}) :=
  Course.page_meets (fun _ _ => trivial) fun s _ _ =>
    Section.blocks_meets (fun _ _ => trivial) (buildItems_shape s.content)

end Promises

/-! ## §3. Whole runs. -/

/-- Building that cannot fail ends in what it promises, from any journal. -/
theorem Building.Meets.runs {α : Type} {D : Diagnostic → Prop} {P : α → Prop} {b : Building α}
    (h : Building.Meets D P (fun _ => False) b) (j : Journal) :
    ∃ a after, b.run.run j = (.ok a, after) ∧ P a := by
  obtain ⟨r, n, hr, _, hresult⟩ := h
  cases r with
  | ok a => exact ⟨a, _, hr j, hresult⟩
  | error e => exact absurd hresult (fun h => h)

/-- Whatever the author wrote as items, and whatever course could be read, building it ends in
blocks, and each of them is one that the remote side accepts, with all that it holds. -/
theorem compiled_isBlock :
    (∀ (items : List Json) (j : Journal), ∃ bs after,
      (buildItems {} items).run.run j = (.ok bs, after) ∧ ∀ b ∈ bs, IsBlock b.toJson)
    ∧ ∀ (course : Json) (c : Course), Course.ofJson course = .ok c → ∀ j : Journal, ∃ bs after,
      (c.page {}).run.run j = (.ok bs, after) ∧ ∀ b ∈ bs, IsBlock b.toJson :=
  ⟨fun items j => (buildItems_shape items).runs j, fun _ c _ j => c.page_shape.runs j⟩

/-- A course of one section with one item, a text in bold. -/
theorem compiled_isBlock_bold :
    let course : Json := .obj [("sections", .arr [.obj [("title", .str "One"),
      ("content", .arr [.str "**Hello**"])]])]
    let c : Course := { sections := [{ title := "One", content := [.str "**Hello**"] }] }
    Course.ofJson course = .ok c ∧ ∀ j : Journal, ∃ bs after,
      (c.page {}).run.run j = (.ok bs, after) ∧ ∀ b ∈ bs, IsBlock b.toJson := by
  intro course c
  have hread : Course.ofJson course = .ok c := by rfl
  exact ⟨hread, compiled_isBlock.2 course c hread⟩

end Syllabus
