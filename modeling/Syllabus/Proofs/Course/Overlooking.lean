/-
  Syllabus.Proofs.Course.Overlooking
  ──────────────────────────────────
  **WHICH DEGRADATIONS THE DIAGNOSTICS MISS.**

  Every degradation that is met while a page is built is logged, and all that
  is recorded is logged too.  What is logged and not recorded is what goes
  through a template: the links and the code of such texts, in items and in
  the metadata of a course.

      Course.overlooked          what is overlooked in a course
      Course.page_overlooks      this and no more is logged and not recorded
      degradations_overlooked    so log and record agree if and only if there
                                 is nothing of this kind
-/
import Syllabus.Course.Page
import Syllabus.Proofs.Course.Rehearsal
import Syllabus.Proofs.Item.Overlooking

namespace Syllabus

open Markup Template

/-! ## §1. Header, sections and footer. -/

/-- What is overlooked in the metadata of a course. -/
def Course.overlookedMetadata (c : Course) : List Report :=
  (cleanItems c.prerequisites).flatMap droppedLinks ++ (cleanItems c.objectives).flatMap droppedLinks

/-- What is overlooked in a course. -/
def Course.overlooked (c : Course) : List Report :=
  c.overlookedMetadata ++ c.sections.flatMap fun s => overlookedAmong s.content

section Header

open Writing

theorem Course.descriptionBlocks_overlook (c : Course) : c.descriptionBlocks.Overlooks [] := by
  unfold Course.descriptionBlocks
  cases c.description with
  | none => exact overlooks_pure []
  | some s =>
      have hcallout := Block.makeCallout_reports (TextInput.text_reports s) "blue_background" [] "📖"
      exact hcallout.overlooks.then_pure fun b => [b]

/-- A block of metadata, which is absent if there is nothing to show. -/
theorem optional_overlooks {α : Type} {items : List String} {w : Writing Block} {rs : List Report}
    {next : List Block → Writing α}
    (hw : Overlooks w ((cleanItems items).flatMap droppedLinks)) (hnext : ∀ bs, Overlooks (next bs) rs) :
    Overlooks (if items.isEmpty = true then (do
        let bs ← pure []
        next bs)
      else do
        let b ← w
        let bs ← pure [b]
        next bs) ((cleanItems items).flatMap droppedLinks ++ rs) := by
  cases items with
  | nil => exact (overlooks_pure []).bind hnext
  -- Not absent, even if all the texts are blank: then it has no entries.
  | cons item items => exact hw.bind fun b => (overlooks_pure [b]).none_then hnext

theorem Course.metadataColumns_overlook (c : Course) :
    c.metadataColumns.Overlooks c.overlookedMetadata := by
  have htime : Overlooks (c.estimatedTime.toList.mapM Template.estimatedTime) [] := by
    have hall := Overlooks.mapM estimatedTime_overlooks c.estimatedTime.toList
    rw [List.flatMap_eq_nil_iff.mpr fun _ _ => rfl] at hall
    exact hall
  refine htime.none_then fun time => ?_
  refine optional_overlooks (prerequisites_overlooks c.prerequisites) fun before => ?_
  have hgoals := optional_overlooks (objectives_overlooks c.objectives) fun goals =>
    overlooks_pure ((time ++ before ++ goals).map fun b => [b])
  rw [List.append_nil] at hgoals
  exact hgoals

theorem Course.metadataBlocks_overlook (c : Course) :
    c.metadataBlocks.Overlooks c.overlookedMetadata := by
  refine c.metadataColumns_overlook.then_none fun columns => ?_
  match columns with
  | [] => exact overlooks_pure []
  | [column] => exact overlooks_pure _
  | first :: second :: rest => exact overlooks_pure _

theorem Course.header_overlooks (c : Course) : c.header.Overlooks c.overlookedMetadata :=
  c.descriptionBlocks_overlook.none_then fun _ => c.metadataBlocks_overlook.then_pure _

theorem pageFooter_overlooks : pageFooter.Overlooks [] := courseComplete_overlooks.then_pure _

theorem Section.headBlocks_overlook (s : Section) : s.headBlocks.Overlooks [] := by
  have hheading := Block.makeHeading_reports (TextInput.text_reports s.title) (s.color.getD "blue") []
    .one s.toggleable
  refine hheading.overlooks.none_then fun heading => ?_
  cases s.description with
  | none => exact overlooks_pure _
  | some d =>
      have habout := Block.makeParagraph_reports (TextInput.text_reports d) "gray" []
      exact habout.overlooks.then_pure _

end Header

/-! ## §2. The page. -/

theorem sectionBlocks_overlook (sections : List Section) :
    ∀ index, Building.Overlooks (sectionBlocks {} index sections)
      (sections.flatMap fun s => overlookedAmong s.content) := by
  induction sections with
  | nil => intro index; exact Building.overlooks_pure []
  | cons s sections ih =>
      intro index
      have hcontent := (buildItems_overlooks s.content).scope [.key "content"]
      have hsection : Building.Overlooks (s.blocks {}) (overlookedAmong s.content) :=
        (Building.overlooks_ofWriting s.headBlocks_overlook).none_then fun head =>
          hcontent.then_pure fun content => head ++ content
      rw [List.flatMap_cons]
      refine (hsection.scope [.key "sections", .index index]).bind fun blocks => ?_
      exact (ih (index + 1)).then_pure fun others => blocks ++ others

/-- What building a page logs is woven from what it records and from what is overlooked. -/
theorem Course.page_overlooks (c : Course) : Building.Overlooks (c.page {}) c.overlooked := by
  refine (Building.overlooks_ofWriting c.header_overlooks).bind fun header => ?_
  refine (sectionBlocks_overlook c.sections 0).then_none fun sections => ?_
  exact (Building.overlooks_ofWriting pageFooter_overlooks).then_pure fun footer =>
    header ++ sections ++ footer

theorem Course.ofTexts_overlooked (c : Course) : OfTexts c.overlooked := by
  have hlinks : ∀ items, OfTexts ((cleanItems items).flatMap droppedLinks) := fun items =>
    ofTexts_flatMap ofTexts_droppedLinks _
  have hcontent : ∀ s : Section, OfTexts (overlookedAmong s.content) := fun s =>
    ofTexts_overlookedAmong fun v _ => ofTexts_overlookedIn v
  exact ((hlinks _).append (hlinks _)).append (ofTexts_flatMap hcontent _)

/-! ## §3. Logs and records. -/

/-- **Which degradations are logged and not recorded.**

Whether failures are isolated or not, what is logged while a list of items or a page is built is what
is recorded, and woven into it what is overlooked; these are only links that were dropped and code
that was cut.  So the log and the record agree exactly if nothing is overlooked. -/
theorem degradations_overlooked (isolate : Bool) :
    (∀ items : List Json,
      let after := ((buildItems { isolate } items).run.run {}).2
      Woven after.recorded (overlookedAmong items) after.logged
        ∧ (∀ r ∈ overlookedAmong items, r.1 ∈ ["invalid_link", "code_truncated"])
        ∧ (after.logged = after.recorded ↔ overlookedAmong items = []))
    ∧ ∀ c : Course,
      let after := ((c.page { isolate }).run.run {}).2
      Woven after.recorded c.overlooked after.logged
        ∧ (∀ r ∈ c.overlooked, r.1 ∈ ["invalid_link", "code_truncated"])
        ∧ (after.logged = after.recorded ↔ c.overlooked = []) := by
  -- No builder is out of order, so there is nothing to isolate.
  have hworks : ∀ tag, ({ isolate } : BuildOptions).failing tag = none := fun _ => rfl
  refine ⟨fun items => ?_, fun c => ?_⟩
  · have hitems : buildItems { isolate } items = buildItems {} items :=
      buildFrom_congr (fun v _ => buildItem_unfailing hworks v) 0
    have hoverlooks := buildItems_overlooks items
    rw [hitems]
    exact ⟨hoverlooks.journal, ofTexts_overlookedAmong fun v _ => ofTexts_overlookedIn v,
      hoverlooks.journal.eq_iff⟩
  · have hoverlooks := c.page_overlooks
    rw [c.page_unfailing hworks]
    exact ⟨hoverlooks.journal, c.ofTexts_overlooked, hoverlooks.journal.eq_iff⟩

/-- A quiz drops the link of its first option twice, in the list of options and in the answer that it
folds away; both are logged and the first one is recorded. -/
theorem quiz_answer_overlooked :
    let quiz : Json := .obj [("type", .str "quiz"), ("question", .str "Where?"),
      ("options", .arr [.str "[here](foo)", .str "there"]), ("correctIndex", .int 0)]
    let after := ((buildItems {} [quiz]).run.run {}).2
    let dropped : Report := ("invalid_link",
      "Link 'foo' is not an absolute http(s) URL; keeping the label as plain text")
    after.logged = [dropped, dropped] ∧ after.recorded = [dropped]
      ∧ after.logged ≠ after.recorded := by
  decide +kernel

end Syllabus
