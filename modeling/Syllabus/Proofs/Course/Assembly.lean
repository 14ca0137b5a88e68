/-
  Syllabus.Proofs.Course.Assembly
  ───────────────────────────────
  **A PAGE IS ITS HEADER, ITS SECTIONS AND ITS FOOTER.**

  A slice is a stretch of a page together with what is found wrong in it.
  Slices are put one after the other, and seen from further out.  Every part
  of a course has a slice of its own, which depends on nothing else:

      Slice.ofHead       description, estimated time, prerequisites, objectives
      Slice.ofSection    one section: a rule, its heading, what it is about, its
                         items
      Slice.foot         the same for all courses

  A run that builds a slice does so from every journal, so that slices can be
  computed part by part:

      Slice.Built.append       runs one after the other
      Slice.Built.scope        a run at a place further in
      Course.page_built        the page of a course
      page_assembled           and what becomes of it when one section changes
-/
import Syllabus.Proofs.Course.Reading

namespace Syllabus

open Form Building

/-! ## §1. Slices. -/

/-- A stretch of a page, and what is found wrong in it. -/
structure Slice where
  /-- The blocks. -/
  blocks : List Block := []
  /-- The diagnostics, at places that count from where the slice is built. -/
  found : List Diagnostic := []

namespace Slice

/-- One slice and then another. -/
def append (s t : Slice) : Slice := ⟨s.blocks ++ t.blocks, s.found ++ t.found⟩

instance : Append Slice := ⟨append⟩

/-- A slice seen from further out. -/
def under (steps : Path) (s : Slice) : Slice := { s with found := s.found.map (.under steps) }

/-- Blocks that nothing is wrong with. -/
def clean (blocks : List Block) : Slice := ⟨blocks, []⟩

theorem append_assoc (s t u : Slice) : s ++ t ++ u = s ++ (t ++ u) := by
  show Slice.mk (s.blocks ++ t.blocks ++ u.blocks) (s.found ++ t.found ++ u.found) = _
  rw [List.append_assoc, List.append_assoc]
  rfl

/-! ## §2. The slices of a course. -/

/-- A block that shows a text, on its own. -/
def ofText (s : String) (make : List Run → Block) : Slice :=
  let (runs, after) := ((TextInput.text s).runsOrBlank true).run {}
  ⟨[make runs], after.collector.entries⟩

/-- A block that shows a value if it is a text that is not blank, and no block otherwise. -/
def ofVisible (v : Json) (make : List Run → Block) : Slice :=
  match v with
  | .str s => if Text.isBlank s then clean [] else ofText s make
  | _ => clean []

/-- Items, on their own.  Items that break off have no blocks. -/
def ofItems (options : BuildOptions) (items : List Json) : Slice :=
  let (result, after) := (buildItems options items).fresh
  ⟨result.toOption.getD [], after.collector.entries⟩

/-- The header of a page. -/
def ofHead (description estimatedTime prerequisites objectives : Json) : Slice :=
  let c : Course :=
    { estimatedTime := (Lenient.minutes? estimatedTime).toOption.join
      prerequisites := Lenient.texts prerequisites
      objectives := Lenient.texts objectives }
  clean navigation
    ++ ofVisible description (fun runs => .callout runs "📖" "blue_background" [])
    ++ clean (c.metadataBlocks.run {}).1

/-- A section, on its own. -/
def ofSection (options : BuildOptions) (v : Json) : Slice :=
  let color := Block.colored ((Lenient.text? (v.member "color")).getD "blue")
  let toggleable := decide (v.member "toggleable" = .bool true)
  clean [.divider]
    ++ ofText (Lenient.text (v.member "title")) (fun runs => .heading .one runs color toggleable [])
    ++ ofVisible (v.member "description") (fun runs => .paragraph runs "gray" [])
    ++ (ofItems options (v.member "content").items).under [.key "content"]

/-- Sections from an index on, each at its place. -/
def ofSections (options : BuildOptions) : (index : Nat) → List Json → Slice
  | _, [] => clean []
  | index, v :: vs =>
      (ofSection options v).under [.key "sections", .index index] ++ ofSections options (index + 1) vs

/-- The footer of a page. -/
def foot : Slice :=
  let closing := ofText "Congratulations! You have completed this course." fun runs =>
    .callout runs "🎉" "green_background" []
  clean [.divider] ++ clean closing.blocks

/-- The page of a course, put together from its members. -/
def ofCourse (options : BuildOptions) (v : Json) : Slice :=
  ofHead (v.member "description") (v.member "estimatedTime") (v.member "prerequisites")
      (v.member "objectives")
    ++ ofSections options 0 (v.member "sections").items ++ foot

/-- One section among others: what is before it and what is behind it do not depend on it. -/
theorem ofSections_append (options : BuildOptions) (vs ws : List Json) :
    ∀ index, ofSections options index (vs ++ ws)
      = ofSections options index vs ++ ofSections options (index + vs.length) ws := by
  induction vs with
  | nil => intro index; rfl
  | cons v vs ih =>
      intro index
      have hindex : index + (vs.length + 1) = index + 1 + vs.length := by omega
      rw [List.cons_append, ofSections, ofSections, ih, List.length_cons, hindex, append_assoc]

/-! ## §3. Runs that build a slice. -/

/-- From every journal the run gives the blocks of the slice and adds its diagnostics. -/
def Built (b : Building (List Block)) (s : Slice) : Prop :=
  ∃ remarks, Ends b (.ok s.blocks) ⟨s.found, remarks⟩

theorem notes_append (s t : Slice) (remarks remarks' : List Remark) :
    (⟨(s ++ t).found, remarks ++ remarks'⟩ : Notes)
      = ⟨s.found, remarks⟩ ++ (⟨t.found, remarks'⟩ ++ {}) := by
  rw [Notes.append_none]
  rfl

theorem Built.append {b b' : Building (List Block)} {s t : Slice} (hb : Built b s) (hb' : Built b' t) :
    Built (do let xs ← b; let ys ← b'; pure (xs ++ ys)) (s ++ t) := by
  obtain ⟨remarks, hends⟩ := hb
  obtain ⟨remarks', hends'⟩ := hb'
  refine ⟨remarks ++ remarks', ?_⟩
  rw [notes_append]
  exact hends.bind (hends'.bind (ends_pure _))

theorem Built.scope {b : Building (List Block)} {s : Slice} (hb : Built b s) (steps : Path) :
    Built (Building.scope steps b) (s.under steps) := by
  obtain ⟨remarks, hends⟩ := hb
  exact ⟨remarks, hends.scope steps⟩

/-- The same of writing. -/
def Written (w : Writing (List Block)) (s : Slice) : Prop :=
  ∃ remarks, Writing.Gives w s.blocks ⟨s.found, remarks⟩

theorem Written.built {w : Writing (List Block)} {s : Slice} (hw : Written w s) :
    Built (Building.ofWriting w) s := by
  obtain ⟨remarks, hgives⟩ := hw
  exact ⟨remarks, ends_ofWriting hgives⟩

theorem Written.unrecorded {w : Writing (List Block)} {s : Slice} (hw : Written w s) :
    Written (Writing.unrecorded w) (clean s.blocks) := by
  obtain ⟨remarks, hgives⟩ := hw
  exact ⟨remarks, hgives.unrecorded⟩

theorem written_clean (blocks : List Block) : Written (pure blocks) (clean blocks) :=
  ⟨[], Writing.gives_pure blocks⟩

theorem Written.append {w w' : Writing (List Block)} {s t : Slice} (hw : Written w s)
    (hw' : Written w' t) : Written (do let xs ← w; let ys ← w'; pure (xs ++ ys)) (s ++ t) := by
  obtain ⟨remarks, hgives⟩ := hw
  obtain ⟨remarks', hgives'⟩ := hw'
  refine ⟨remarks ++ remarks', ?_⟩
  rw [notes_append]
  exact hgives.bind (hgives'.bind (Writing.gives_pure _))

/-! ## §4. Texts. -/

theorem written_text (s : String) (make : List Run → Block) :
    Written (do let runs ← (TextInput.text s).runsOrBlank true; pure [make runs]) (ofText s make) := by
  obtain ⟨runs, n, hgives, _, _⟩ := TextInput.runsOrBlank_meets (TextInput.sound_text s) true
  have hslice : ofText s make = ⟨[make runs], n.found⟩ := by
    have hrun := hgives {}
    rw [Journal.noted_fresh] at hrun
    unfold ofText
    rw [show ((TextInput.text s).runsOrBlank true).run {} = _ from hrun]
  rw [hslice]
  refine ⟨n.remarks ++ [], ?_⟩
  have hnotes : (⟨n.found, n.remarks ++ []⟩ : Notes) = n ++ {} := by
    rw [Notes.append_none, List.append_nil]
  rw [hnotes]
  exact hgives.bind (Writing.gives_pure _)

theorem runs?_text (s : String) :
    (TextInput.text s).runs? true
      = (if (Text.strip s).isEmpty = true then pure none
        else (do
          let runs ← Markup.runs (Text.strip s)
          pure (some runs))) := rfl

/-- A trimmed text shows what the text shows. -/
theorem ofText_strip (s : String) (make : List Run → Block) :
    ofText (Text.strip s) make = ofText s make := by
  have hinput : (TextInput.text (Text.strip s)).runs? true = (TextInput.text s).runs? true := by
    rw [runs?_text, runs?_text, Text.strip_strip]
  unfold ofText TextInput.runsOrBlank
  rw [hinput]

/-- A value shows what its lenient reading shows, which is nothing if it is blank. -/
theorem ofVisible_eq (v : Json) (make : List Run → Block) :
    ofVisible v make = match Lenient.text? v with
      | some s => ofText s make
      | none => clean [] := by
  unfold Lenient.text? Lenient.text
  cases v with
  | str s =>
      show (if Text.isBlank s = true then _ else _) = _
      dsimp only
      rw [Text.isEmpty_strip]
      split
      · rfl
      · exact (ofText_strip s make).symm
  | _ => rfl

/-- A paragraph of a text that is not blank. -/
theorem makeParagraph_text {s : String} (h : (Text.strip s).isEmpty = false) (color : String) :
    Block.makeParagraph (.text s) color [] true
      = (do
          let runs ← (TextInput.text s).runsOrBlank true
          pure (some (.paragraph runs (Block.colored color) []))) := by
  unfold Block.makeParagraph TextInput.runsOrBlank
  rw [runs?_text, h, if_neg Bool.false_ne_true]
  rfl

end Slice

/-! ## §5. Parts of a page. -/

open Slice

theorem Lenient.text?_visible {v : Json} {s : String} (h : Lenient.text? v = some s) :
    (Text.strip s).isEmpty = false := by
  unfold Lenient.text? at h
  dsimp only at h
  split at h
  · exact absurd h (by simp)
  · rename_i hvisible
    rw [← Option.some.inj h]
    cases v with
    | str s =>
        show (Text.strip (Text.strip s)).isEmpty = false
        rw [Text.strip_strip]
        exact Bool.eq_false_iff.mpr hvisible
    | _ => exact absurd rfl hvisible

theorem Course.descriptionBlocks_written (c : Course) (v : Json) (h : c.description = Lenient.text? v) :
    Written c.descriptionBlocks
      (ofVisible v fun runs => .callout runs "📖" "blue_background" []) := by
  rw [ofVisible_eq, ← h]
  unfold Course.descriptionBlocks
  cases c.description with
  | none => exact written_clean []
  | some s =>
      have hcolor : Block.colored "blue_background" = "blue_background" := by decide
      unfold Block.makeCallout
      dsimp only
      rw [bind_assoc, hcolor]
      exact written_text s fun runs => .callout runs "📖" "blue_background" []

/-- Metadata has nothing wrong with it. -/
theorem Course.metadataBlocks_written (c : Course) :
    Written c.metadataBlocks (clean (c.metadataBlocks.run {}).1) := by
  -- Diagnostics that have a property which nothing has are none at all.
  obtain ⟨blocks, n, hgives, hnone, _⟩ := c.metadataBlocks_meets (D := fun _ => False)
  have hfound : n.found = [] := List.eq_nil_iff_forall_not_mem.mpr hnone
  have hrun : c.metadataBlocks.run {} = (blocks, ({} : Journal).noted n) := hgives {}
  refine ⟨n.remarks, ?_⟩
  rw [hrun]
  show Writing.Gives _ blocks ⟨[], n.remarks⟩
  rw [← hfound]
  exact hgives

theorem Course.header_written {v : Json} {t : Option Int}
    (h : Lenient.minutes? (v.member "estimatedTime") = .ok t) :
    Written (Course.timed v t).header (ofHead (v.member "description") (v.member "estimatedTime")
      (v.member "prerequisites") (v.member "objectives")) := by
  have hdescription := (Course.timed v t).descriptionBlocks_written (v.member "description") rfl
  have hmetadata := (Course.timed v t).metadataBlocks_written
  have hparts := (written_clean navigation).append hdescription |>.append hmetadata
  unfold ofHead
  rw [h]
  exact hparts

theorem pageFooter_written : Written pageFooter foot := by
  have hclosing := (written_text "Congratulations! You have completed this course." fun runs =>
    .callout runs "🎉" "green_background" []).unrecorded
  exact (written_clean [.divider]).append hclosing

/-- A heading without children, folded or not. -/
theorem makeHeading_bare (s color : String) (toggleable : Bool) :
    Block.makeHeading .one (.text s) color toggleable [] true
      = (do
          let runs ← (TextInput.text s).runsOrBlank true
          pure (.heading .one runs (Block.colored color) toggleable [])) := by
  unfold Block.makeHeading
  rw [ite_self]

theorem Section.headBlocks_written (s : Section) (v : Json) (h : s.description = Lenient.text? v) :
    Written s.headBlocks
      (clean [.divider]
        ++ ofText s.title (fun runs =>
          .heading .one runs (Block.colored (s.color.getD "blue")) s.toggleable [])
        ++ ofVisible v (fun runs => .paragraph runs "gray" [])) := by
  have hfront := (written_clean [.divider]).append (written_text s.title fun runs =>
    .heading .one runs (Block.colored (s.color.getD "blue")) s.toggleable [])
  rw [ofVisible_eq, ← h]
  unfold Section.headBlocks
  rw [makeHeading_bare]
  -- The head puts its blocks together in one go; the slices are put together two at a time.
  cases habout : s.description with
  | none =>
      have hall := hfront.append (written_clean [])
      dsimp only
      simp only [bind_assoc, pure_bind] at hall ⊢
      exact hall
  | some d =>
      have hcolor : Block.colored "gray" = "gray" := by decide
      have hall := hfront.append (written_text d fun runs => .paragraph runs "gray" [])
      rw [habout] at h
      dsimp only
      rw [makeParagraph_text (Lenient.text?_visible h.symm), hcolor]
      simp only [bind_assoc, pure_bind] at hall ⊢
      exact hall

/-- Items that do not break off are built as on their own. -/
theorem built_items {options : BuildOptions} {items : List Json}
    (h : (buildItems options items).fresh.1.isOk = true) :
    Built (buildItems options items) (ofItems options items) := by
  -- Building ends in one way from every journal, and a fresh one shows which.
  obtain ⟨result, n, hends, _, _⟩ := buildItems_ends options items
  have hfresh : (buildItems options items).fresh = (result, ⟨⟨n.found, []⟩, n.remarks⟩) := by
    rw [← Journal.noted_fresh]
    exact hends {}
  rw [hfresh] at h
  unfold ofItems
  rw [hfresh]
  cases result with
  | ok blocks => exact ⟨n.remarks, hends⟩
  | error e => exact absurd h Bool.false_ne_true

/-- Building the items of a section does not break off. -/
def Section.Works (options : BuildOptions) (v : Json) : Prop :=
  (buildItems options (v.member "content").items).fresh.1.isOk = true

/-- With all builders in order no building breaks off. -/
theorem Section.works_plain (v : Json) : Section.Works {} v := by
  obtain ⟨blocks, after, hrun, _⟩ := (buildItems_shape (v.member "content").items).runs {}
  unfold Section.Works Building.fresh
  rw [hrun]
  rfl

theorem Section.blocks_built {options : BuildOptions} {v : Json} (h : Section.Works options v) :
    Built ((Section.ofJson v).blocks options) (ofSection options v) :=
  ((Section.ofJson v).headBlocks_written _ rfl).built.append ((built_items h).scope [.key "content"])

theorem sectionBlocks_built {options : BuildOptions} {vs : List Json} :
    ∀ index, (∀ v ∈ vs, Section.Works options v) →
      Built (sectionBlocks options index (vs.map Section.ofJson)) (ofSections options index vs) := by
  induction vs with
  | nil => intro index _; exact (written_clean []).built
  | cons v vs ih =>
      intro index h
      have hfirst := Section.blocks_built (h v List.mem_cons_self)
      have hrest := ih (index + 1) fun w hw => h w (List.mem_cons_of_mem v hw)
      exact (hfirst.scope [.key "sections", .index index]).append hrest

/-! ## §6. Whole pages. -/

theorem Course.page_built {options : BuildOptions} {course : Json} {c : Course}
    (hc : Course.ofJson course = .ok c)
    (hworks : ∀ v ∈ (course.member "sections").items, Section.Works options v) :
    Built (c.page options) (ofCourse options course) := by
  obtain ⟨t, ht, rfl⟩ := Course.ofJson_eq_ok hc
  have hheader := (Course.header_written ht).built
  have hsections := sectionBlocks_built 0 hworks
  have hall := (hheader.append hsections).append pageFooter_written.built
  unfold Course.page
  simp only [bind_assoc, pure_bind] at hall
  exact hall

/-- A section in its course: what is in front of it and behind it is the same whatever it is. -/
theorem ofCourse_split (options : BuildOptions) {course v : Json} {vs ws : List Json}
    (h : (course.member "sections").items = vs ++ v :: ws) :
    ofCourse options course
      = (ofHead (course.member "description") (course.member "estimatedTime")
          (course.member "prerequisites") (course.member "objectives") ++ ofSections options 0 vs)
        ++ (ofSection options v).under [.key "sections", .index vs.length]
        ++ (ofSections options (vs.length + 1) ws ++ foot) := by
  unfold ofCourse
  rw [h, ofSections_append, ofSections, Nat.zero_add]
  simp only [append_assoc]

/-- **Pages are assembled from slices.**  The page of a course that can be read, and whose builders do
not break off, is its header, its sections and its footer, each built as on its own, and what is found
wrong in it is what is found wrong in them, in this order and at their places.  A course that differs
in one section and agrees in the four members behind the header has the same page in front of this
section and behind it, and the same is found wrong there. -/
theorem page_assembled (options : BuildOptions) (course : Json) (c : Course)
    (hc : Course.ofJson course = .ok c)
    (hworks : ∀ v ∈ (course.member "sections").items, Section.Works options v) :
    Built (c.page options) (ofCourse options course)
      ∧ ∀ (course' v v' : Json) (vs ws : List Json),
        (course.member "sections").items = vs ++ v :: ws →
        (course'.member "sections").items = vs ++ v' :: ws →
        (∀ name ∈ ["description", "estimatedTime", "prerequisites", "objectives"],
          course'.member name = course.member name) →
        Section.Works options v' →
        ∃ c' front back, Course.ofJson course' = .ok c'
          ∧ Built (c.page options)
            (front ++ (ofSection options v).under [.key "sections", .index vs.length] ++ back)
          ∧ Built (c'.page options)
            (front ++ (ofSection options v').under [.key "sections", .index vs.length] ++ back) := by
  refine ⟨Course.page_built hc hworks, ?_⟩
  intro course' v v' vs ws hsections hsections' hsame hworks'
  -- The other course is read too: reading depends on the estimated time alone.
  obtain ⟨t, ht, _⟩ := Course.ofJson_eq_ok hc
  have hc' : Course.ofJson course' = .ok (Course.timed course' t) := by
    rw [Course.ofJson_eq, hsame "estimatedTime" (by decide), ht]
    rfl
  have hall : ∀ w ∈ (course'.member "sections").items, Section.Works options w := by
    intro w hw
    rw [hsections', List.mem_append, List.mem_cons] at hw
    rw [hsections] at hworks
    rcases hw with hfront | rfl | hback
    · exact hworks w (List.mem_append_left _ hfront)
    · exact hworks'
    · exact hworks w (List.mem_append_right _ (List.mem_cons_of_mem v hback))
  have hpage := Course.page_built hc hworks
  have hpage' := Course.page_built hc' hall
  rw [ofCourse_split options hsections] at hpage
  rw [ofCourse_split options hsections', hsame "description" (by decide),
    hsame "estimatedTime" (by decide), hsame "prerequisites" (by decide),
    hsame "objectives" (by decide)] at hpage'
  exact ⟨_, _, _, hc', hpage, hpage'⟩

/-- Two courses of two sections that differ in the second one. -/
theorem page_assembled_second :
    let one : Json := .obj [("title", .str "One"), ("content", .arr [.str "[here](foo)"])]
    let two : Json := .obj [("title", .str "Two"), ("description", .str " About **two** ")]
    let other : Json := .obj [("title", .str "Other"), ("content", .arr [.int 2])]
    let course : Json := .obj [("estimatedTime", .int 5), ("sections", .arr [one, two])]
    let course' : Json := .obj [("estimatedTime", .int 5), ("sections", .arr [one, other])]
    ∃ c c' front back, Course.ofJson course = .ok c ∧ Course.ofJson course' = .ok c'
      ∧ Built (c.page {}) (front ++ (ofSection {} two).under [.key "sections", .index 1] ++ back)
      ∧ Built (c'.page {}) (front ++ (ofSection {} other).under [.key "sections", .index 1] ++ back) := by
  intro one two other course course'
  have hread : Course.ofJson course = .ok (Course.timed course (some 5)) := by rfl
  have hassembled := page_assembled {} course _ hread fun v _ => Section.works_plain v
  have hsame : ∀ name ∈ ["description", "estimatedTime", "prerequisites", "objectives"],
      course'.member name = course.member name := by decide
  obtain ⟨c', front, back, hread', hpage, hpage'⟩ := hassembled.2 course' two other [one] [] rfl rfl
    hsame (Section.works_plain other)
  exact ⟨_, c', front, back, hread, hread', hpage, hpage'⟩

end Syllabus
