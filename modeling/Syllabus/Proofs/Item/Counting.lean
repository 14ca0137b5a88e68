/-
  Syllabus.Proofs.Item.Counting
  ─────────────────────────────
  **HOW MANY BLOCKS AN ITEM GIVES.**

  With all builders in order, an item gives one block, whatever is nested in
  it.  Explained code gives two and a whole list one for each entry that is
  not blank.  Nothing is given for a blank paragraph, and for a table without
  a first row or a reference without an identifier, which are reported.

      Item.blockCount      how many blocks there are
      Item.Noted           what is reported where nothing or something else
                           is shown
      Building.Ensures     a run that does not fail and gives what it should
      item_accounted_for   every item gives that many, and reports that
-/
import Syllabus.Proofs.Course.Rehearsal
import Syllabus.Proofs.Item.Shape

namespace Syllabus

open Building

/-! ## §1. What is to be expected. -/

/-- Whether a text shows nothing: it is blank, or all of its segments are. -/
def Wording.isBlank : Wording → Bool
  | .plain s => Text.isBlank s
  | .segments ss => ss.all fun s => Text.isBlank s.text

/-- The row that makes a table as wide as it is: its headers if it has any, or its first row; empty
if there is none. -/
def TableFields.firstRow (f : TableFields) : List String :=
  match f.headers with
  | some (h :: hs) => h :: hs
  | _ => f.rows.headD []

/-- How many blocks content gives. -/
def Content.blockCount : Content → Nat
  | .text .paragraph f => if f.text.isBlank then 0 else 1
  | .codeWithExplanation _ => 2
  | .group _ items => (items.filter fun s => !Text.isBlank s).length
  | .table f => if f.firstRow = [] then 0 else 1
  | .syncedBlockReference blockId => if Text.isBlank blockId then 0 else 1
  | _ => 1

/-- How many blocks an item gives. -/
def Item.blockCount : Item → Nat
  | .known _ content => content.blockCount
  | _ => 1

/-- One block, a paragraph of one run, and one diagnostic. -/
def StandsIn (code : String) (severity : Severity) (blocks : List Block) (found : List Diagnostic) :
    Prop :=
  (∃ run, blocks = [.paragraph [run] Color.default []])
    ∧ ∃ message, found = [⟨code, message, [], severity⟩]

/-- What is reported of an item that gives nothing or that something else stands for. -/
def Item.Noted : Item → List Block → List Diagnostic → Prop
  | .known _ (.table f), _, found =>
      f.firstRow = [] → ∃ message, found = [⟨"empty_table", message, [], .warning⟩]
  | .known _ (.syncedBlockReference blockId), _, found =>
      Text.isBlank blockId = true →
        ∃ message, found = [⟨"synced_reference_missing_id", message, [], .warning⟩]
  | .known _ _, _, _ => True
  | .unknown _ _, blocks, found => StandsIn "unknown_item_type" .warning blocks found
  | .malformed _ _, blocks, found => StandsIn "malformed_item" .error blocks found

/-! ## §2. Building that does not fail. -/

namespace Building

variable {α β : Type} {P : α → Prop} {Q : β → Prop}

/-- The building does not fail, and gives something with `P`. -/
def Ensures (P : α → Prop) (b : Building α) : Prop :=
  ∀ j, ∃ a after, b.run.run j = (.ok a, after) ∧ P a

theorem ensures_pure {a : α} (h : P a) : Ensures P (pure a) := fun j => ⟨a, j, rfl, h⟩

theorem ensures_ofWriting {w : Writing α} (h : ∀ j, P (w j).1) : Ensures P (ofWriting w) :=
  fun j => ⟨(w j).1, (w j).2, rfl, h j⟩

theorem works_ofWriting (w : Writing α) : Ensures (fun _ => True) (ofWriting w) :=
  ensures_ofWriting fun _ => trivial

theorem Ensures.bind {b : Building α} {f : α → Building β} (hb : Ensures P b)
    (hf : ∀ a, P a → Ensures Q (f a)) : Ensures Q (b >>= f) := by
  intro j
  obtain ⟨a, after, hrun, ha⟩ := hb j
  obtain ⟨c, later, hnext, hc⟩ := hf a ha after
  refine ⟨c, later, ?_, hc⟩
  show (ExceptT.bindCont f (b.run.run j).1) (b.run.run j).2 = _
  rw [hrun]
  exact hnext

theorem Ensures.scope {b : Building α} (hb : Ensures P b) (steps : Path) :
    Ensures P (Building.scope steps b) := by
  intro j
  obtain ⟨a, after, hrun, ha⟩ := hb { j with collector := j.collector.enter steps }
  refine ⟨a, { after with collector := after.collector.leave steps.length }, ?_, ha⟩
  show (fun p : Except Failure α × Journal =>
      (p.1, { p.2 with collector := p.2.collector.leave steps.length }))
    (b.run.run { j with collector := j.collector.enter steps }) = _
  rw [hrun]

/-- A promise without failures is kept. -/
theorem Meets.ensures {D : Diagnostic → Prop} {b : Building α} (h : Meets D P (fun _ => False) b) :
    Ensures P b := by
  intro j
  obtain ⟨r, n, hends, -, hresult⟩ := h
  cases r with
  | error e => exact hresult.elim
  | ok a => exact ⟨a, j.noted n, hends j, hresult⟩

theorem Ensures.result {b : Building α} {r : Except Failure α} {n : Notes} (h : Ensures P b)
    (hends : Ends b r n) : ∃ a, r = .ok a ∧ P a := by
  obtain ⟨a, after, hrun, ha⟩ := h {}
  rw [hends {}] at hrun
  exact ⟨a, (Prod.mk.inj hrun).1, ha⟩

/-- The building gives some blocks, and as many as are expected. -/
abbrev Counts (count : Nat) (b : Building (List Block)) : Prop :=
  Ensures (fun blocks => blocks.length = count) b

theorem counts_single (w : Writing Block) : Counts 1 (Building.single w) :=
  fun j => ⟨[(w j).1], (w j).2, rfl, rfl⟩

theorem counts_ofWriting {w : Writing (List Block)} {count : Nat} (h : ∀ j, (w j).1.length = count) :
    Counts count (ofWriting w) := ensures_ofWriting h

end Building

/-! ## §3. Content. -/

/-- The text of an item shows nothing exactly if it is blank. -/
theorem Wording.runs?_shows (w : Wording) :
    Writing.Meets (fun _ => True) (fun o => o = none ↔ w.isBlank = true) (w.input.runs? true) := by
  cases w with
  | plain s =>
      show Writing.Meets _ (fun o => o = none ↔ Text.isBlank s = true)
        (if (Text.strip s).isEmpty then pure none else do
          let runs ← Markup.runs (Text.strip s)
          pure (some runs))
      rw [Text.isEmpty_strip]
      split
      · rename_i hblank
        exact Writing.meets_pure (iff_of_true rfl hblank)
      · rename_i hvisible
        have hruns := (Markup.runs_meets (Text.strip s)).mono (fun _ _ => trivial) fun _ h => h
        exact hruns.bind fun runs _ =>
          Writing.meets_pure (iff_of_false (Option.some_ne_none runs) hvisible)
  | segments ss =>
      have hruns : Writing.Yields ((TextInput.segments ss).runs? true)
          (someRuns (ss.filterMap Segment.shown?)) :=
        (Segment.runs_yields ss).bind (Writing.yields_pure _)
      refine hruns.meets ?_
      have hblank : ss.filterMap Segment.shown? = []
          ↔ (ss.all fun s => Text.isBlank s.text) = true := by
        rw [List.filterMap_eq_nil_iff, List.all_eq_true]
        refine forall₂_congr fun s _ => ?_
        unfold Segment.shown?
        by_cases hs : Text.isBlank s.text = true
        · rw [if_pos hs]
          exact iff_of_true rfl hs
        · rw [if_neg hs]
          exact iff_of_false (Option.some_ne_none _) hs
      refine Iff.trans ?_ hblank
      unfold someRuns
      rw [← List.isEmpty_iff]
      split
      · rename_i hempty
        exact iff_of_true rfl hempty
      · rename_i hne
        exact iff_of_false (Option.some_ne_none _) hne

theorem paragraph_counts (f : TextFields) (color : String) (nested : Nested) :
    Counts (if f.text.isBlank then 0 else 1) (f.build .paragraph color nested) := by
  have hparagraph : Writing.Meets (fun _ => True)
      (fun o : Option Block => o = none ↔ f.text.isBlank = true)
      (Block.makeParagraph f.text.input color [] true) := by
    refine f.text.runs?_shows.bind fun o ho => ?_
    cases o with
    | none => exact Writing.meets_pure (iff_of_true rfl (ho.mp rfl))
    | some runs =>
        refine Writing.meets_pure (iff_of_false (Option.some_ne_none _) fun hblank => ?_)
        exact Option.some_ne_none runs (ho.mpr hblank)
  have hmade : Ensures (fun o : Option Block => o = none ↔ f.text.isBlank = true)
      (ofWriting (Block.makeParagraph f.text.input color [] true)) :=
    ensures_ofWriting hparagraph.holds
  refine hmade.bind fun o ho => ensures_pure ?_
  cases o with
  | none => rw [if_pos (ho.mp rfl)]; rfl
  | some b => rw [if_neg fun hblank => Option.some_ne_none b (ho.mpr hblank)]; rfl

theorem TextFields.counts (f : TextFields) (kind : TextKind) (color : String) {nested : Nested}
    (hchildren : Ensures (fun _ => True) nested.children) :
    Counts (Content.text kind f).blockCount (f.build kind color nested) := by
  -- A heading builds its children only if it can be folded.
  have hheading : ∀ level, Counts 1 (do
      let children ← if f.toggleable then nested.children else pure []
      Building.single (Block.makeHeading level f.text.input color f.toggleable children true)) := by
    intro level
    cases f.toggleable with
    | true => exact hchildren.bind fun children _ => counts_single _
    | false => exact counts_single (Block.makeHeading level f.text.input color false [] true)
  cases kind with
  | heading1 => exact hheading .one
  | heading2 => exact hheading .two
  | heading3 => exact hheading .three
  | paragraph => exact paragraph_counts f color nested
  | quote => exact counts_single _
  | callout => exact hchildren.bind fun children _ => counts_single _

theorem ListKind.entries_counts (kind : ListKind) (items : List String) :
    Counts (items.filter fun s => !Text.isBlank s).length (Building.ofWriting (kind.entries items)) := by
  have hentries : Writing.Meets Diagnostic.DropsLink
      (fun bs => bs.length = (items.filter fun s => !Text.isBlank s).length
        ∧ ∀ b ∈ bs, Form.IsBlock b.toJson) (kind.entries items) :=
    Writing.Meets.mapM fun s _ =>
      Block.makeEntry_meets Color.default true (TextInput.sound_text s) Form.AreBlocks.nil _
  exact ensures_ofWriting fun j => (hentries.holds j).1

/-- The first row of a table is the first of all its rows. -/
theorem TableFields.firstRow_eq (f : TableFields) : f.firstRow = f.allRows.headD [] := by
  unfold TableFields.firstRow TableFields.allRows
  cases f.headers with
  | none => rfl
  | some headers =>
      cases headers with
      | nil => rfl
      | cons h hs => rfl

/-- Without a first row, a table is reported and not shown. -/
theorem TableFields.build_empty {f : TableFields} (h : f.firstRow = []) :
    f.build = (do
      Writing.report .compiler "empty_table" "Table has no rows; skipped" .warning
      pure []) := by
  rw [f.firstRow_eq] at h
  unfold TableFields.build
  cases hrows : f.allRows with
  | nil => rfl
  | cons row rest =>
      rw [hrows, List.headD_cons] at h
      rw [h]

theorem TableFields.counts (f : TableFields) :
    Counts (if f.firstRow = [] then 0 else 1) (Building.ofWriting f.build) := by
  by_cases hempty : f.firstRow = []
  · rw [if_pos hempty, TableFields.build_empty hempty]
    exact counts_ofWriting fun _ => rfl
  · rw [if_neg hempty]
    rw [f.firstRow_eq] at hempty
    unfold TableFields.build
    cases hrows : f.allRows with
    | nil => exact absurd (by rw [hrows]; rfl) hempty
    | cons row rest =>
        cases row with
        | nil => exact absurd (by rw [hrows]; rfl) hempty
        | cons c cs => exact counts_ofWriting fun _ => rfl

theorem syncedReference_counts (blockId : String) :
    Counts (if Text.isBlank blockId then 0 else 1) (Building.ofWriting (syncedReference blockId)) := by
  unfold syncedReference
  split
  · exact counts_ofWriting fun _ => rfl
  · exact counts_ofWriting fun _ => rfl

theorem codeWithExplanation_counts (code : String) (language : Json)
    (explanations : List Explanation) :
    Counts 2 (Building.ofWriting (Template.codeWithExplanation code language explanations)) := by
  -- Whatever is written on the way, the last step gives the code and its explanation.
  have hlast : ∀ {α : Type} (w : Writing α) {f : α → Writing (List Block)},
      (∀ a j, (f a j).1.length = 2) → ∀ j, ((w >>= f) j).1.length = 2 :=
    fun w _ hf j => hf (w j).1 (w j).2
  exact counts_ofWriting (hlast _ fun _ => hlast _ fun _ => hlast _ fun _ _ => rfl)

theorem SideFields.ensures (side : SideFields) {b : Building (List Block)}
    (h : Ensures (fun _ => True) b) : Ensures (fun _ => True) (side.build b) :=
  (works_ofWriting _).bind fun _ _ => h.bind fun _ _ => ensures_pure trivial

/-- Building what is nested in an item does not fail. -/
structure Nested.Works (nested : Nested) : Prop where
  /-- Its own nested items. -/
  children : Ensures (fun _ => True) nested.children
  /-- Those of the left side. -/
  left : Ensures (fun _ => True) nested.left
  /-- Those of the right side. -/
  right : Ensures (fun _ => True) nested.right

/-- Content gives as many blocks as are expected, whatever is nested in it. -/
theorem Content.counts (c : Content) (color : String) {nested : Nested} (h : nested.Works) :
    Counts c.blockCount (c.build nested color) := by
  cases c with
  | text kind f => exact f.counts kind color h.children
  | note kind s => exact counts_single _
  | code f => exact counts_single _
  | equation f => exact ensures_pure rfl
  | codeWithExplanation f =>
      exact codeWithExplanation_counts (orElse f.code f.text) (.str f.language) f.explanations
  | entry kind f => exact h.children.bind fun children _ => counts_single _
  | group kind items => exact kind.entries_counts items
  | toggle f => exact h.children.bind fun children _ => counts_single _
  | media tag f => exact counts_single _
  | layout kind => exact ensures_pure rfl
  | table f => exact f.counts
  | comparison f =>
      obtain ⟨left, right⟩ := f
      have hincomplete : Counts 1 (do
          Building.ofWriting (Writing.report .compiler "comparison_incomplete"
            "Comparison needs both left and right sides; emitting a divider" .warning)
          pure [.divider]) :=
        (works_ofWriting _).bind fun _ _ => ensures_pure rfl
      cases left with
      | none => exact hincomplete
      | some l =>
          cases right with
          | none => exact hincomplete
          | some r =>
              -- Both sides are built at their places before they are put next to each other.
              refine ((l.ensures h.left).scope _).bind fun left _ => ?_
              exact ((r.ensures h.right).scope _).bind fun right _ => counts_single _
  | definition f => exact counts_single _
  | step f => exact h.children.bind fun children _ => counts_single _
  | exercise f => exact counts_single _
  | quiz f => exact counts_single _
  | summary items => exact counts_single _
  | objectives f => exact counts_single _
  | prerequisites items => exact counts_single _
  | estimatedTime minutes => exact counts_single _
  | syncedBlock items => exact h.children.bind fun children _ => ensures_pure rfl
  | syncedBlockReference blockId => exact syncedReference_counts blockId

/-! ## §4. Items. -/

theorem Item.counts (item : Item) {nested : Nested} (h : nested.Works) :
    Counts item.blockCount (item.build {} nested) := by
  cases item with
  | known color content => exact content.counts (color.getD Color.default) h
  | unknown tag text => exact counts_single _
  | malformed tag error => exact counts_single _

/-- What an item reports where nothing or something else is shown. -/
theorem Item.noted {item : Item} {nested : Nested} {blocks : List Block} {n : Notes}
    (h : Ends (item.build {} nested) (.ok blocks) n) : item.Noted blocks n.found := by
  -- How a run ends is determined, so it is enough to know how it ends where something is reported.
  have hstands : ∀ {code message : String} {severity : Severity} {text : String},
      Ends (Building.single (do
        Writing.report .compiler code message severity
        pure (Block.notice text))) (.ok blocks) n → StandsIn code severity blocks n.found := by
    intro code message severity text h
    obtain ⟨hblocks, hn⟩ := h.unique (ends_single (Writing.gives_reported _ _ _ _ _))
    exact ⟨⟨_, Except.ok.inj hblocks⟩, message, by rw [hn]⟩
  cases item with
  | unknown tag text => exact hstands h
  | malformed tag error => exact hstands h
  | known color content =>
      have hbuild : Ends (content.build nested (color.getD Color.default)) (.ok blocks) n := h
      cases content with
      | table f =>
          intro hempty
          change Ends (ofWriting f.build) _ _ at hbuild
          rw [TableFields.build_empty hempty] at hbuild
          have hexact := ends_ofWriting (Writing.gives_reported .compiler "empty_table"
            "Table has no rows; skipped" .warning ([] : List Block))
          exact ⟨_, by rw [(hbuild.unique hexact).2]⟩
      | syncedBlockReference blockId =>
          intro hblank
          change Ends (ofWriting (syncedReference blockId)) _ _ at hbuild
          unfold syncedReference at hbuild
          rw [if_pos hblank] at hbuild
          have hexact := ends_ofWriting (Writing.gives_reported .compiler
            "synced_reference_missing_id" "syncedBlockReference needs a blockId; skipped" .warning
            ([] : List Block))
          exact ⟨_, by rw [(hbuild.unique hexact).2]⟩
      | _ => trivial

theorem works_nestedItems (items : List Json) :
    Ensures (fun _ => True) (Building.scope [.key "children"] (buildItems {} items)) :=
  ((buildItems_shape items).mono (fun _ h => h) fun _ _ => trivial).ensures.scope _

/-- A value is built as the item that it stands for, and what is nested in it does not fail. -/
theorem exists_buildItem_eq (v : Json) :
    ∃ nested : Nested, nested.Works ∧ buildItem {} v = (Item.ofJson v).build {} nested := by
  cases hobject : v.isObject with
  | false =>
      exact ⟨Nested.none, ⟨ensures_pure trivial, ensures_pure trivial, ensures_pure trivial⟩,
        buildItem_scalar {} hobject⟩
  | true =>
      cases v with
      | obj ms =>
          exact ⟨Nested.of {} ms, ⟨works_nestedItems _, works_nestedItems _, works_nestedItems _⟩,
            buildItem_obj {} ms⟩
      | _ => cases hobject

/-- **No item vanishes unnoticed**: with all builders in order every value gives as many blocks as
its item is expected to give, none being given only for a blank text and where that is reported; and
what stands for an item that is not recognised or does not fit is one paragraph, with one report. -/
theorem item_accounted_for (isolate : Bool) (v : Json) :
    ∃ blocks notes, Ends (buildItem { isolate := isolate } v) (.ok blocks) notes
      ∧ blocks.length = (Item.ofJson v).blockCount
      ∧ (Item.ofJson v).Noted blocks notes.found := by
  have hworks : ∀ tag, ({ isolate := isolate } : BuildOptions).failing tag = none := fun _ => rfl
  rw [buildItem_unfailing hworks v]
  obtain ⟨r, n, hends, -, -⟩ := buildItem_shape (E := fun _ => False) v
  obtain ⟨nested, hnested, hbuild⟩ := exists_buildItem_eq v
  rw [hbuild] at hends ⊢
  obtain ⟨blocks, rfl, hlength⟩ := ((Item.ofJson v).counts hnested).result hends
  exact ⟨blocks, n, hends, hlength, Item.noted hends⟩

end Syllabus
