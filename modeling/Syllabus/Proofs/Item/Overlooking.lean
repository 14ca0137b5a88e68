/-
  Syllabus.Proofs.Item.Overlooking
  ────────────────────────────────
  **WHAT BUILDING ITEMS LEAVES OUT OF THE DIAGNOSTICS.**

  The builders of items record what they log, except for those that go through
  a template.  What is overlooked in an item can be read off its fields, and
  in a list of items off the items that building gets to:

      Content.overlooked      of the fields of an item
      overlookedIn            of an item and of those nested in it
      overlookedAmong         of the items of a list
      OfTexts                 it is only dropped links and code that was cut
      buildItems_overlooks    this and no more is logged and not recorded

  What is nested in an item is built before its own text, so it comes first.
-/
import Syllabus.Proofs.Item.Shape
import Syllabus.Proofs.Template.Overlooking

namespace Syllabus

open Markup Template

/-! ## §1. What the fields of an item hide. -/

/-- What the builder of content overlooks of the fields of its item. -/
def Content.overlooked : Content → List Report
  | .note _ s => droppedLinks (Label.withoutIcons s)
  | .codeWithExplanation f => Block.cutCode (orElse f.code f.text)
  | .comparison f =>
      match f.left, f.right with
      | some l, some r => droppedLinks l.title ++ droppedLinks r.title
      | _, _ => []
  | .step f => (orElse? f.description f.caption).toList.flatMap droppedLinks
  | .exercise f =>
      (cleanItems (orItems f.instructions f.items)).flatMap droppedLinks
        ++ f.solution.toList.flatMap Block.cutCode
  | .quiz f => if f.options.length < 2 then [] else droppedLinks (answerText f.options f.correctIndex)
  | .summary items => (cleanItems items).flatMap droppedLinks
  | .objectives f => (cleanItems (orItems f.objectives f.items)).flatMap droppedLinks
  | .prerequisites items => (cleanItems items).flatMap droppedLinks
  | _ => []

/-- What building an item overlooks of the item itself. -/
def Item.overlooked : Item → List Report
  | .known _ content => content.overlooked
  | _ => []

/-! ## §2. Nothing but links and code is hidden. -/

/-- Only dropped links and code that was cut. -/
def OfTexts (rs : List Report) : Prop := ∀ r ∈ rs, r.1 ∈ ["invalid_link", "code_truncated"]

theorem ofTexts_nil : OfTexts [] := fun _ hr => absurd hr List.not_mem_nil

theorem OfTexts.append {rs rs' : List Report} (h : OfTexts rs) (h' : OfTexts rs') :
    OfTexts (rs ++ rs') := by
  intro r hr
  rcases List.mem_append.mp hr with hleft | hright
  · exact h r hleft
  · exact h' r hright

theorem ofTexts_flatMap {α : Type} {f : α → List Report} (h : ∀ x, OfTexts (f x)) (xs : List α) :
    OfTexts (xs.flatMap f) := by
  intro r hr
  obtain ⟨x, -, hx⟩ := List.mem_flatMap.mp hr
  exact h x r hx

theorem ofTexts_droppedLinks (text : String) : OfTexts (droppedLinks text) := by
  refine ofTexts_flatMap (fun p => ?_) _
  have hlink : ∀ link, OfTexts (droppedLink link) := by
    intro link r hr
    unfold droppedLink at hr
    split at hr
    · split at hr
      · exact absurd hr List.not_mem_nil
      · rw [List.mem_singleton.mp hr]
        exact List.mem_cons_self
    · exact absurd hr List.not_mem_nil
  cases p with
  | plain text => exact ofTexts_nil
  | marked mark label url => exact hlink _

theorem ofTexts_cutCode (content : String) : OfTexts (Block.cutCode content) := by
  intro r hr
  unfold Block.cutCode at hr
  split at hr
  · rw [List.mem_singleton.mp hr]
    exact List.mem_cons_of_mem _ (List.mem_singleton.mpr rfl)
  · exact absurd hr List.not_mem_nil

theorem Content.ofTexts_overlooked (c : Content) : OfTexts c.overlooked := by
  have hlinks : ∀ texts : List String, OfTexts (texts.flatMap droppedLinks) :=
    ofTexts_flatMap ofTexts_droppedLinks
  cases c with
  | note kind s => exact ofTexts_droppedLinks _
  | codeWithExplanation f => exact ofTexts_cutCode _
  | comparison f =>
      obtain ⟨left, right⟩ := f
      cases left with
      | none => exact ofTexts_nil
      | some l =>
          cases right with
          | none => exact ofTexts_nil
          | some r => exact (ofTexts_droppedLinks l.title).append (ofTexts_droppedLinks r.title)
  | step f => exact hlinks _
  | exercise f => exact (hlinks _).append (ofTexts_flatMap ofTexts_cutCode _)
  | quiz f =>
      show OfTexts (if f.options.length < 2 then [] else _)
      split
      · exact ofTexts_nil
      · exact ofTexts_droppedLinks _
  | summary items => exact hlinks _
  | objectives f => exact hlinks _
  | prerequisites items => exact hlinks _
  | _ => exact ofTexts_nil

theorem Item.ofTexts_overlooked (item : Item) : OfTexts item.overlooked := by
  cases item with
  | known color c => exact c.ofTexts_overlooked
  | _ => exact ofTexts_nil

/-! ## §3. Builders without a template. -/

section Builders

variable {color : String}

theorem Building.single_overlooks {w : Writing Block} {rs : List Report} (h : w.Overlooks rs) :
    Overlooks (Building.single w) rs :=
  (overlooks_ofWriting h).then_pure fun b => [b]

/-- A builder that has the collector of the run. -/
theorem Building.single_of_reports {w : Writing Block} {rs : List Report} (h : w.Reports rs) :
    Overlooks (Building.single w) [] :=
  single_overlooks h.overlooks

theorem ListKind.entries_overlook (kind : ListKind) (items : List String) :
    (kind.entries items).Overlooks [] := by
  have hentry : ∀ s ∈ items.filter fun s => !Text.isBlank s, Writing.Reports
      (Block.makeEntry (kind.marker false) (.text s) Color.default [] true) (droppedLinks s) :=
    fun s _ => Block.makeEntry_reports (TextInput.text_reports s) Color.default [] _
  exact (Writing.Reports.mapM hentry).overlooks

theorem MediaFields.build_overlooks (f : MediaFields) (tag : MediaTag) :
    (f.build tag).Overlooks [] := by
  have hreports : ∃ rs, (f.build tag).Reports rs := by
    cases tag with
    | image => exact Block.makeMedia_reports .image (.str f.url) f.caption
    | video => exact Block.makeMedia_reports .video (.str f.url) f.caption
    | audio => exact Block.makeMedia_reports .audio (.str f.url) f.caption
    | pdf => exact Block.makeMedia_reports .pdf (.str f.url) f.caption
    | file => exact Block.makeFile_reports (.str f.url) f.name f.caption
    | embed => exact Block.makeEmbed_reports (.str f.url)
    | bookmark => exact Block.makeBookmark_reports (.str f.url) f.caption
    | linkPreview => exact Block.makeLinkPreview_reports (.str f.url) f.caption
  obtain ⟨rs, hrs⟩ := hreports
  exact hrs.overlooks

theorem TableFields.build_overlooks (f : TableFields) : f.build.Overlooks [] := by
  unfold TableFields.build
  split
  · rename_i c cs rest _
    have htable := Block.makeTable_reports ((c :: cs) :: rest) f.hasColumnHeader f.hasRowHeader
    exact htable.overlooks.then_pure fun b => [b]
  · exact (Writing.reports_report _ _ _ _).overlooks.then_pure _

theorem syncedReference_overlooks (blockId : String) : (syncedReference blockId).Overlooks [] := by
  unfold syncedReference
  split
  · exact (Writing.reports_report _ _ _ _).overlooks.then_pure _
  · exact Writing.overlooks_pure _

theorem TextFields.made_overlooks (f : TextFields) (kind : TextKind) (children : List Block) :
    Building.Overlooks (f.build kind color (.made children)) [] := by
  have htext := TextInput.wording_reports f.text
  have hheading : ∀ level, Building.Overlooks (do
      let bs ← if f.toggleable then pure children else pure []
      Building.single (Block.makeHeading level f.text.input color f.toggleable bs true)) [] := by
    intro level
    cases f.toggleable with
    | true => exact Building.single_of_reports (Block.makeHeading_reports htext color children level _)
    | false => exact Building.single_of_reports (Block.makeHeading_reports htext color [] level _)
  cases kind with
  | heading1 => exact hheading .one
  | heading2 => exact hheading .two
  | heading3 => exact hheading .three
  | paragraph =>
      have hparagraph := (Block.makeParagraph_reports htext color []).overlooks
      exact (Building.overlooks_ofWriting hparagraph).then_pure _
  | quote => exact Building.single_of_reports (Block.makeQuote_reports htext color [])
  | callout => exact Building.single_of_reports (Block.makeCallout_reports htext color children _)

/-- A comparison without one of its sides shows no title, so there is none to overlook. -/
theorem ComparisonFields.made_overlooks {f : ComparisonFields} {nested : Nested}
    (hs : (Content.comparison f).sides? = none) :
    Building.Overlooks (f.build nested) (Content.comparison f).overlooked := by
  have hnone : (Content.comparison f).overlooked = [] := by
    obtain ⟨left, right⟩ := f
    cases left with
    | none => rfl
    | some l =>
        cases right with
        | none => rfl
        | some r => exact absurd hs (by simp [Content.sides?])
  rw [ComparisonFields.build_incomplete hs, hnone]
  exact (Building.overlooks_ofWriting (Writing.reports_report _ _ _ _).overlooks).then_pure _

/-- One with both sides hides the links of their titles. -/
theorem Content.overlooked_sides {c : Content} {l r : SideFields} (h : c.sides? = some (l, r)) :
    c.overlooked = droppedLinks l.title ++ droppedLinks r.title := by
  rw [Content.eq_of_sides h]
  rfl

/-- A side has its points in front of what is nested in it. -/
theorem SideFields.build_overlooks (side : SideFields) {b : Building (List Block)} {rs : List Report}
    (h : b.Overlooks rs) : Building.Overlooks (side.build b) rs :=
  (Building.overlooks_ofWriting (ListKind.bulleted.entries_overlook side.items)).none_then
    fun points => h.then_pure fun bs => points ++ bs

/-! ## §4. One item. -/

/-- With what is nested in it there already, content overlooks of its own fields what they hide. -/
theorem Content.made_overlooks {c : Content} (hs : c.sides? = none) (children : List Block) :
    Building.Overlooks (c.build (.made children) color) c.overlooked := by
  cases c with
  | text kind f => exact f.made_overlooks kind children
  | note kind s => exact Building.single_overlooks (note_overlooks s kind)
  | code f => exact Building.single_of_reports (Block.makeCode_reports _ _ f.caption)
  | equation f => exact Building.overlooks_pure _
  | codeWithExplanation f =>
      exact Building.overlooks_ofWriting
        (codeWithExplanation_overlooks (orElse f.code f.text) (.str f.language) f.explanations)
  | entry kind f =>
      exact Building.single_of_reports
        (Block.makeEntry_reports (TextInput.wording_reports f.text) color children _)
  | group kind items => exact Building.overlooks_ofWriting (kind.entries_overlook items)
  | toggle f =>
      exact Building.single_of_reports
        (Block.makeToggle_reports (TextInput.wording_reports f.text) color children)
  | media tag f => exact Building.single_overlooks (f.build_overlooks tag)
  | layout kind => exact Building.overlooks_pure _
  | table f => exact Building.overlooks_ofWriting f.build_overlooks
  | comparison f => exact ComparisonFields.made_overlooks hs
  | definition f => exact Building.single_overlooks (definition_overlooks f.term _ _)
  | step f => exact Building.single_overlooks (step_overlooks _ _ _ children)
  | exercise f => exact Building.single_overlooks (exercise_overlooks _ _ f.solution _)
  | quiz f => exact Building.single_overlooks (quiz_overlooks _ f.options f.correctIndex)
  | summary items => exact Building.single_overlooks (summary_overlooks items)
  | objectives f => exact Building.single_overlooks (objectives_overlooks _)
  | prerequisites items => exact Building.single_overlooks (prerequisites_overlooks items)
  | estimatedTime minutes => exact Building.single_overlooks (estimatedTime_overlooks _)
  | syncedBlock vs => exact Building.overlooks_pure _
  | syncedBlockReference blockId =>
      exact Building.overlooks_ofWriting (syncedReference_overlooks blockId)

/-- What is overlooked in an item that opens its children or its sides, from what is overlooked in
these. -/
def overlookedOpened (item : Item) (children left right : List Report) : List Report :=
  (if item.opens then children else [])
    ++ (if item.sides?.isSome then left ++ right else [])
    ++ item.overlooked

/-- An item overlooks what is overlooked in what it opens, and then what its own fields hide. -/
theorem Item.build_overlooks {nested : Nested} {children left right : List Report} (item : Item)
    (hchildren : nested.children.Overlooks children) (hleft : nested.left.Overlooks left)
    (hright : nested.right.Overlooks right) :
    Building.Overlooks (item.build {} nested) (overlookedOpened item children left right) := by
  cases item with
  | unknown tag text =>
      exact Building.single_of_reports ((Writing.reports_report _ _ _ _).then_pure _)
  | malformed tag error =>
      exact Building.single_of_reports ((Writing.reports_report _ _ _ _).then_pure _)
  | known color c =>
      show Building.Overlooks (c.build nested (color.getD Color.default))
        ((if c.opens then children else []) ++ (if c.sides?.isSome then left ++ right else [])
          ++ c.overlooked)
      cases hsides : c.sides? with
      | none =>
          -- Children come before the item's own fields.
          rw [Option.isSome_none, if_neg Bool.false_ne_true, List.append_nil]
          cases hopens : c.opens with
          | true =>
              rw [Content.build_open hopens, if_pos rfl]
              exact hchildren.bind fun bs => Content.made_overlooks hsides bs
          | false =>
              rw [Content.build_closed hopens hsides, if_neg Bool.false_ne_true]
              exact Content.made_overlooks hsides []
      | some sides =>
          obtain ⟨l, r⟩ := sides
          rw [Content.opens_of_sides hsides, Content.build_sides hsides, Option.isSome_some,
            if_neg Bool.false_ne_true, if_pos rfl, List.nil_append, List.append_assoc,
            Content.overlooked_sides hsides]
          -- Both sides come before both titles.
          refine ((l.build_overlooks hleft).scope _).bind fun lbs => ?_
          refine ((r.build_overlooks hright).scope _).bind fun rbs => ?_
          exact Building.single_overlooks (comparison_overlooks l.title lbs r.title rbs)

end Builders

/-! ## §5. Items in their places. -/

mutual

/-- What is overlooked in an item, as far as building gets in it. -/
def overlookedIn : Json → List Report
  | .obj ms =>
      overlookedOpened (Item.ofMembers ms) (overlookedAmong (nestedItems ms))
        (overlookedAmong (sideItems "left" ms)) (overlookedAmong (sideItems "right" ms))
  | _ => []
termination_by v => sizeOf v
decreasing_by
  · exact sizeOf_nestedItems_lt ms
  · exact sizeOf_sideItems_lt "left" ms
  · exact sizeOf_sideItems_lt "right" ms

/-- What is overlooked among the items of a list. -/
def overlookedAmong : List Json → List Report
  | [] => []
  | v :: rest => overlookedIn v ++ overlookedAmong rest
termination_by vs => sizeOf vs

end

theorem overlookedIn_scalar {v : Json} (h : v.isObject = false) : overlookedIn v = [] := by
  cases v with
  | obj ms => exact absurd h (show ¬ (true = false) by decide)
  | _ => rw [overlookedIn]; intro ms heq; exact absurd heq (by simp)

theorem buildFrom_overlooks {vs : List Json}
    (h : ∀ v ∈ vs, Building.Overlooks (buildItem {} v) (overlookedIn v)) :
    ∀ index, Building.Overlooks (buildFrom {} index vs) (overlookedAmong vs) := by
  induction vs with
  | nil =>
      intro index
      rw [overlookedAmong]
      exact Building.overlooks_pure []
  | cons v vs ih =>
      intro index
      rw [buildFrom_cons, overlookedAmong]
      have hrest := ih (fun w hw => h w (List.mem_cons_of_mem v hw)) (index + 1)
      refine ((h v List.mem_cons_self).scope [.index index]).bind fun bs => ?_
      exact hrest.then_pure fun cs => bs ++ cs

theorem buildItem_overlooks (v : Json) : Building.Overlooks (buildItem {} v) (overlookedIn v) := by
  induction v using item_induction with
  | scalar v hv =>
      -- A text is a paragraph and any other scalar an item that does not fit: no template is used.
      have hnone : overlookedOpened (Item.ofJson v) [] [] [] = [] := by
        cases v with
        | obj ms => exact absurd hv (show ¬ (true = false) by decide)
        | _ => rfl
      rw [buildItem_scalar {} hv, overlookedIn_scalar hv, ← hnone]
      exact Item.build_overlooks (Item.ofJson v) (Building.overlooks_pure []) (Building.overlooks_pure [])
        (Building.overlooks_pure [])
  | object ms ihchildren ihsides =>
      rw [buildItem_obj, overlookedIn]
      exact Item.build_overlooks (Item.ofMembers ms)
        ((buildFrom_overlooks ihchildren 0).scope _)
        ((buildFrom_overlooks (ihsides "left") 0).scope _)
        ((buildFrom_overlooks (ihsides "right") 0).scope _)

theorem ofTexts_overlookedAmong {vs : List Json} (h : ∀ v ∈ vs, OfTexts (overlookedIn v)) :
    OfTexts (overlookedAmong vs) := by
  induction vs with
  | nil =>
      rw [overlookedAmong]
      exact ofTexts_nil
  | cons v vs ih =>
      rw [overlookedAmong]
      exact (h v List.mem_cons_self).append (ih fun w hw => h w (List.mem_cons_of_mem v hw))

theorem ofTexts_overlookedIn (v : Json) : OfTexts (overlookedIn v) := by
  induction v using item_induction with
  | scalar v hv =>
      rw [overlookedIn_scalar hv]
      exact ofTexts_nil
  | object ms ihchildren ihsides =>
      rw [overlookedIn]
      refine OfTexts.append (OfTexts.append ?_ ?_) (Item.ofMembers ms).ofTexts_overlooked
      · split
        · exact ofTexts_overlookedAmong ihchildren
        · exact ofTexts_nil
      · split
        · exact (ofTexts_overlookedAmong (ihsides "left")).append
            (ofTexts_overlookedAmong (ihsides "right"))
        · exact ofTexts_nil

/-- What building a list of items logs is woven from what it records and from what is overlooked. -/
theorem buildItems_overlooks (items : List Json) :
    Building.Overlooks (buildItems {} items) (overlookedAmong items) :=
  buildFrom_overlooks (fun v _ => buildItem_overlooks v) 0

end Syllabus
