/-
  Syllabus.Proofs.Item.Shape
  ──────────────────────────
  **EVERY ITEM GIVES BLOCKS.**

  Any value at all is some item, and with all builders in order any item gives
  blocks: the builder keeps its promise for the blocks that are nested in it,
  and these are blocks by induction.

      Item.Reports        what an item may report about itself
      Item.build_meets    an item keeps the promises of what is nested in it
      buildItem_meets     so it keeps every promise that is kept item by item
      buildItems_shape    and every list of items gives blocks
-/
import Syllabus.Proofs.Item.Contents

namespace Syllabus

open Form

/-! ## §1. One item. -/

/-- Whether an item opens its children. -/
def Item.opens : Item → Bool
  | .known _ content => content.opens
  | _ => false

/-- The sides that an item opens. -/
def Item.sides? : Item → Option (SideFields × SideFields)
  | .known _ content => content.sides?
  | _ => none

/-- What building an item may report about the item itself. -/
inductive Item.Reports : Item → Diagnostic → Prop where
  /-- What its content may report. -/
  | known {color : Option String} {content : Content} {d : Diagnostic} (h : content.Reports d) :
      Reports (.known color content) d
  /-- That its tag is not recognised. -/
  | unknown {tag text : String} {d : Diagnostic} (h : d.Warns ["unknown_item_type"]) :
      Reports (.unknown tag text) d
  /-- That its fields do not fit. -/
  | malformed {tag error : String} :
      Reports (.malformed tag error)
        ⟨"malformed_item", "Invalid " ++ tag ++ " item: " ++ error, [], .error⟩

section Promises

variable {D : Diagnostic → Prop} {E : Failure → Prop} {item : Item} {nested : Nested}

/-- An item keeps the promises of what is nested in it. -/
theorem Item.build_meets (hown : ∀ d, item.Reports d → D d)
    (hchildren : item.opens = true → Building.Meets D AreBlocks E nested.children)
    (hleft : item.sides?.isSome = true →
      Building.Meets (fun d => D (d.under [.key "left"])) AreBlocks E nested.left)
    (hright : item.sides?.isSome = true →
      Building.Meets (fun d => D (d.under [.key "right"])) AreBlocks E nested.right)
    (hlink : item.sides?.isSome = true → ∀ side ∈ ["left", "right"], ∀ d : Diagnostic,
      d.DropsLink → D (d.under [.key side])) :
    Building.Meets D AreBlocks E (item.build {} nested) := by
  cases item with
  | known color content =>
      exact Content.build_meets (fun d hd => hown d (.known hd)) hchildren hleft hright hlink
  | unknown tag text =>
      refine Building.single_meets ((Writing.meets_report (hown _ (.unknown ?_))).bind fun _ _ =>
        Writing.meets_pure (Block.isBlock_notice _))
      exact ⟨rfl, rfl, List.mem_singleton.mpr rfl⟩
  | malformed tag error =>
      exact Building.single_meets ((Writing.meets_report (hown _ .malformed)).bind fun _ _ =>
        Writing.meets_pure (Block.isBlock_notice _))

/-! ## §2. Items in their places. -/

/-- A promise that is kept item by item: `D v` is what may be reported of the value `v`, at places
that count from it. -/
structure KeptByItems (D : Json → Diagnostic → Prop) : Prop where
  /-- What a value reports itself is one of these. -/
  own : ∀ v d, (Item.ofJson v).Reports d → D v d
  /-- So is what a child reports, seen from the value that it is nested in. -/
  child : ∀ ms, (Item.ofMembers ms).opens = true → ∀ v i, (v, i) ∈ (nestedItems ms).zipIdx →
    ∀ d, D v d → D (.obj ms) (d.under [.key "children", .index i])
  /-- So is what a child of a side reports. -/
  sideChild : ∀ ms, (Item.ofMembers ms).sides?.isSome = true → ∀ side ∈ ["left", "right"],
    ∀ v i, (v, i) ∈ (sideItems side ms).zipIdx → ∀ d, D v d →
      D (.obj ms) (d.under [.key side, .key "children", .index i])
  /-- So is a link that is dropped in a side. -/
  sideLink : ∀ ms, (Item.ofMembers ms).sides?.isSome = true → ∀ side ∈ ["left", "right"],
    ∀ d : Diagnostic, d.DropsLink → D (.obj ms) (d.under [.key side])

theorem buildItem_meets {D : Json → Diagnostic → Prop} (h : KeptByItems D) (v : Json) :
    Building.Meets (D v) AreBlocks E (buildItem {} v) := by
  induction v using item_induction with
  | scalar v hv =>
      rw [buildItem_scalar {} hv]
      have hsides : (Item.ofJson v).sides? = none := by
        cases v with
        | obj ms => exact absurd hv (show ¬ (true = false) by decide)
        | _ => rfl
      refine Item.build_meets (h.own v) (fun _ => Building.meets_pure AreBlocks.nil) ?_ ?_ ?_ <;>
        rw [hsides] <;> intro hs <;> exact absurd hs (by decide)
  | object ms ihchildren ihsides =>
      rw [buildItem_obj]
      have hlist : ∀ (steps : Path) (vs : List Json),
          (∀ v ∈ vs, Building.Meets (D v) AreBlocks E (buildItem {} v)) →
          (∀ v i, (v, i) ∈ vs.zipIdx → ∀ d, D v d →
            D (.obj ms) (d.under (steps ++ [.key "children", .index i]))) →
          Building.Meets (fun d => D (.obj ms) (d.under steps)) AreBlocks E
            (Building.scope [.key "children"] (buildItems {} vs)) := by
        intro steps vs hvs hplace
        refine (buildFrom_meets (D := fun d => D (.obj ms) (d.under (steps ++ [.key "children"])))
          AreBlocks.nil (fun _ _ hb hc => hb.append hc) ?_).scope ?_
        · intro v i hv
          refine (hvs v (List.fst_mem_of_mem_zipIdx hv)).mono ?_ fun _ hb => hb
          intro d hd
          rw [Diagnostic.under_under, List.append_assoc]
          exact hplace v i hv d hd
        · intro d hd
          rw [Diagnostic.under_under]
          exact hd
      refine Item.build_meets (h.own (.obj ms)) ?_ ?_ ?_ (h.sideLink ms)
      · intro hopens
        exact hlist [] (nestedItems ms) ihchildren (h.child ms hopens)
      · intro hsides
        exact hlist [.key "left"] (sideItems "left" ms) (ihsides "left")
          (h.sideChild ms hsides "left" (by decide))
      · intro hsides
        exact hlist [.key "right"] (sideItems "right" ms) (ihsides "right")
          (h.sideChild ms hsides "right" (by decide))

/-- Every item gives blocks. -/
theorem buildItem_shape (v : Json) : Building.Meets (fun _ => True) AreBlocks E (buildItem {} v) := by
  have hkept : KeptByItems fun _ _ => True :=
    { own := fun _ _ _ => trivial
      child := fun _ _ _ _ _ _ _ => trivial
      sideChild := fun _ _ _ _ _ _ _ _ _ => trivial
      sideLink := fun _ _ _ _ _ _ => trivial }
  exact buildItem_meets hkept v

/-- Every list of items gives blocks. -/
theorem buildItems_shape (items : List Json) :
    Building.Meets (fun _ => True) AreBlocks E (buildItems {} items) :=
  buildFrom_meets AreBlocks.nil (fun _ _ hb hc => hb.append hc) fun v _ _ => buildItem_shape v

end Promises

end Syllabus
