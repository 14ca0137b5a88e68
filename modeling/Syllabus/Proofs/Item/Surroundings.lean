/-
  Syllabus.Proofs.Item.Surroundings
  ─────────────────────────────────
  **AN ITEM COUNTS FOR WHAT IT IS BUILT INTO.**

  A nested item is found at the end of a path through children and sides.
  What it is nested in is read without it, and built around what it is built
  into.  So whatever is put in its place, nothing else of the building depends
  on it.

      Path.Nesting      paths from an item to the items that are nested in it
      Alike             members that differ in their nested items alone
      buildItem_put     items that are built alike can stand for each other
-/
import Syllabus.Proofs.Item.Replacing
import Syllabus.Proofs.Json.Putting

namespace Syllabus

/-! ## §1. Nested places. -/

/-- A path that leads from an item to itself or to an item that is nested in it. -/
inductive Path.Nesting : Path → Prop
  /-- To the item itself. -/
  | here : Nesting []
  /-- Through its children. -/
  | child (i : Nat) {p : Path} (h : Nesting p) : Nesting (.key "children" :: .index i :: p)
  /-- Through the children of a side. -/
  | sideChild {side : String} (hside : side ∈ ["left", "right"]) (i : Nat) {p : Path}
      (h : Nesting p) : Nesting (.key side :: .key "children" :: .index i :: p)

/-! ## §2. Members around nested items. -/

/-- Members that are the same once all nested items are taken for one and the same. -/
def Alike (ms ms' : List (String × Json)) : Prop :=
  withItems (fun _ => .null) ms' = withItems (fun _ => .null) ms

section Alike

variable {ms ms' : List (String × Json)}

theorem Alike.symm (h : Alike ms ms') : Alike ms' ms := Eq.symm h

theorem Alike.trans {ms'' : List (String × Json)} (h : Alike ms ms') (h' : Alike ms' ms'') :
    Alike ms ms'' := Eq.trans h' h

/-- Whatever stands under another name is the same. -/
theorem Alike.lookup (h : Alike ms ms') {key : String} (hkey : key ∉ nestingNames) :
    Json.lookup key ms' = Json.lookup key ms := by
  rw [← lookup_withItems_of_not (f := fun _ => .null) hkey, h, lookup_withItems_of_not hkey]

/-- The same item is read, but for the lists that it keeps. -/
theorem Alike.bare (h : Alike ms ms') : (Item.ofMembers ms').bare = (Item.ofMembers ms).bare := by
  rw [← Item.ofMembers_withItems (fun _ => .null) ms', h, Item.ofMembers_withItems]

/-- Something put into an item of a list is not seen where items are not. -/
theorem replaceItems_put (v : Json) (i : Nat) (p : Path) (new : Json) :
    replaceItems (fun _ => .null) (v.put (.index i :: p) new) = replaceItems (fun _ => .null) v := by
  cases v with
  | arr vs =>
      refine congrArg Json.arr (List.ext_getElem? fun k => ?_)
      simp only [List.getElem?_map, List.getElem?_modify, Option.map_eq_map, Option.map_map,
        Function.comp_def]
  | _ => rfl

theorem alike_put_child (ms : List (String × Json)) (i : Nat) (p : Path) (new : Json) :
    Alike ms (Json.modifyMember "children" (fun v => v.put (.index i :: p) new) ms) :=
  Json.map_modifyMember (fun v => replaceItems_put v i p new) ms

theorem alike_put_side {side : String} (hside : side ∈ ["left", "right"])
    (ms : List (String × Json)) (i : Nat) (p : Path) (new : Json) :
    Alike ms (Json.modifyMember side (fun v => v.put (.key "children" :: .index i :: p) new) ms) := by
  have hcontains : sideNames.contains side = true := List.contains_iff_mem.mpr hside
  refine Json.map_modifyMember (fun v => ?_) ms
  rw [replaceNested_side hcontains, replaceNested_side hcontains]
  cases v with
  | obj inner =>
      refine congrArg Json.obj (Json.map_modifyMember (g := replaceChildren fun _ => .null) ?_ inner)
      exact fun v => replaceItems_put v i p new
  | _ => rfl

end Alike

/-! ## §3. What is nested after something was put. -/

section Nested

variable {ms : List (String × Json)} {side other name : String} {f : Json → Json}

theorem nestedItems_put_child (ms : List (String × Json)) (i : Nat) (p : Path) (new : Json) :
    nestedItems (Json.modifyMember "children" (fun v => v.put (.index i :: p) new) ms)
      = (nestedItems ms).modify i fun v => v.put p new :=
  Json.items_member_put (.obj ms) "children" i p new

theorem nestedItems_modifyMember (h : "children" ≠ name) :
    nestedItems (Json.modifyMember name f ms) = nestedItems ms := by
  unfold nestedItems
  rw [Json.lookup_modifyMember_of_ne h]

theorem sideItems_modifyMember (h : other ≠ name) :
    sideItems other (Json.modifyMember name f ms) = sideItems other ms := by
  unfold sideItems
  rw [Json.lookup_modifyMember_of_ne h]

theorem sideItems_put_side (side : String) (ms : List (String × Json)) (i : Nat) (p : Path)
    (new : Json) :
    sideItems side
        (Json.modifyMember side (fun v => v.put (.key "children" :: .index i :: p) new) ms)
      = (sideItems side ms).modify i fun v => v.put p new := by
  unfold sideItems
  rw [Json.lookup_modifyMember]
  cases Json.lookup side ms with
  | none => exact (List.modify_nil _ _).symm
  | some v =>
      cases v with
      | obj inner => exact nestedItems_put_child inner i p new
      | _ => exact (List.modify_nil _ _).symm

theorem ne_of_mem_sides (h : side ∈ ["left", "right"]) : side ≠ "children" ∧ "children" ≠ side := by
  simp only [List.mem_cons, List.not_mem_nil, or_false] at h
  rcases h with rfl | rfl <;> decide

/-- What is nested in the sides after something was put into one of them. -/
theorem sideItems_put (side other : String) (ms : List (String × Json)) (i : Nat) (p : Path)
    (new : Json) :
    sideItems other
        (Json.modifyMember side (fun v => v.put (.key "children" :: .index i :: p) new) ms)
      = if other = side then (sideItems side ms).modify i fun v => v.put p new
        else sideItems other ms := by
  by_cases h : other = side
  · rw [h, if_pos rfl, sideItems_put_side]
  · rw [if_neg h, sideItems_modifyMember h]

end Nested

/-! ## §4. Building. -/

variable {options : BuildOptions} {a b : Json}

/-- Items of a list that are built alike can stand for each other. -/
theorem buildFrom_modify {f g : Json → Json} {vs : List Json} {i : Nat}
    (h : ∀ v, buildItem options (f v) = buildItem options (g v)) :
    ∀ index, buildFrom options index (vs.modify i f) = buildFrom options index (vs.modify i g) := by
  induction vs generalizing i with
  | nil =>
      intro index
      rw [List.modify_nil, List.modify_nil]
  | cons v vs ih =>
      intro index
      cases i with
      | zero =>
          rw [List.modify_zero_cons, List.modify_zero_cons, buildFrom_cons, buildFrom_cons, h]
      | succ i =>
          rw [List.modify_succ_cons, List.modify_succ_cons, buildFrom_cons, buildFrom_cons, ih]

/-- An item is built from how it is read and from what is nested in it. -/
theorem buildItem_alike {ms ms' : List (String × Json)} (h : Alike ms ms')
    (hchildren : buildItems options (nestedItems ms') = buildItems options (nestedItems ms))
    (hsides : ∀ side ∈ ["left", "right"],
      buildItems options (sideItems side ms') = buildItems options (sideItems side ms)) :
    buildItem options (.obj ms') = buildItem options (.obj ms) := by
  have hnested : Nested.of options ms' = Nested.of options ms := by
    unfold Nested.of
    rw [hchildren, hsides "left" (by decide), hsides "right" (by decide)]
  rw [buildItem_obj, buildItem_obj, hnested, ← Item.build_bare, h.bare, Item.build_bare]

/-- **Items that are built alike can stand for each other, wherever they are nested.** -/
theorem buildItem_put {p : Path} (hp : p.Nesting) (h : buildItem options a = buildItem options b)
    (v : Json) : buildItem options (v.put p a) = buildItem options (v.put p b) := by
  induction hp generalizing v with
  | here => rw [Json.put_nil, Json.put_nil, h]
  | child i _ ih =>
      cases v with
      | obj ms =>
          refine buildItem_alike ((alike_put_child ms i _ b).symm.trans (alike_put_child ms i _ a)) ?_ ?_
          · rw [nestedItems_put_child, nestedItems_put_child]
            exact buildFrom_modify ih 0
          · intro side hside
            rw [sideItems_modifyMember (ne_of_mem_sides hside).1,
              sideItems_modifyMember (ne_of_mem_sides hside).1]
      | _ => rfl
  | sideChild hside i _ ih =>
      cases v with
      | obj ms =>
          refine buildItem_alike
            ((alike_put_side hside ms i _ b).symm.trans (alike_put_side hside ms i _ a)) ?_ ?_
          · rw [nestedItems_modifyMember (ne_of_mem_sides hside).2,
              nestedItems_modifyMember (ne_of_mem_sides hside).2]
          · intro other _
            rw [sideItems_put, sideItems_put]
            split
            · exact buildFrom_modify ih 0
            · rfl
      | _ => rfl

end Syllabus
