/-
  Syllabus.Proofs.Item.Losses
  ───────────────────────────
  **WHICH ITEMS ARE LOST WHEN BUILDERS ARE OUT OF ORDER.**

  An item is lost if the builder of its tag is out of order, and if building
  gets to it without getting to a lost item before: nothing inside a lost item
  is looked at, nor what an item holds without opening it.

      losses       the lost items of a list, in the order of building
      standIn      an item that gives the paragraph that is left of a lost one
      noticed      an item with such a one in place of each lost one

  `noticed` goes wherever items may be nested, so it replaces some items that
  building never gets to; these give no blocks either way.
-/
import Syllabus.Proofs.Item.Replacing
import Syllabus.Proofs.Item.Shape

namespace Syllabus

/-! ## §1. Losses. -/

/-- A lost item. -/
structure Loss where
  /-- Where it stands. -/
  path : Path
  /-- Its tag. -/
  tag : Tag
  /-- What the builder of the tag says. -/
  message : String

/-- The code of the diagnostics that report losses. -/
def Loss.code : String := "item_build_failed"

/-- Whether a diagnostic reports a loss. -/
def Diagnostic.isLoss (d : Diagnostic) : Bool := d.code = Loss.code

/-- The diagnostic that reports a loss. -/
def Loss.diagnostic (l : Loss) : Diagnostic :=
  ⟨Loss.code, "Failed to build " ++ l.tag.name ++ " item: " ++ l.message, l.path, .error⟩

/-- Losses seen from further out. -/
def Loss.allUnder (steps : Path) (ls : List Loss) : List Loss :=
  ls.map fun l => { l with path := steps ++ l.path }

/-- What a run ends in that stops at the first loss. -/
def Loss.outcome {α : Type} (a : α) : List Loss → Except Failure α
  | [] => .ok a
  | l :: _ => .error ⟨l.message⟩

/-- The loss of an item whose builder is out of order. -/
def Item.loss? (failing : Tag → Option String) : Item → Option Loss
  | .known _ content => (failing content.tag).map fun message => ⟨[], content.tag, message⟩
  | _ => none

/-- The losses in an item, from those in its children and in the children of its sides, as far as it
opens them. -/
def Loss.opened (opens sides : Bool) (children left right : List Loss) : List Loss :=
  (if opens then allUnder [.key "children"] children else [])
  ++ (if sides then
    allUnder [.key "left"] (allUnder [.key "children"] left)
    ++ allUnder [.key "right"] (allUnder [.key "children"] right)
  else [])

theorem Loss.opened_nil (opens sides : Bool) : Loss.opened opens sides [] [] [] = [] := by
  cases opens <;> cases sides <;> rfl

mutual

/-- The items that are lost in a value. -/
def lossesIn (failing : Tag → Option String) : Json → List Loss
  | .obj ms =>
      match (Item.ofMembers ms).loss? failing with
      | some l => [l]
      | none =>
          Loss.opened (Item.ofMembers ms).opens (Item.ofMembers ms).sides?.isSome
            (lossesFrom failing 0 (nestedItems ms)) (lossesFrom failing 0 (sideItems "left" ms))
            (lossesFrom failing 0 (sideItems "right" ms))
  | v => ((Item.ofJson v).loss? failing).toList
termination_by v => sizeOf v
decreasing_by
  · exact sizeOf_nestedItems_lt ms
  · exact sizeOf_sideItems_lt "left" ms
  · exact sizeOf_sideItems_lt "right" ms

/-- The items that are lost in a list, from an index on. -/
def lossesFrom (failing : Tag → Option String) (index : Nat) : List Json → List Loss
  | [] => []
  | v :: rest =>
      Loss.allUnder [.index index] (lossesIn failing v) ++ lossesFrom failing (index + 1) rest
termination_by vs => sizeOf vs

end

/-- The items that are lost in a list. -/
def losses (failing : Tag → Option String) (items : List Json) : List Loss :=
  lossesFrom failing 0 items

theorem lossesIn_scalar (failing : Tag → Option String) {v : Json} (h : v.isObject = false) :
    lossesIn failing v = ((Item.ofJson v).loss? failing).toList := by
  cases v with
  | obj ms => exact absurd h (show ¬ (true = false) by decide)
  | _ => rw [lossesIn]; intro ms heq; exact absurd heq (by simp)

theorem lossesIn_lost {failing : Tag → Option String} {v : Json} {l : Loss}
    (h : (Item.ofJson v).loss? failing = some l) : lossesIn failing v = [l] := by
  cases v with
  | obj ms => rw [lossesIn, show (Item.ofMembers ms).loss? failing = some l from h]
  | _ => rw [lossesIn_scalar failing rfl, h]; rfl

/-! ## §2. What stands in for them. -/

/-- What is left of an item with a tag. -/
def lostNotice (tag : Tag) : Block := Block.notice ("[Failed to build " ++ tag.name ++ " item]")

/-- An item that gives this paragraph. -/
def standIn (tag : Tag) : Json :=
  .obj [("type", .str "paragraph"),
    ("text", .arr [.obj [("text", .str ("[Failed to build " ++ tag.name ++ " item]"))]])]

theorem makeParagraph_visible {s : String} (h : Text.isBlank s = false) :
    Block.makeParagraph (.segments [{ text := s }]) Color.default [] true
      = pure (some (Block.notice s)) := by
  have hrun : Segment.run? { text := s } = pure (some (Run.plain s)) := by
    unfold Segment.run?
    rw [h]
    rfl
  have hruns : Segment.runs [{ text := s }] = pure [Run.plain s] := by
    unfold Segment.runs
    rw [List.mapM_cons, hrun]
    rfl
  have hinput : (TextInput.segments [{ text := s }]).runs? true = pure (some [Run.plain s]) := by
    show (Segment.runs [{ text := s }] >>= fun runs => pure (someRuns runs)) = _
    rw [hruns]
    rfl
  unfold Block.makeParagraph
  rw [hinput]
  rfl

/-- A stand-in gives its paragraph and nothing else. -/
theorem ends_standIn (tag : Tag) :
    Building.Ends (buildItem {} (standIn tag)) (.ok [lostNotice tag]) {} := by
  have hvisible : Text.isBlank ("[Failed to build " ++ tag.name ++ " item]") = false :=
    Text.visible_append (by decide)
  have hitem : Item.ofMembers [("type", .str "paragraph"),
      ("text", .arr [.obj [("text", .str ("[Failed to build " ++ tag.name ++ " item]"))]])]
        = .known none (.text .paragraph
          { text := .segments [{ text := "[Failed to build " ++ tag.name ++ " item]" }] }) := rfl
  -- Its text is one segment, which is shown as it stands: the brackets in it are no markup.
  unfold standIn
  rw [buildItem_obj, hitem]
  show Building.Ends (Building.ofWriting (Block.makeParagraph (.segments
    [{ text := "[Failed to build " ++ tag.name ++ " item]" }]) Color.default [] true)
      >>= fun b => pure b.toList) _ _
  rw [makeParagraph_visible hvisible]
  exact (Building.ends_ofWriting (Writing.gives_pure _)).bind (Building.ends_pure _)

mutual

/-- A value with stand-ins for the items that are lost in it. -/
def noticed (failing : Tag → Option String) : Json → Json
  | .obj ms =>
      match (Item.ofMembers ms).loss? failing with
      | some l => standIn l.tag
      | none => .obj (noticedMembers failing ms)
  | v =>
      match (Item.ofJson v).loss? failing with
      | some l => standIn l.tag
      | none => v
termination_by structural v => v

/-- Values with stand-ins for the items that are lost in them. -/
def noticedItems (failing : Tag → Option String) : List Json → List Json
  | [] => []
  | v :: rest => noticed failing v :: noticedItems failing rest
termination_by structural vs => vs

/-- A list with stand-ins for the items that are lost in it. -/
def noticedArray (failing : Tag → Option String) : Json → Json
  | .arr vs => .arr (noticedItems failing vs)
  | v => v
termination_by structural v => v

/-- The members of an item with stand-ins for the items that are lost in it. -/
def noticedMembers (failing : Tag → Option String) : List (String × Json) → List (String × Json)
  | [] => []
  | (key, v) :: rest =>
      (key,
        if sideNames.contains key then noticedSide failing v
        else if key = "children" then noticedArray failing v
        else v) :: noticedMembers failing rest
termination_by structural ms => ms

/-- A side with stand-ins for the items that are lost in it. -/
def noticedSide (failing : Tag → Option String) : Json → Json
  | .obj ms => .obj (noticedChildren failing ms)
  | v => v
termination_by structural v => v

/-- The members of a side with stand-ins for the items that are lost in it. -/
def noticedChildren (failing : Tag → Option String) : List (String × Json) → List (String × Json)
  | [] => []
  | (key, v) :: rest =>
      (key, if key = "children" then noticedArray failing v else v) :: noticedChildren failing rest
termination_by structural ms => ms

end

section Noticed

variable (failing : Tag → Option String)

theorem noticedItems_eq (vs : List Json) : noticedItems failing vs = vs.map (noticed failing) := by
  induction vs with
  | nil => rfl
  | cons v vs ih => rw [noticedItems, ih, List.map_cons]

theorem noticedArray_eq (v : Json) : noticedArray failing v = replaceItems (noticed failing) v := by
  cases v with
  | arr vs => exact congrArg Json.arr (noticedItems_eq failing vs)
  | _ => rfl

theorem noticedChildren_eq (ms : List (String × Json)) :
    noticedChildren failing ms = ms.map fun (k, v) => (k, replaceChildren (noticed failing) k v) := by
  induction ms with
  | nil => rfl
  | cons m ms ih =>
      obtain ⟨key, v⟩ := m
      rw [noticedChildren, ih, noticedArray_eq]
      rfl

theorem noticedSide_eq (v : Json) : noticedSide failing v = replaceInSide (noticed failing) v := by
  cases v with
  | obj ms => exact congrArg Json.obj (noticedChildren_eq failing ms)
  | _ => rfl

theorem noticedMembers_eq (ms : List (String × Json)) :
    noticedMembers failing ms = withItems (noticed failing) ms := by
  induction ms with
  | nil => rfl
  | cons m ms ih =>
      obtain ⟨key, v⟩ := m
      rw [noticedMembers, ih, noticedSide_eq, noticedArray_eq]
      rfl

/-- Items that are not lost stay, with stand-ins in them. -/
theorem noticed_obj {ms : List (String × Json)} (h : (Item.ofMembers ms).loss? failing = none) :
    noticed failing (.obj ms) = .obj (withItems (noticed failing) ms) := by
  rw [noticed, h, ← noticedMembers_eq]

theorem noticed_lost {v : Json} {l : Loss} (h : (Item.ofJson v).loss? failing = some l) :
    noticed failing v = standIn l.tag := by
  cases v with
  | obj ms => rw [noticed, show (Item.ofMembers ms).loss? failing = some l from h]
  | _ => rw [noticed, h]; intro ms heq; exact absurd heq (by simp)

theorem noticed_scalar {v : Json} (hv : v.isObject = false)
    (h : (Item.ofJson v).loss? failing = none) : noticed failing v = v := by
  cases v with
  | obj ms => exact absurd hv (show ¬ (true = false) by decide)
  | _ => rw [noticed, h]; intro ms heq; exact absurd heq (by simp)

end Noticed

end Syllabus
