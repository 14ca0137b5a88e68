/-
  Syllabus.Proofs.Item.Nesting
  ────────────────────────────
  **ITEMS INSIDE ITEMS.**

  An item may hold further items in three places: in its own list of children
  and in that of each of its sides.  `nestedItems` and `sideItems` are these
  three lists, read off the members of an item; building and reviewing go
  through exactly them:

      buildNested_eq    what building does with the children of an item
      buildSide_eq      and with those of a side
      item_induction    what holds of an item when it holds of all of these
                        holds of every value

  A fact about all items is proved by that induction, and never again by going
  through the functions that walk over members.
-/
import Syllabus.Item.Blocks
import Syllabus.Proofs.Journal.Promise

namespace Syllabus

/-! ## §1. The three lists. -/

/-- The items in the list of children among members. -/
def nestedItems (ms : List (String × Json)) : List Json :=
  ((Json.lookup "children" ms).getD .null).items

/-- The items in the list of children of a side. -/
def sideItems (side : String) (ms : List (String × Json)) : List Json :=
  match Json.lookup side ms with
  | some (.obj inner) => nestedItems inner
  | _ => []

theorem Json.mem_of_lookup {key : String} {ms : List (String × Json)} {v : Json}
    (h : Json.lookup key ms = some v) : (key, v) ∈ ms := by
  induction ms with
  | nil => exact absurd h (by simp [Json.lookup])
  | cons m ms ih =>
      obtain ⟨k, w⟩ := m
      unfold Json.lookup at h
      split at h
      · rename_i hk
        rw [hk, Option.some.inj h]
        exact List.mem_cons_self
      · exact List.mem_cons_of_mem _ (ih h)

/-! ## §2. Induction over items. -/

theorem Json.sizeOf_lt_of_lookup {key : String} {ms : List (String × Json)} {v : Json}
    (h : Json.lookup key ms = some v) : sizeOf v < sizeOf (Json.obj ms) := by
  have hlt := List.sizeOf_lt_of_mem (Json.mem_of_lookup h)
  simp only [Prod.mk.sizeOf_spec] at hlt
  simp only [Json.obj.sizeOf_spec]
  omega

theorem Json.sizeOf_items_le (v : Json) : sizeOf v.items ≤ sizeOf v := by
  cases v <;> simp [Json.items, Json.arr?]

theorem sizeOf_nil_lt (ms : List (String × Json)) : sizeOf ([] : List Json) < sizeOf (Json.obj ms) := by
  simp only [List.nil.sizeOf_spec, Json.obj.sizeOf_spec]
  cases ms with
  | nil => rw [List.nil.sizeOf_spec]; decide
  | cons m ms => rw [List.cons.sizeOf_spec]; omega

theorem sizeOf_nestedItems_lt (ms : List (String × Json)) :
    sizeOf (nestedItems ms) < sizeOf (Json.obj ms) := by
  unfold nestedItems
  cases hlookup : Json.lookup "children" ms with
  | none => exact sizeOf_nil_lt ms
  | some v => exact Nat.lt_of_le_of_lt (Json.sizeOf_items_le v) (Json.sizeOf_lt_of_lookup hlookup)

theorem sizeOf_sideItems_lt (side : String) (ms : List (String × Json)) :
    sizeOf (sideItems side ms) < sizeOf (Json.obj ms) := by
  unfold sideItems
  split
  · rename_i inner hlookup
    exact Nat.lt_trans (sizeOf_nestedItems_lt inner) (Json.sizeOf_lt_of_lookup hlookup)
  · exact sizeOf_nil_lt ms

/-- What holds of every value that is no object, and of an object when it holds of the items that
are nested in it, holds of every value. -/
theorem item_induction {P : Json → Prop} (scalar : ∀ v, v.isObject = false → P v)
    (object : ∀ ms, (∀ v ∈ nestedItems ms, P v) → (∀ side, ∀ v ∈ sideItems side ms, P v) →
      P (.obj ms)) : ∀ v, P v := by
  intro v
  -- Whatever is nested in a value is smaller than it, at any depth.
  induction hsize : sizeOf v using Nat.strongRecOn generalizing v with
  | _ size ih =>
      subst hsize
      cases v with
      | obj ms =>
          refine object ms ?_ ?_
          · intro w hw
            exact ih _ (Nat.lt_trans (List.sizeOf_lt_of_mem hw) (sizeOf_nestedItems_lt ms)) w rfl
          · intro side w hw
            exact ih _ (Nat.lt_trans (List.sizeOf_lt_of_mem hw) (sizeOf_sideItems_lt side ms)) w rfl
      | null => exact scalar _ rfl
      | bool b => exact scalar _ rfl
      | int n => exact scalar _ rfl
      | float x => exact scalar _ rfl
      | str s => exact scalar _ rfl
      | arr vs => exact scalar _ rfl

/-! ## §3. Building what is nested. -/

/-- To enter a place for nothing changes nothing. -/
theorem Building.scope_pure {α : Type} (steps : Path) (a : α) :
    Building.scope steps (pure a) = pure a := by
  funext j
  have hleave := Journal.leave_noted_enter j steps {}
  rw [show (({} : Notes).under steps) = {} from rfl] at hleave
  simp only [Journal.noted_none] at hleave
  exact congrArg (Prod.mk (Except.ok a : Except Failure α)) hleave

theorem buildNested_eq (options : BuildOptions) (ms : List (String × Json)) :
    buildNested options ms
      = Building.scope [.key "children"] (buildItems options (nestedItems ms)) := by
  induction ms with
  | nil => exact (Building.scope_pure _ _).symm
  | cons m ms ih =>
      obtain ⟨key, v⟩ := m
      unfold buildNested
      by_cases hkey : key = "children"
      · have hitems : nestedItems ((key, v) :: ms) = v.items := by
          unfold nestedItems Json.lookup
          rw [if_pos hkey]
          rfl
        rw [if_pos hkey, hitems]
        cases v <;> rfl
      · have hitems : nestedItems ((key, v) :: ms) = nestedItems ms := by
          unfold nestedItems
          rw [Json.lookup, if_neg hkey]
        rw [if_neg hkey, hitems]
        exact ih

theorem buildSide_eq (options : BuildOptions) (side : String) (ms : List (String × Json)) :
    buildSide options side ms
      = Building.scope [.key "children"] (buildItems options (sideItems side ms)) := by
  induction ms with
  | nil => exact (Building.scope_pure _ _).symm
  | cons m ms ih =>
      obtain ⟨key, v⟩ := m
      unfold buildSide
      by_cases hkey : key = side
      · have hlookup : Json.lookup side ((key, v) :: ms) = some v := by
          rw [Json.lookup, if_pos hkey]
        unfold sideItems
        rw [if_pos hkey, hlookup]
        cases v with
        | obj inner => exact buildNested_eq options inner
        | null => exact (Building.scope_pure _ _).symm
        | bool b => exact (Building.scope_pure _ _).symm
        | int n => exact (Building.scope_pure _ _).symm
        | float x => exact (Building.scope_pure _ _).symm
        | str s => exact (Building.scope_pure _ _).symm
        | arr vs => exact (Building.scope_pure _ _).symm
      · have hitems : sideItems side ((key, v) :: ms) = sideItems side ms := by
          unfold sideItems
          rw [Json.lookup, if_neg hkey]
        rw [if_neg hkey, hitems]
        exact ih

/-- What is nested in an item, built from the three lists. -/
def Nested.of (options : BuildOptions) (ms : List (String × Json)) : Nested where
  children := Building.scope [.key "children"] (buildItems options (nestedItems ms))
  left := Building.scope [.key "children"] (buildItems options (sideItems "left" ms))
  right := Building.scope [.key "children"] (buildItems options (sideItems "right" ms))

theorem buildItem_obj (options : BuildOptions) (ms : List (String × Json)) :
    buildItem options (.obj ms) = (Item.ofMembers ms).build options (Nested.of options ms) := by
  show (Item.ofMembers ms).build options ⟨buildNested options ms, buildSide options "left" ms,
    buildSide options "right" ms⟩ = _
  rw [buildNested_eq, buildSide_eq, buildSide_eq]
  rfl

theorem buildItem_scalar (options : BuildOptions) {v : Json} (h : v.isObject = false) :
    buildItem options v = (Item.ofJson v).build options Nested.none := by
  cases v with
  | obj ms => exact absurd h (show ¬ (true = false) by decide)
  | null => rfl
  | bool b => rfl
  | int n => rfl
  | float x => rfl
  | str s => rfl
  | arr vs => rfl

theorem buildFrom_cons (options : BuildOptions) (index : Nat) (v : Json) (rest : List Json) :
    buildFrom options index (v :: rest)
      = (do
        let blocks ← Building.scope [.index index] (buildItem options v)
        let others ← buildFrom options (index + 1) rest
        pure (blocks ++ others)) := rfl

/-! ## §4. Lists of items. -/

/-- A list of items keeps what each of them promises at its place. -/
theorem buildFrom_meets {options : BuildOptions} {D : Diagnostic → Prop} {P : List Block → Prop}
    {E : Failure → Prop} (hnil : P []) (happend : ∀ bs cs, P bs → P cs → P (bs ++ cs)) {vs : List Json} :
    ∀ {index : Nat}, (∀ v i, (v, i) ∈ vs.zipIdx index →
        Building.Meets (fun d => D (d.under [.index i])) P E (buildItem options v)) →
      Building.Meets D P E (buildFrom options index vs) := by
  induction vs with
  | nil => intro index _; exact Building.meets_pure hnil
  | cons v vs ih =>
      intro index h
      rw [List.zipIdx_cons] at h
      have hfirst : Building.Meets D P E (Building.scope [.index index] (buildItem options v)) :=
        (h v index List.mem_cons_self).scope fun d hd => hd
      have hrest := ih fun w i hw => h w i (List.mem_cons_of_mem _ hw)
      rw [buildFrom_cons]
      exact hfirst.bind fun bs hbs => hrest.bind fun cs hcs =>
        Building.meets_pure (happend bs cs hbs hcs)

end Syllabus
