/-
  Syllabus.Proofs.Json.Outline
  ────────────────────────────
  **A VALUE, PLACE BY PLACE.**

  A value is what stands at its places, at any depth.  Its outline lists them
  in the order in which they are written: the path to each place, and what
  stands there, without what is inside it.  Nothing is passed over, not even
  the second member of a name, so that the outline determines the value.

      parts_induction     what holds of a value when it holds of all its parts
      Json.outline        the places of a value
      outline_injective   values with the same outline are the same
-/
import Syllabus.Json.Basic
import Syllabus.Path

namespace Syllabus

namespace Json

/-! ## §1. Parts. -/

/-- What holds of every value without parts, of an array when it holds of its items, and of an object
when it holds of the values of its members, holds of every value. -/
theorem parts_induction {P : Json → Prop} (scalar : ∀ v, v.arr? = none → v.obj? = none → P v)
    (array : ∀ vs, (∀ v ∈ vs, P v) → P (.arr vs))
    (object : ∀ ms, (∀ m ∈ ms, P m.2) → P (.obj ms)) : ∀ v, P v := by
  intro v
  -- A part of a value is smaller than it.
  induction hsize : sizeOf v using Nat.strongRecOn generalizing v with
  | _ size ih =>
      subst hsize
      cases v with
      | arr vs =>
          refine array vs fun w hw => ih _ ?_ w rfl
          have hitem : sizeOf w < sizeOf vs := List.sizeOf_lt_of_mem hw
          rw [arr.sizeOf_spec]
          omega
      | obj ms =>
          refine object ms fun m hm => ih _ ?_ m.2 rfl
          have hmember : sizeOf m < sizeOf ms := List.sizeOf_lt_of_mem hm
          have hvalue : sizeOf m = 1 + sizeOf m.1 + sizeOf m.2 := Prod.mk.sizeOf_spec m.1 m.2
          rw [obj.sizeOf_spec]
          omega
      | null => exact scalar _ rfl rfl
      | bool b => exact scalar _ rfl rfl
      | int n => exact scalar _ rfl rfl
      | float x => exact scalar _ rfl rfl
      | str s => exact scalar _ rfl rfl

end Json

/-! ## §2. Places. -/

/-- A place in a value. -/
structure Place where
  /-- The path to it. -/
  path : Path
  /-- What stands there; of an array or an object only that it is one. -/
  found : Json
  deriving DecidableEq, Repr

/-- A place in a part, as a place in what the part belongs to. -/
def Place.behind (step : Step) (place : Place) : Place := { place with path := step :: place.path }

theorem Place.behind_injective (step : Step) : Function.Injective (Place.behind step) := by
  rintro ⟨path, found⟩ ⟨path', found'⟩ h
  injection h with hpath hfound
  have htail : path = path' := List.tail_eq_of_cons_eq hpath
  have hsame : found = found' := hfound
  rw [htail, hsame]

namespace Json

mutual

/-- The places of a value, in the order in which they are written. -/
def outline : Json → List Place
  | .arr vs => ⟨[], .arr []⟩ :: outlineItems 0 vs
  | .obj ms => ⟨[], .obj []⟩ :: outlineMembers ms
  | v => [⟨[], v⟩]
termination_by structural v => v

/-- The places of items, of which the first has the given index. -/
def outlineItems (i : Nat) : List Json → List Place
  | [] => []
  | v :: vs => (outline v).map (Place.behind (.index i)) ++ outlineItems (i + 1) vs
termination_by structural vs => vs

/-- The places of members. -/
def outlineMembers : List (String × Json) → List Place
  | [] => []
  | (name, v) :: ms => (outline v).map (Place.behind (.key name)) ++ outlineMembers ms
termination_by structural ms => ms

end

theorem outline_scalar {v : Json} (harr : v.arr? = none) (hobj : v.obj? = none) :
    v.outline = [⟨[], v⟩] := by
  cases v with
  | arr vs => cases harr
  | obj ms => cases hobj
  | _ => rfl

theorem outlineItems_cons (i : Nat) (v : Json) (vs : List Json) :
    outlineItems i (v :: vs)
      = v.outline.map (Place.behind (.index i)) ++ outlineItems (i + 1) vs := rfl

theorem outlineMembers_cons (name : String) (v : Json) (ms : List (String × Json)) :
    outlineMembers ((name, v) :: ms)
      = v.outline.map (Place.behind (.key name)) ++ outlineMembers ms := rfl

theorem outline_arr (vs : List Json) :
    (Json.arr vs).outline = ⟨[], .arr []⟩ :: outlineItems 0 vs := rfl

theorem outline_obj (ms : List (String × Json)) :
    (Json.obj ms).outline = ⟨[], .obj []⟩ :: outlineMembers ms := rfl

/-! ## §3. The outline of a value says it all. -/

/-- The first place is the value's own, and all others are inside it. -/
theorem outline_root (v : Json) :
    ∃ found inside, v.outline = ⟨[], found⟩ :: inside ∧ ∀ place ∈ inside, place.path ≠ [] := by
  have hbehind : ∀ (step : Step) (places : List Place),
      ∀ place ∈ places.map (Place.behind step), place.path ≠ [] := by
    intro step places place hplace
    obtain ⟨inner, -, rfl⟩ := List.mem_map.mp hplace
    exact List.cons_ne_nil _ _
  cases v with
  | arr vs =>
      refine ⟨.arr [], outlineItems 0 vs, rfl, ?_⟩
      generalize 0 = i
      induction vs generalizing i with
      | nil => exact fun _ hplace => absurd hplace List.not_mem_nil
      | cons v vs ih => exact List.forall_mem_append.mpr ⟨hbehind _ _, ih (i + 1)⟩
  | obj ms =>
      refine ⟨.obj [], outlineMembers ms, rfl, ?_⟩
      induction ms with
      | nil => exact fun _ hplace => absurd hplace List.not_mem_nil
      | cons m ms ih => exact List.forall_mem_append.mpr ⟨hbehind _ _, ih⟩
  | _ => exact ⟨_, [], rfl, fun _ hplace => absurd hplace List.not_mem_nil⟩

/-- Where the front of a list ends is known if all of its items have a property and the item behind
it has not. -/
theorem append_inj_of_front {α : Type} {p : α → Bool} {front front' rest rest' : List α}
    (hfront : ∀ a ∈ front, p a = true) (hfront' : ∀ a ∈ front', p a = true)
    (hrest : ∀ a ∈ rest.head?, p a = false) (hrest' : ∀ a ∈ rest'.head?, p a = false)
    (h : front ++ rest = front' ++ rest') : front = front' ∧ rest = rest' := by
  have hcut : ∀ {front rest : List α}, (∀ a ∈ front, p a = true) →
      (∀ a ∈ rest.head?, p a = false) → (front ++ rest).takeWhile p = front := by
    intro front rest hfront hrest
    rw [List.takeWhile_append_of_pos hfront]
    cases rest with
    | nil => exact List.append_nil front
    | cons a rest =>
        rw [List.takeWhile_cons_of_neg (by rw [hrest a rfl]; exact Bool.false_ne_true),
          List.append_nil]
  have hsame : front = front' := by
    rw [← hcut hfront hrest, h, hcut hfront' hrest']
  subst hsame
  exact ⟨rfl, List.append_cancel_left h⟩

/-- The place is inside a part of the value: it is more than one step away. -/
def isDeep (place : Place) : Bool := 1 < place.path.length

/-- The first place, if there is any, is that of a part: it is one step away. -/
def StartsPart (places : List Place) : Prop := ∀ place ∈ places.head?, isDeep place = false

/-- The first place of a part is one step away, whatever follows the part. -/
theorem startsPart_append (step : Step) (v : Json) (places : List Place) :
    StartsPart (v.outline.map (Place.behind step) ++ places) := by
  obtain ⟨found, inside, hv, -⟩ := outline_root v
  rw [hv]
  intro place hplace
  cases hplace
  rfl

theorem startsPart_items (i : Nat) (vs : List Json) : StartsPart (outlineItems i vs) := by
  cases vs with
  | nil => exact fun _ hplace => nomatch hplace
  | cons v vs => exact startsPart_append _ v _

theorem startsPart_members (ms : List (String × Json)) : StartsPart (outlineMembers ms) := by
  cases ms with
  | nil => exact fun _ hplace => nomatch hplace
  | cons m ms => exact startsPart_append _ m.2 _

theorem outline_ne_nil (v : Json) (step : Step) (places : List Place) :
    v.outline.map (Place.behind step) ++ places ≠ [] := by
  obtain ⟨found, inside, hv, -⟩ := outline_root v
  rw [hv]
  exact List.cons_ne_nil _ _

/-- The places of a first part, and the step to it, are told apart from the places that follow. -/
theorem firstPart_inj {step step' : Step} {v v' : Json} {places places' : List Place}
    (h : v.outline.map (Place.behind step) ++ places
      = v'.outline.map (Place.behind step') ++ places')
    (hp : StartsPart places) (hp' : StartsPart places') :
    step = step' ∧ v.outline = v'.outline ∧ places = places' := by
  -- What is inside a part is deep, so that the part ends in front of the next place that is not.
  have hdeep : ∀ (step : Step) {inside : List Place}, (∀ place ∈ inside, place.path ≠ []) →
      ∀ place ∈ inside.map (Place.behind step), isDeep place = true := by
    intro step inside hinside place hplace
    obtain ⟨inner, hinner, rfl⟩ := List.mem_map.mp hplace
    exact decide_eq_true (Nat.succ_lt_succ (List.length_pos_iff.mpr (hinside inner hinner)))
  obtain ⟨found, inside, hv, hinside⟩ := outline_root v
  obtain ⟨found', inside', hv', hinside'⟩ := outline_root v'
  rw [hv, hv', List.map_cons, List.map_cons, List.cons_append, List.cons_append,
    List.cons.injEq] at h
  obtain ⟨hsame, hrest⟩ := append_inj_of_front (hdeep step hinside) (hdeep step' hinside') hp hp' h.2
  injection h.1 with hpath hfound
  cases List.head_eq_of_cons_eq hpath
  have hinner : inside = inside' :=
    (List.map_inj_right fun _ _ => (Place.behind_injective step).eq_iff.mp).mp hsame
  refine ⟨rfl, ?_, hrest⟩
  rw [hv, hv', hinner]
  exact congrArg (fun found => (⟨[], found⟩ : Place) :: inside') hfound

theorem outlineItems_inj {vs : List Json}
    (h : ∀ v ∈ vs, ∀ w : Json, v.outline = w.outline → v = w) :
    ∀ {i : Nat} {ws : List Json}, outlineItems i vs = outlineItems i ws → vs = ws := by
  induction vs with
  | nil =>
      intro i ws hws
      cases ws with
      | nil => rfl
      | cons w ws => exact absurd hws.symm (outline_ne_nil w _ _)
  | cons v vs ih =>
      rw [List.forall_mem_cons] at h
      intro i ws hws
      cases ws with
      | nil => exact absurd hws (outline_ne_nil v _ _)
      | cons w ws =>
          obtain ⟨-, hfirst, hothers⟩ :=
            firstPart_inj hws (startsPart_items _ vs) (startsPart_items _ ws)
          rw [h.1 w hfirst, ih h.2 hothers]

theorem outlineMembers_inj {ms : List (String × Json)}
    (h : ∀ m ∈ ms, ∀ w : Json, m.2.outline = w.outline → m.2 = w) :
    ∀ {ns : List (String × Json)}, outlineMembers ms = outlineMembers ns → ms = ns := by
  induction ms with
  | nil =>
      intro ns hns
      cases ns with
      | nil => rfl
      | cons n ns => exact absurd hns.symm (outline_ne_nil n.2 _ _)
  | cons m ms ih =>
      rw [List.forall_mem_cons] at h
      intro ns hns
      cases ns with
      | nil => exact absurd hns (outline_ne_nil m.2 _ _)
      | cons n ns =>
          obtain ⟨hname, hfirst, hothers⟩ :=
            firstPart_inj hns (startsPart_members ms) (startsPart_members ns)
          rw [ih h.2 hothers, Prod.ext (Step.key.inj hname) (h.1 n.2 hfirst)]

/-- Values with the same outline show the same at their root. -/
theorem root_eq {v w : Json} {inside inside' : List Place} {found found' : Json}
    (hv : v.outline = ⟨[], found⟩ :: inside) (hw : w.outline = ⟨[], found'⟩ :: inside')
    (h : v.outline = w.outline) : found = found' ∧ inside = inside' := by
  rw [hv, hw, List.cons.injEq, Place.mk.injEq] at h
  exact ⟨h.1.2, h.2⟩

/-- Values with the same outline are the same. -/
theorem outline_injective : Function.Injective outline := by
  intro v
  induction v using parts_induction with
  | scalar v harr hobj =>
      intro w h
      have hv := outline_scalar harr hobj
      cases w with
      | arr ws => rw [(root_eq hv (outline_arr ws) h).1] at harr; cases harr
      | obj ns => rw [(root_eq hv (outline_obj ns) h).1] at hobj; cases hobj
      | _ => exact (root_eq hv rfl h).1
  | array vs ih =>
      intro w h
      cases w with
      | arr ws => rw [outlineItems_inj ih (root_eq rfl rfl h).2]
      | _ => cases (root_eq (outline_arr vs) rfl h).1
  | object ms ih =>
      intro w h
      cases w with
      | obj ns => rw [outlineMembers_inj ih (root_eq rfl rfl h).2]
      | _ => cases (root_eq (outline_obj ms) rfl h).1

end Json

end Syllabus
