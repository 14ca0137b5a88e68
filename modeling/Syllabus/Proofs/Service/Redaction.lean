/-
  Syllabus.Proofs.Service.Redaction
  ─────────────────────────────────
  **NOTHING OF THE CONTENT REACHES THE LOG.**

  A detail is logged without its content: at every depth, the places behind a
  content key are gone, and all others are there, in their order.  What stood
  at the places that are gone makes no difference to what is logged.

      SameBut            entries that differ in those under some keys only
      outline_redacted   the places that are left are those outside of content
      SameButContent     values that differ in their content only
      redacted_eq_iff    they are exactly those that are not told apart
      content_redacted   what is logged of a detail
-/
import Mathlib.Data.List.Forall2
import Syllabus.Proofs.Json.Outline
import Syllabus.Service.Redaction

namespace Syllabus.Service

/-! ## §1. Entries that differ under some keys only. -/

section Entries

variable {κ α β : Type}

/-- Two lists of entries that differ in those under some keys only: of these, each side may have any.
All others have the same keys in the same order, and under each key stand values that are related. -/
inductive SameBut (hidden : κ → Prop) (R : κ → α → α → Prop) :
    List (κ × α) → List (κ × α) → Prop
  /-- No entries on either side. -/
  | nil : SameBut hidden R [] []
  /-- Another entry under such a key on the left. -/
  | left {k v es fs} (hk : hidden k) (h : SameBut hidden R es fs) :
      SameBut hidden R ((k, v) :: es) fs
  /-- Another entry under such a key on the right. -/
  | right {k w es fs} (hk : hidden k) (h : SameBut hidden R es fs) :
      SameBut hidden R es ((k, w) :: fs)
  /-- Another entry on both sides. -/
  | both {k v w es fs} (hv : R k v w) (h : SameBut hidden R es fs) :
      SameBut hidden R ((k, v) :: es) ((k, w) :: fs)

variable {hidden : κ → Prop} {R : κ → α → α → Prop} {es fs : List (κ × α)}

/-- Entries that have the same key and related values. -/
def EntryAlike (R : κ → α → α → Prop) (e f : κ × α) : Prop := e.1 = f.1 ∧ R e.1 e.2 f.2

/-- The entries under keys that are shown. -/
def keptBy (shown : κ → Bool) (es : List (κ × α)) : List (κ × α) := es.filter fun e => shown e.1

variable {shown : κ → Bool} {k : κ}

theorem keptBy_cons_of_shown (h : shown k = true) (v : α) (es : List (κ × α)) :
    keptBy shown ((k, v) :: es) = (k, v) :: keptBy shown es := List.filter_cons_of_pos h

theorem keptBy_cons_of_hidden (h : shown k = false) (v : α) (es : List (κ × α)) :
    keptBy shown ((k, v) :: es) = keptBy shown es :=
  List.filter_cons_of_neg (by rw [h]; exact Bool.false_ne_true)

theorem SameBut.forall₂ (hshown : ∀ k, shown k = false ↔ hidden k)
    (h : SameBut hidden R es fs) :
    List.Forall₂ (EntryAlike R) (keptBy shown es) (keptBy shown fs) := by
  induction h with
  | nil => exact .nil
  | left hk _ ih =>
      rw [keptBy_cons_of_hidden ((hshown _).mpr hk)]
      exact ih
  | right hk _ ih =>
      rw [keptBy_cons_of_hidden ((hshown _).mpr hk)]
      exact ih
  | @both k _ _ _ _ hv _ ih =>
      cases hk : shown k with
      | true =>
          rw [keptBy_cons_of_shown hk, keptBy_cons_of_shown hk]
          exact .cons ⟨rfl, hv⟩ ih
      | false =>
          rw [keptBy_cons_of_hidden hk, keptBy_cons_of_hidden hk]
          exact ih

theorem sameBut_of_forall₂ (hshown : ∀ k, shown k = false ↔ hidden k)
    (h : List.Forall₂ (EntryAlike R) (keptBy shown es) (keptBy shown fs)) :
    SameBut hidden R es fs := by
  induction es generalizing fs with
  | nil =>
      -- What is left on the right is hidden, all of it.
      induction fs with
      | nil => exact .nil
      | cons f fs ihf =>
          obtain ⟨l, w⟩ := f
          cases hl : shown l with
          | true =>
              rw [keptBy_cons_of_shown hl] at h
              cases h
          | false =>
              rw [keptBy_cons_of_hidden hl] at h
              exact .right ((hshown l).mp hl) (ihf h)
  | cons e es ih =>
      obtain ⟨k, v⟩ := e
      cases hk : shown k with
      | false =>
          rw [keptBy_cons_of_hidden hk] at h
          exact .left ((hshown k).mp hk) (ih h)
      | true =>
          rw [keptBy_cons_of_shown hk] at h
          -- The first entry on the right that is not hidden is the one on the left.
          induction fs with
          | nil => cases h
          | cons f fs ihf =>
              obtain ⟨l, w⟩ := f
              cases hl : shown l with
              | false =>
                  rw [keptBy_cons_of_hidden hl] at h
                  exact .right ((hshown l).mp hl) (ihf h)
              | true =>
                  rw [keptBy_cons_of_shown hl] at h
                  obtain ⟨⟨hkey, hv⟩, hrest⟩ := List.forall₂_cons.mp h
                  cases hkey
                  exact .both hv (ih hrest)

/-- Lists have the same images if their items have, one by one. -/
theorem map_eq_map_iff {f g : α → β} {xs ys : List α} :
    xs.map f = ys.map g ↔ List.Forall₂ (fun x y => f x = g y) xs ys := by
  rw [← List.forall₂_eq_eq_eq, List.forall₂_map_left_iff, List.forall₂_map_right_iff]

/-- Relations that agree on the items of the left list hold of the same lists. -/
theorem forall₂_congr_left {R S : α → β → Prop} {xs : List α} {ys : List β}
    (h : ∀ x ∈ xs, ∀ y, R x y ↔ S x y) : List.Forall₂ R xs ys ↔ List.Forall₂ S xs ys := by
  induction xs generalizing ys with
  | nil => rw [List.forall₂_nil_left_iff, List.forall₂_nil_left_iff]
  | cons x xs ih =>
      rw [List.forall_mem_cons] at h
      cases ys with
      | nil => exact ⟨nofun, nofun⟩
      | cons y ys => rw [List.forall₂_cons, List.forall₂_cons, h.1 y, ih h.2]

end Entries

/-! ## §2. Redaction, level by level. -/

/-- Whether a member of this name is shown. -/
def isOpen (name : String) : Bool := !contentKeys.contains name

theorem isOpen_eq_false_iff (name : String) : isOpen name = false ↔ name ∈ contentKeys := by
  unfold isOpen
  rw [Bool.not_eq_false', List.contains_iff_mem]

theorem redactedItems_eq (vs : List Json) : redactedItems vs = vs.map redacted := by
  induction vs with
  | nil => rfl
  | cons v vs ih =>
      show redacted v :: redactedItems vs = _
      rw [ih, List.map_cons]

theorem redactedMembers_eq (ms : List (String × Json)) :
    redactedMembers ms = (keptBy isOpen ms).map fun m => (m.1, redacted m.2) := by
  induction ms with
  | nil => rfl
  | cons m ms ih =>
      obtain ⟨name, v⟩ := m
      show (if contentKeys.contains name then redactedMembers ms
        else (name, redacted v) :: redactedMembers ms) = _
      cases hname : contentKeys.contains name with
      | true =>
          have hhidden : isOpen name = false := congrArg (!·) hname
          rw [keptBy_cons_of_hidden hhidden, if_pos rfl, ih]
      | false =>
          have hshown : isOpen name = true := congrArg (!·) hname
          rw [keptBy_cons_of_shown hshown, if_neg Bool.false_ne_true, ih, List.map_cons]

theorem redacted_arr (vs : List Json) : redacted (.arr vs) = .arr (vs.map redacted) :=
  congrArg Json.arr (redactedItems_eq vs)

theorem redacted_obj (ms : List (String × Json)) :
    redacted (.obj ms) = .obj ((keptBy isOpen ms).map fun m => (m.1, redacted m.2)) :=
  congrArg Json.obj (redactedMembers_eq ms)

theorem redacted_scalar {v : Json} (harr : v.arr? = none) (hobj : v.obj? = none) :
    redacted v = v := by
  cases v with
  | arr vs => cases harr
  | obj ms => cases hobj
  | _ => rfl

/-! ## §3. The places that are left. -/

/-- The way to a place leads through a member that holds content. -/
def InContent (place : Place) : Prop := ∃ name ∈ contentKeys, Step.key name ∈ place.path

instance (place : Place) : Decidable (InContent place) :=
  inferInstanceAs (Decidable (∃ name ∈ contentKeys, Step.key name ∈ place.path))

/-- The places outside of content. -/
def openPlaces (places : List Place) : List Place := places.filter fun place => ¬ InContent place

theorem inContent_behind_index (i : Nat) (place : Place) :
    InContent (place.behind (.index i)) ↔ InContent place := by
  unfold InContent Place.behind
  simp only [List.mem_cons, reduceCtorEq, false_or]

theorem inContent_behind_shown {name : String} (h : isOpen name = true) (place : Place) :
    InContent (place.behind (.key name)) ↔ InContent place := by
  have hname : name ∉ contentKeys := by
    rw [← isOpen_eq_false_iff, h]
    exact Bool.noConfusion
  unfold InContent Place.behind
  constructor
  · rintro ⟨other, hother, hstep⟩
    rcases List.mem_cons.mp hstep with hhead | htail
    · cases hhead
      exact absurd hother hname
    · exact ⟨other, hother, htail⟩
  · rintro ⟨other, hother, hstep⟩
    exact ⟨other, hother, List.mem_cons_of_mem _ hstep⟩

theorem inContent_behind_hidden {name : String} (h : isOpen name = false) (place : Place) :
    InContent (place.behind (.key name)) :=
  ⟨name, (isOpen_eq_false_iff name).mp h, List.mem_cons_self⟩

theorem openPlaces_root (v : Json) (places : List Place) :
    openPlaces (⟨[], v⟩ :: places) = ⟨[], v⟩ :: openPlaces places := by
  have hroot : ¬ InContent ⟨[], v⟩ := fun ⟨_, _, hstep⟩ => absurd hstep List.not_mem_nil
  exact List.filter_cons_of_pos (decide_eq_true hroot)

theorem openPlaces_append (places others : List Place) :
    openPlaces (places ++ others) = openPlaces places ++ openPlaces others :=
  List.filter_append places others

/-- A step that does not lead into content keeps places where they are. -/
theorem openPlaces_behind {step : Step}
    (h : ∀ place : Place, InContent (place.behind step) ↔ InContent place) (places : List Place) :
    openPlaces (places.map (Place.behind step)) = (openPlaces places).map (Place.behind step) := by
  unfold openPlaces
  rw [List.filter_map]
  exact congrArg _ (List.filter_congr fun place _ => decide_eq_decide.mpr (not_congr (h place)))

/-- Behind a member that holds content no place is outside of it. -/
theorem openPlaces_hidden {name : String} (h : isOpen name = false) (places : List Place) :
    openPlaces (places.map (Place.behind (.key name))) = [] := by
  unfold openPlaces
  rw [List.filter_eq_nil_iff]
  intro place hplace
  obtain ⟨inner, -, rfl⟩ := List.mem_map.mp hplace
  rw [decide_eq_true_iff, not_not]
  exact inContent_behind_hidden h inner

/-- The places in items after redaction are those before it, outside of content. -/
theorem itemPlaces_redacted {vs : List Json}
    (h : ∀ v ∈ vs, (redacted v).outline = openPlaces v.outline) :
    ∀ i, Json.outlineItems i (vs.map redacted) = openPlaces (Json.outlineItems i vs) := by
  induction vs with
  | nil => intro i; rfl
  | cons v vs ih =>
      intro i
      rw [List.forall_mem_cons] at h
      rw [List.map_cons, Json.outlineItems_cons, Json.outlineItems_cons, openPlaces_append, h.1,
        ih h.2, openPlaces_behind (inContent_behind_index i)]

/-- The places in members after redaction are those before it, outside of content. -/
theorem memberPlaces_redacted {ms : List (String × Json)}
    (h : ∀ m ∈ ms, (redacted m.2).outline = openPlaces m.2.outline) :
    Json.outlineMembers ((keptBy isOpen ms).map fun m => (m.1, redacted m.2))
      = openPlaces (Json.outlineMembers ms) := by
  induction ms with
  | nil => rfl
  | cons m ms ih =>
      obtain ⟨name, v⟩ := m
      rw [List.forall_mem_cons] at h
      rw [Json.outlineMembers_cons, openPlaces_append, ← ih h.2]
      cases hname : isOpen name with
      | true =>
          rw [keptBy_cons_of_shown hname, List.map_cons, Json.outlineMembers_cons, h.1,
            openPlaces_behind (inContent_behind_shown hname)]
      | false => rw [keptBy_cons_of_hidden hname, openPlaces_hidden hname, List.nil_append]

/-- The places that are left are those outside of content, in their order, with what stood there. -/
theorem outline_redacted (v : Json) : (redacted v).outline = openPlaces v.outline := by
  induction v using Json.parts_induction with
  | scalar v harr hobj =>
      rw [redacted_scalar harr hobj, Json.outline_scalar harr hobj, openPlaces_root]
      rfl
  | array vs ih =>
      rw [redacted_arr, Json.outline_arr, Json.outline_arr, openPlaces_root,
        itemPlaces_redacted ih]
  | object ms ih =>
      rw [redacted_obj, Json.outline_obj, Json.outline_obj, openPlaces_root,
        memberPlaces_redacted ih]

/-! ## §4. Values that are not told apart. -/

/-- Two values differ in their content only: in members that hold content, at any depth. -/
inductive SameButContent : Json → Json → Prop
  /-- They do not differ at all. -/
  | same (v) : SameButContent v v
  /-- They are arrays, and one by one their items differ in their content only. -/
  | array {vs ws} (h : List.Forall₂ SameButContent vs ws) : SameButContent (.arr vs) (.arr ws)
  /-- They are objects, and except for those that hold content, they have the same members in the
  same order, whose values differ in their content only. -/
  | object {ms ns} (h : SameBut (fun name => name ∈ contentKeys) (fun _ => SameButContent) ms ns) :
      SameButContent (.obj ms) (.obj ns)

section Inversion

variable {v w : Json} {vs : List Json} {ms : List (String × Json)}

theorem redacted_scalar_eq_iff (harr : v.arr? = none) (hobj : v.obj? = none) :
    redacted v = redacted w ↔ w = v := by
  rw [redacted_scalar harr hobj, eq_comm]
  cases w with
  | arr ws =>
      constructor <;> intro h <;> rw [← h] at harr <;> cases harr
  | obj ns =>
      constructor <;> intro h <;> rw [← h] at hobj <;> cases hobj
  | _ => exact Iff.rfl

theorem redacted_arr_eq_iff :
    redacted (.arr vs) = redacted w
      ↔ ∃ ws, w = .arr ws ∧ List.Forall₂ (fun v w => redacted v = redacted w) vs ws := by
  constructor
  · intro h
    cases w with
    | arr ws =>
        rw [redacted_arr, redacted_arr, Json.arr.injEq, map_eq_map_iff] at h
        exact ⟨ws, rfl, h⟩
    | _ => cases h
  · rintro ⟨ws, rfl, h⟩
    rw [redacted_arr, redacted_arr, map_eq_map_iff.mpr h]

theorem redacted_obj_eq_iff :
    redacted (.obj ms) = redacted w
      ↔ ∃ ns, w = .obj ns ∧ List.Forall₂ (EntryAlike fun _ v w => redacted v = redacted w)
          (keptBy isOpen ms) (keptBy isOpen ns) := by
  have hentry : ∀ m n : String × Json, (m.1, redacted m.2) = (n.1, redacted n.2)
      ↔ EntryAlike (fun _ v w => redacted v = redacted w) m n := by
    intro m n
    rw [Prod.mk.injEq]
    exact Iff.rfl
  constructor
  · intro h
    cases w with
    | obj ns =>
        rw [redacted_obj, redacted_obj, Json.obj.injEq, map_eq_map_iff] at h
        exact ⟨ns, rfl, h.imp fun m n => (hentry m n).mp⟩
    | _ => cases h
  · rintro ⟨ns, rfl, h⟩
    rw [redacted_obj, redacted_obj, map_eq_map_iff.mpr (h.imp fun m n => (hentry m n).mpr)]

theorem sameButContent_scalar_iff (harr : v.arr? = none) (hobj : v.obj? = none) :
    SameButContent v w ↔ w = v := by
  constructor
  · intro h
    cases h with
    | same => rfl
    | array _ => cases harr
    | object _ => cases hobj
  · rintro rfl
    exact .same _

theorem sameButContent_arr_iff :
    SameButContent (.arr vs) w ↔ ∃ ws, w = .arr ws ∧ List.Forall₂ SameButContent vs ws := by
  constructor
  · intro h
    cases h with
    | same => exact ⟨vs, rfl, List.forall₂_same.mpr fun v _ => .same v⟩
    | array h => exact ⟨_, rfl, h⟩
  · rintro ⟨ws, rfl, h⟩
    exact .array h

theorem sameButContent_obj_iff :
    SameButContent (.obj ms) w
      ↔ ∃ ns, w = .obj ns ∧ List.Forall₂ (EntryAlike fun _ => SameButContent)
          (keptBy isOpen ms) (keptBy isOpen ns) := by
  constructor
  · intro h
    cases h with
    | same => exact ⟨ms, rfl, List.forall₂_same.mpr fun m _ => ⟨rfl, .same m.2⟩⟩
    | object h => exact ⟨_, rfl, h.forall₂ isOpen_eq_false_iff⟩
  · rintro ⟨ns, rfl, h⟩
    exact .object (sameBut_of_forall₂ isOpen_eq_false_iff h)

end Inversion

/-- Redaction tells values apart exactly if they differ elsewhere than in their content. -/
theorem redacted_eq_iff (v w : Json) : redacted v = redacted w ↔ SameButContent v w := by
  -- Both sides open to a relation on the parts that are kept, and there the induction applies.
  induction v using Json.parts_induction generalizing w with
  | scalar v harr hobj =>
      rw [redacted_scalar_eq_iff harr hobj, sameButContent_scalar_iff harr hobj]
  | array vs ih =>
      rw [redacted_arr_eq_iff, sameButContent_arr_iff]
      exact exists_congr fun ws => and_congr_right fun _ => forall₂_congr_left ih
  | object ms ih =>
      rw [redacted_obj_eq_iff, sameButContent_obj_iff]
      refine exists_congr fun ns => and_congr_right fun _ => forall₂_congr_left fun m hm n => ?_
      exact and_congr_right fun _ => ih m (List.mem_of_mem_filter hm) n.2

/-- **NOTHING OF THE CONTENT IS LOGGED, AND ALL THE REST IS.**

Take any detail of an error, nested as it may be.  What is logged of it has no place behind a content
key, at any depth; it is the one value whose places are those of the detail outside of content, in
their order and with what stands there.  And two details are logged alike exactly if they differ in
their content only. -/
theorem content_redacted :
    (∀ v : Json, ∀ place ∈ (redacted v).outline, ¬ InContent place)
      ∧ (∀ v w : Json,
          w = redacted v ↔ w.outline = v.outline.filter fun place => ¬ InContent place)
      ∧ ∀ v w : Json, redacted v = redacted w ↔ SameButContent v w := by
  refine ⟨?_, ?_, redacted_eq_iff⟩
  · intro v place hplace
    rw [outline_redacted] at hplace
    exact of_decide_eq_true (List.mem_filter.mp hplace).2
  · intro v w
    rw [← Json.outline_injective.eq_iff, outline_redacted]
    exact Iff.rfl

example : redacted (.obj [("keep", .int 1), ("content", .str "secret"),
      ("nested", .arr [.arr [.obj [("blocks", .null), ("deep", .obj [("sections", .null)])]]])])
    = .obj [("keep", .int 1), ("nested", .arr [.arr [.obj [("deep", .obj [])]]])] := by
  decide

end Syllabus.Service
