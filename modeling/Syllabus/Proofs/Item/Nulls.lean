/-
  Syllabus.Proofs.Item.Nulls
  ──────────────────────────
  **WHAT IS NULL IS NOT THERE.**

  An item that has a `null` member is built as if it had not, and so is one
  that has a `null` further in: in a side, in an explanation or in a segment of
  its text.  Only the members of the item and of its sides are dropped before
  they are read, however.  In the other two a field that is firm refuses the
  `null`, and the item that it stands in is malformed for it:

      Holder              the objects of an item that are read as records
      Refuses             an item is malformed for a `null` in one of them
      buildItem_drop      an item without a `null` that it does not refuse
      DropsNull           one such `null` less, in any nested item
      nulls_left_out      any number of them makes no difference
-/
import Mathlib.Logic.Relation
import Syllabus.Proofs.Conversion.Nulls
import Syllabus.Proofs.Item.Surroundings

namespace Syllabus

/-! ## §1. The objects of an item. -/

/-- The objects of an item that are read as records, seen from the item. -/
inductive Holder where
  /-- The item itself. -/
  | item
  /-- The left side of a comparison. -/
  | left
  /-- The right side of a comparison. -/
  | right
  /-- An entry of the explanations of code. -/
  | explanation (i : Nat)
  /-- A styled segment of a text. -/
  | segment (i : Nat)
  deriving DecidableEq, Repr

namespace Holder

/-- The path from the item. -/
def path : Holder → Path
  | item => []
  | left => [.key "left"]
  | right => [.key "right"]
  | explanation i => [.key "explanations", .index i]
  | segment i => [.key "text", .index i]

/-- The fields that have no use for `null` where they are read, and what they want.  Nothing that is
`null` is read of an item and of its sides. -/
def firm : Holder → List (String × Wanted)
  | item => []
  | left => []
  | right => []
  | explanation _ => Explanation.firm
  | segment _ => Segment.firm

end Holder

/-- An item is malformed, and the report is about a `null` under a name in one of its objects. -/
def Refuses (a : Json) (holder : Holder) (name : String) : Prop :=
  ∃ tag : Tag, ∃ w ∈ wantedUnder name holder.firm,
    Item.ofJson a = .malformed tag.name
      (ConversionError.message ⟨.mismatch w "null", holder.path ++ [.key name]⟩)

/-- Only where a field is firm is a `null` refused. -/
theorem not_refuses {holder : Holder} {name : String} (h : wantedUnder name holder.firm = [])
    (a : Json) : ¬ Refuses a holder name := by
  rintro ⟨tag, w, hw, -⟩
  rw [h] at hw
  exact absurd hw List.not_mem_nil

/-! ## §2. Members that are read alike. -/

section Members

variable {ms : List (String × Json)} {name : String} {f : Json → Json} {v : Json}

theorem readableMembers_cons_null (key : String) (ms : List (String × Json)) :
    readableMembers ((key, .null) :: ms) = readableMembers ms := rfl

theorem readableMembers_cons (key : String) (hv : v ≠ .null) (ms : List (String × Json)) :
    readableMembers ((key, v) :: ms)
      = (key, sideMember key (textMember key v)) :: readableMembers ms := by
  have hkept : Json.withoutNulls ((key, v) :: ms) = (key, v) :: Json.withoutNulls ms :=
    List.filter_cons_of_pos (decide_eq_true hv)
  unfold readableMembers
  rw [hkept, List.map_cons]

/-- A member that is not `null` is read in its place. -/
theorem readableMembers_modifyMember (hlookup : Json.lookup name ms = some v) (hv : v ≠ .null)
    (hf : f v ≠ .null) :
    readableMembers (Json.modifyMember name f ms)
      = Json.modifyMember name (fun _ => sideMember name (textMember name (f v)))
          (readableMembers ms) := by
  induction ms with
  | nil => cases hlookup
  | cons m ms ih =>
      obtain ⟨key, w⟩ := m
      unfold Json.lookup at hlookup
      by_cases hkey : key = name
      · subst hkey
        rw [if_pos rfl] at hlookup
        cases hlookup
        rw [Json.modifyMember_cons_self, readableMembers_cons key hv, readableMembers_cons key hf,
          Json.modifyMember_cons_self]
      · rw [if_neg hkey] at hlookup
        rw [Json.modifyMember_cons_of_ne hkey]
        by_cases hw : w = .null
        · subst hw
          rw [readableMembers_cons_null, readableMembers_cons_null, ih hlookup]
        · rw [readableMembers_cons key hw, readableMembers_cons key hw, ih hlookup,
            Json.modifyMember_cons_of_ne hkey]

/-- Members without one that is `null`. -/
theorem withoutNulls_dropMember (hnodup : (ms.map Prod.fst).Nodup)
    (hnull : Json.lookup name ms = some .null) :
    Json.withoutNulls (dropMember name ms) = Json.withoutNulls ms := by
  induction ms with
  | nil => rfl
  | cons m ms ih =>
      obtain ⟨key, w⟩ := m
      rw [List.map_cons, List.nodup_cons] at hnodup
      unfold Json.lookup at hnull
      by_cases hkey : key = name
      · subst hkey
        rw [if_pos rfl] at hnull
        cases hnull
        rw [dropMember_cons_self, dropMember_of_not_mem hnodup.1]
        rfl
      · rw [if_neg hkey] at hnull
        rw [dropMember_cons_of_ne hkey]
        unfold Json.withoutNulls at ih ⊢
        rw [List.filter_cons, List.filter_cons, ih hnodup.2 hnull]

/-- The members under other names are the same, and this one is absent. -/
theorem lookup_dropMember (hnodup : (ms.map Prod.fst).Nodup)
    (hnull : Json.lookup name ms = some .null) (key : String) :
    Json.lookup key (dropMember name ms) = Json.lookup key ms
      ∨ Json.lookup key (dropMember name ms) = none ∧ Json.lookup key ms = some .null := by
  induction ms with
  | nil => exact .inl rfl
  | cons m ms ih =>
      obtain ⟨k, w⟩ := m
      rw [List.map_cons, List.nodup_cons] at hnodup
      unfold Json.lookup at hnull
      by_cases hk : k = name
      · subst hk
        rw [if_pos rfl] at hnull
        cases hnull
        rw [dropMember_cons_self, dropMember_of_not_mem hnodup.1, Json.lookup]
        by_cases hkey : k = key
        · rw [if_pos hkey]
          exact .inr ⟨Json.lookup_eq_none (hkey ▸ hnodup.1), rfl⟩
        · exact .inl (if_neg hkey).symm
      · rw [if_neg hk] at hnull
        rw [dropMember_cons_of_ne hk, Json.lookup, Json.lookup]
        by_cases hkey : k = key
        · rw [if_pos hkey, if_pos hkey]
          exact .inl rfl
        · rw [if_neg hkey, if_neg hkey]
          exact ih hnodup.2 hnull

/-- What takes an absent member for `null` sees no difference. -/
theorem observe_dropMember {β : Type} {g : Option Json → β} (hg : g none = g (some .null))
    (hnodup : (ms.map Prod.fst).Nodup) (hnull : Json.lookup name ms = some .null) (key : String) :
    g (Json.lookup key (dropMember name ms)) = g (Json.lookup key ms) := by
  rcases lookup_dropMember hnodup hnull key with hsame | ⟨hnone, hsome⟩
  · rw [hsame]
  · rw [hnone, hsome, hg]

/-- Only the members of a side that are not `null` are read. -/
theorem sideMember_congr {side : String} {ms' : List (String × Json)}
    (hside : sideNames.contains side = true)
    (h : Json.withoutNulls ms' = Json.withoutNulls ms) :
    sideMember side (.obj ms') = sideMember side (.obj ms) := by
  have hread : ∀ ms, sideMember side (.obj ms)
      = .obj ((Json.withoutNulls ms).map fun m => (m.1, textMember m.1 m.2)) :=
    fun ms => if_pos hside
  rw [hread, hread, h]

end Members

/-! ## §3. Content. -/

section Content

variable {σ : Type} {own : List (Field σ)} {name : String} {wanted : List Wanted} {q : Path}
  {ms : List (String × Json)} {f : Json → Json} {v : Json}

/-- Content of which one member is read differently. -/
theorem readContent_modifyMember (hcolor : name ≠ "color") (hlookup : Json.lookup name ms = some v)
    (h : ∀ r, SameUnless wanted q (putMember own name v r) (putMember own name (f v) r))
    (defaults : σ) (build : σ → Content) :
    SameUnless wanted q (readContent own defaults build ms)
      (readContent own defaults build (Json.modifyMember name f ms)) := by
  refine (readMembers_modifyMember hlookup (fun r => ?_) _).map _
  rw [putMember_colored own hcolor, putMember_colored own hcolor]
  exact (h r.2).map _

/-- A member that there is no field for. -/
theorem putMember_nowhere (h : ∀ field ∈ own, field.name ≠ name) (v v' : Json) (r : σ) :
    SameUnless wanted q (putMember own name v r) (putMember own name v' r) := by
  have hnone : own.find? (·.name = name) = none :=
    List.find?_eq_none.mpr fun field hfield hname => h field hfield (of_decide_eq_true hname)
  unfold putMember
  rw [hnone]
  exact .same _

/-- Under every tag a member with the text of an item is read as wording or as a plain text, or it
is passed over. -/
theorem Content.ofMembers_text (hlookup : Json.lookup "text" ms = some v)
    (hwording : SameUnless wanted q (Converter.wording v) (Converter.wording (f v)))
    (htext : SameUnless wanted q (Converter.text v) (Converter.text (f v))) (tag : Tag) :
    SameUnless wanted (.key "text" :: q) (Content.ofMembers ms tag)
      (Content.ofMembers (Json.modifyMember "text" f ms) tag) := by
  cases tag with
  | text kind => exact readContent_modifyMember (by decide) hlookup (putMember_at rfl hwording) _ _
  | entry kind => exact readContent_modifyMember (by decide) hlookup (putMember_at rfl hwording) _ _
  | toggle => exact readContent_modifyMember (by decide) hlookup (putMember_at rfl hwording) _ _
  | note kind => exact readContent_modifyMember (by decide) hlookup (putMember_at rfl htext) _ _
  | code => exact readContent_modifyMember (by decide) hlookup (putMember_at rfl htext) _ _
  | equation => exact readContent_modifyMember (by decide) hlookup (putMember_at rfl htext) _ _
  | codeWithExplanation =>
      exact readContent_modifyMember (by decide) hlookup (putMember_at rfl htext) _ _
  | definition => exact readContent_modifyMember (by decide) hlookup (putMember_at rfl htext) _ _
  | step => exact readContent_modifyMember (by decide) hlookup (putMember_at rfl htext) _ _
  | exercise => exact readContent_modifyMember (by decide) hlookup (putMember_at rfl htext) _ _
  | quiz => exact readContent_modifyMember (by decide) hlookup (putMember_at rfl htext) _ _
  | layout kind =>
      exact readContent_modifyMember (by decide) hlookup
        (putMember_nowhere (fun _ hfield => absurd hfield List.not_mem_nil) _ _) ()
        fun _ => .layout kind
  | _ =>
      exact readContent_modifyMember (by decide) hlookup (putMember_nowhere (by decide) _ _) _ _

/-- Only explained code has explanations. -/
theorem Content.ofMembers_explanations (hlookup : Json.lookup "explanations" ms = some v)
    (h : SameUnless wanted q (Converter.list (Converter.record Explanation.fields {}) v)
      (Converter.list (Converter.record Explanation.fields {}) (f v))) (tag : Tag) :
    SameUnless wanted (.key "explanations" :: q) (Content.ofMembers ms tag)
      (Content.ofMembers (Json.modifyMember "explanations" f ms) tag) := by
  cases tag with
  | codeWithExplanation =>
      exact readContent_modifyMember (by decide) hlookup (putMember_at rfl h) _ _
  | layout kind =>
      exact readContent_modifyMember (by decide) hlookup
        (putMember_nowhere (fun _ hfield => absurd hfield List.not_mem_nil) _ _) ()
        fun _ => .layout kind
  | _ =>
      exact readContent_modifyMember (by decide) hlookup (putMember_nowhere (by decide) _ _) _ _

end Content

/-! ## §4. Items. -/

/-- Members that make the same item, unless the first ones were refused for a `null` at a path: all
that reading and building look at is the same, and content is read in the same way. -/
structure ReadAlike (wanted : List Wanted) (q : Path) (ms ms' : List (String × Json)) : Prop where
  /-- The type is the same. -/
  type : (Json.lookup "type" ms').getD .null = (Json.lookup "type" ms).getD .null
  /-- So is the text, if it is one. -/
  text : (Json.lookup "text" ms').bind Json.str? = (Json.lookup "text" ms).bind Json.str?
  /-- Content is read in the same way. -/
  content : ∀ tag, SameUnless wanted q (Content.ofMembers (readableMembers ms) tag)
    (Content.ofMembers (readableMembers ms') tag)
  /-- The same items are nested. -/
  nested : nestedItems ms' = nestedItems ms
  /-- And also in the sides. -/
  sides : ∀ side ∈ ["left", "right"], sideItems side ms' = sideItems side ms

theorem ReadAlike.build {wanted : List Wanted} {q : Path} {ms ms' : List (String × Json)}
    (h : ReadAlike wanted q ms ms') (options : BuildOptions) :
    buildItem options (.obj ms') = buildItem options (.obj ms)
      ∨ ∃ tag : Tag, ∃ w ∈ wanted, Item.ofMembers ms
          = .malformed tag.name (ConversionError.message ⟨.mismatch w "null", q⟩) := by
  -- Building gets the item that is read and what is nested in it, and nothing else.
  have hnested : Nested.of options ms' = Nested.of options ms := by
    unfold Nested.of
    rw [h.nested, h.sides "left" (by decide), h.sides "right" (by decide)]
  rw [buildItem_obj, buildItem_obj, hnested]
  unfold Item.ofMembers
  rw [h.type, h.text]
  dsimp only
  cases Tag.ofJson? ((Json.lookup "type" ms).getD .null) with
  | none => exact .inl rfl
  | some tag =>
      dsimp only
      rcases h.content tag with hsame | ⟨w, hw, hrefused⟩
      · rw [hsame]
        exact .inl rfl
      · rw [hrefused]
        exact .inr ⟨tag, w, hw, rfl⟩

section Drop

variable {ms inner : List (String × Json)} {name : String} {wanted : List Wanted} {q : Path}

theorem nestedItems_dropMember (hnodup : (ms.map Prod.fst).Nodup)
    (hnull : Json.lookup name ms = some .null) : nestedItems (dropMember name ms) = nestedItems ms :=
  observe_dropMember (g := fun v => (v.getD .null).items) rfl hnodup hnull "children"

/-- A `null` member of the item. -/
theorem readAlike_item (hnodup : (ms.map Prod.fst).Nodup)
    (hnull : Json.lookup name ms = some .null) : ReadAlike wanted q ms (dropMember name ms) where
  type := observe_dropMember (g := fun v => v.getD .null) rfl hnodup hnull "type"
  text := observe_dropMember (g := fun v => v.bind Json.str?) rfl hnodup hnull "text"
  content tag := by
    unfold readableMembers
    rw [withoutNulls_dropMember hnodup hnull]
    exact .same _
  nested := nestedItems_dropMember hnodup hnull
  sides side _ := by
    unfold sideItems
    rcases lookup_dropMember hnodup hnull side with hsame | ⟨hnone, hsome⟩
    · rw [hsame]
    · rw [hnone, hsome]

/-- A `null` member of a side, which is dropped when the side is made readable. -/
theorem readAlike_side {side : String} (hside : side ∈ ["left", "right"])
    (hnodup : (ms.map Prod.fst).Nodup) (hlookup : Json.lookup side ms = some (.obj inner))
    (hinner : (inner.map Prod.fst).Nodup) (hnull : Json.lookup name inner = some .null) :
    ReadAlike wanted q ms (Json.modifyMember side (fun _ => .obj (dropMember name inner)) ms) where
  type := by
    rw [Json.lookup_modifyMember_of_ne]
    rintro rfl
    exact absurd hside (by decide)
  text := by
    rw [Json.lookup_modifyMember_of_ne]
    rintro rfl
    exact absurd hside (by decide)
  content tag := by
    -- What is put in place of the side, once it is readable, is what stands there.
    have htext := textMember_of_nesting (List.mem_cons_of_mem "children" hside)
    have hread : Json.lookup side (readableMembers ms) = some (sideMember side (.obj inner)) := by
      rw [lookup_readableMembers hnodup, hlookup]
      exact congrArg (fun v => some (sideMember side v)) (htext (.obj inner))
    rw [readableMembers_modifyMember hlookup Json.noConfusion Json.noConfusion, htext,
      sideMember_congr (List.contains_iff_mem.mpr hside) (withoutNulls_dropMember hinner hnull),
      Json.modifyMember_congr (g := id), Json.modifyMember_id]
    · exact .same _
    · intro v hv
      exact Option.some.inj (hread.symm.trans hv)
  nested := nestedItems_modifyMember (ne_of_mem_sides hside).2
  sides other _ := by
    by_cases h : other = side
    · subst h
      unfold sideItems
      rw [Json.lookup_modifyMember, hlookup]
      exact nestedItems_dropMember hinner hnull
    · exact sideItems_modifyMember h

/-- A list under a name that is read into records; no text is in it, and no item is nested in it. -/
theorem readAlike_list {vs vs' : List Json} (hname : name ∈ ["text", "explanations"])
    (hlookup : Json.lookup name ms = some (.arr vs)) (hnodup : (ms.map Prod.fst).Nodup)
    (hcontent : ∀ ms, Json.lookup name ms = some (.arr vs) → ∀ tag,
      SameUnless wanted q (Content.ofMembers ms tag)
        (Content.ofMembers (Json.modifyMember name (fun _ => .arr vs') ms) tag)) :
    ReadAlike wanted q ms (Json.modifyMember name (fun _ => .arr vs') ms) where
  type := by
    rw [Json.lookup_modifyMember_of_ne]
    rintro rfl
    exact absurd hname (by decide)
  text := by
    by_cases h : "text" = name
    · subst h
      rw [Json.lookup_modifyMember, hlookup]
      rfl
    · rw [Json.lookup_modifyMember_of_ne h]
  content tag := by
    have hplain : ∀ us, sideMember name (textMember name (.arr us)) = .arr us := by
      intro us
      simp only [List.mem_cons, List.not_mem_nil, or_false] at hname
      rcases hname with rfl | rfl <;> rfl
    have hread : Json.lookup name (readableMembers ms) = some (.arr vs) := by
      rw [lookup_readableMembers hnodup, hlookup]
      exact congrArg some (hplain vs)
    rw [readableMembers_modifyMember hlookup Json.noConfusion Json.noConfusion, hplain]
    exact hcontent _ hread tag
  nested := by
    refine nestedItems_modifyMember ?_
    rintro rfl
    exact absurd hname (by decide)
  sides side hside := by
    refine sideItems_modifyMember ?_
    rintro rfl
    simp only [List.mem_cons, List.not_mem_nil, or_false] at hname hside
    rcases hname with rfl | rfl <;> exact absurd hside (by decide)

end Drop

/-! ## §5. One `null`. -/

section Put

variable {ms inner : List (String × Json)} {vs : List Json} {name : String} {i : Nat}

theorem put_entry (hlookup : Json.lookup name ms = some (.arr vs)) (new : Json) :
    (Json.obj ms).put [.key name, .index i] new
      = .obj (Json.modifyMember name (fun _ => .arr (vs.modify i fun _ => new)) ms) := by
  refine congrArg Json.obj (Json.modifyMember_congr fun v hv => ?_)
  cases hlookup.symm.trans hv
  show Json.arr (vs.modify i fun w => w.put [] new) = _
  simp only [Json.put_nil]

/-- A `null` in a segment of the text of an item. -/
theorem readAlike_segment (hnodup : (ms.map Prod.fst).Nodup)
    (hlookup : Json.lookup "text" ms = some (.arr vs)) (hi : vs[i]? = some (.obj inner))
    (hinner : (inner.map Prod.fst).Nodup) (hnull : Json.lookup name inner = some .null) :
    ReadAlike (wantedUnder name Segment.firm) [.key "text", .index i, .key name] ms
      (Json.modifyMember "text" (fun _ => .arr (vs.modify i fun _ => .obj (dropMember name inner)))
        ms) := by
  refine readAlike_list (by decide) hlookup hnodup fun ms hlookup tag => ?_
  refine Content.ofMembers_text hlookup ?_ (.same _) tag
  have hitems := Converter.itemsFrom_modify (f := fun _ => .obj (dropMember name inner)) hi
    (Converter.segment_drop hinner hnull) 0
  rw [Nat.zero_add] at hitems
  exact hitems.map _

/-- A `null` in one of its explanations. -/
theorem readAlike_explanation (hnodup : (ms.map Prod.fst).Nodup)
    (hlookup : Json.lookup "explanations" ms = some (.arr vs)) (hi : vs[i]? = some (.obj inner))
    (hinner : (inner.map Prod.fst).Nodup) (hnull : Json.lookup name inner = some .null) :
    ReadAlike (wantedUnder name Explanation.firm) [.key "explanations", .index i, .key name] ms
      (Json.modifyMember "explanations"
        (fun _ => .arr (vs.modify i fun _ => .obj (dropMember name inner))) ms) := by
  refine readAlike_list (by decide) hlookup hnodup fun ms hlookup tag => ?_
  refine Content.ofMembers_explanations hlookup ?_ tag
  have hitems := Converter.itemsFrom_modify (f := fun _ => .obj (dropMember name inner)) hi
    (Converter.explanation_drop hinner hnull) 0
  rw [Nat.zero_add] at hitems
  exact hitems

end Put

theorem nodup_of_namesOnce {ms : List (String × Json)} (h : (Json.obj ms).namesOnce = true) :
    (ms.map Prod.fst).Nodup := ((Json.namesOnce_obj ms).mp h).1

/-- An item is built as before without a `null` in one of its objects, unless it refuses that. -/
theorem buildItem_drop (options : BuildOptions) {a : Json} {holder : Holder}
    {inner : List (String × Json)} {name : String} (ha : a.namesOnce = true)
    (hinner : a.at? holder.path = some (.obj inner)) (hnull : Json.lookup name inner = some .null) :
    buildItem options (a.put holder.path (.obj (dropMember name inner))) = buildItem options a
      ∨ Refuses a holder name := by
  have hnodup := nodup_of_namesOnce (Json.namesOnce_at? ha hinner)
  cases holder with
  | item =>
      cases hinner
      rw [show Holder.item.path = [] from rfl, Json.put_nil]
      exact (readAlike_item hnodup hnull).build options
  | left =>
      obtain ⟨ms, u, rfl, hu, hrest⟩ := Json.at?_key hinner
      cases hrest
      exact (readAlike_side (by decide) (nodup_of_namesOnce ha) hu hnodup hnull).build options
  | right =>
      obtain ⟨ms, u, rfl, hu, hrest⟩ := Json.at?_key hinner
      cases hrest
      exact (readAlike_side (by decide) (nodup_of_namesOnce ha) hu hnodup hnull).build options
  | explanation i =>
      obtain ⟨ms, u, rfl, hu, hrest⟩ := Json.at?_key hinner
      obtain ⟨vs, w, rfl, hi, hlast⟩ := Json.at?_index hrest
      cases hlast
      rw [show (Holder.explanation i).path = [.key "explanations", .index i] from rfl, put_entry hu]
      exact (readAlike_explanation (nodup_of_namesOnce ha) hu hi hnodup hnull).build options
  | segment i =>
      obtain ⟨ms, u, rfl, hu, hrest⟩ := Json.at?_key hinner
      obtain ⟨vs, w, rfl, hi, hlast⟩ := Json.at?_index hrest
      cases hlast
      rw [show (Holder.segment i).path = [.key "text", .index i] from rfl, put_entry hu]
      exact (readAlike_segment (nodup_of_namesOnce ha) hu hi hnodup hnull).build options

/-! ## §6. Any number of them. -/

/-- A value with one `null` less: in an object of an item that does not refuse it, the item being the
value or nested in it. -/
inductive DropsNull : Json → Json → Prop
  /-- The item stands at a path, and the `null` under a name in one of its objects. -/
  | drop {v a : Json} {p : Path} (holder : Holder) (inner : List (String × Json)) (name : String)
      (hp : p.Nesting) (ha : v.at? p = some a) (hinner : a.at? holder.path = some (.obj inner))
      (hnull : Json.lookup name inner = some .null) (hread : ¬ Refuses a holder name) :
      DropsNull v (v.put (p ++ holder.path) (.obj (dropMember name inner)))

theorem DropsNull.namesOnce {v w : Json} (h : DropsNull v w) (hv : v.namesOnce = true) :
    w.namesOnce = true := by
  cases h with
  | drop holder inner name hp ha hinner hnull hread =>
      refine Json.namesOnce_put ?_ _ hv
      have hobj := (Json.namesOnce_obj _).mp
        (Json.namesOnce_at? (Json.namesOnce_at? hv ha) hinner)
      refine (Json.namesOnce_obj _).mpr ⟨hobj.1.sublist (List.filter_sublist.map _), ?_⟩
      exact fun m hm => hobj.2 m (List.mem_of_mem_filter hm)

theorem DropsNull.build {v w : Json} (h : DropsNull v w) (options : BuildOptions)
    (hv : v.namesOnce = true) : buildItem options w = buildItem options v := by
  cases h with
  | drop holder inner name hp ha hinner hnull hread =>
      have hitem := (buildItem_drop options (Json.namesOnce_at? hv ha) hinner hnull).resolve_right hread
      rw [Json.put_append ha, buildItem_put hp hitem, Json.put_self ha]

/-- **WHAT IS NULL IS NOT THERE.**

Take a value that repeats no name in an object, and leave out any number of members that are `null`, one
after the other, of an item, of the sides of a comparison, of explanations and of segments of a text, in
the item and in whatever is nested in it.  It is built as before: into the same blocks, with the same
diagnostics and log.  The one condition is that no item is malformed for the very `null` that is left
out, and that can only be in an explanation or a segment, under the name of a field that is firm. -/
theorem nulls_left_out (options : BuildOptions) {v w : Json} (hv : v.namesOnce = true)
    (h : Relation.ReflTransGen DropsNull v w) : buildItem options w = buildItem options v := by
  -- Each step needs that no name is repeated, so this is carried along.
  have hboth : w.namesOnce = true ∧ buildItem options w = buildItem options v := by
    induction h with
    | refl => exact ⟨hv, rfl⟩
    | tail _ hstep ih =>
        exact ⟨hstep.namesOnce ih.1, (hstep.build options ih.1).trans ih.2⟩
  exact hboth.2

/-- The title of a side and a link in an item that is nested in it, both `null`, are left out. -/
theorem nulls_left_out_side :
    let paragraph (segment : List (String × Json)) : Json :=
      .obj [("type", .str "paragraph"), ("text", .arr [.obj segment])]
    let columns (left : List (String × Json)) : Json :=
      .obj [("type", .str "columns"), ("right", .obj []), ("left", .obj left)]
    let before := columns [("title", .null),
      ("children", .arr [paragraph [("text", .str "a"), ("link", .null)]])]
    let after := columns [("children", .arr [paragraph [("text", .str "a")]])]
    before.namesOnce = true ∧ Relation.ReflTransGen DropsNull before after
      ∧ buildItem {} after = buildItem {} before := by
  intro paragraph columns before after
  have honce : before.namesOnce = true := by decide
  have htitle : DropsNull before
      (columns [("children", .arr [paragraph [("text", .str "a"), ("link", .null)]])]) :=
    .drop .left [("title", .null), ("children",
      .arr [paragraph [("text", .str "a"), ("link", .null)]])] "title" .here rfl rfl rfl
      (not_refuses rfl _)
  have hlink : DropsNull
      (columns [("children", .arr [paragraph [("text", .str "a"), ("link", .null)]])]) after :=
    .drop (.segment 0) [("text", .str "a"), ("link", .null)] "link"
      (.sideChild (List.mem_cons_self : "left" ∈ _) 0 .here) rfl rfl rfl (not_refuses rfl _)
  have hdropped := (Relation.ReflTransGen.single htitle).tail hlink
  exact ⟨honce, hdropped, nulls_left_out {} honce hdropped⟩

/-- A `null` for whether a segment is bold makes its item malformed, and without it the item is fine. -/
theorem bold_null_refused :
    let segment : List (String × Json) := [("text", .str "a"), ("bold", .null)]
    let paragraph : Json := .obj [("type", .str "paragraph"), ("text", .arr [.obj segment])]
    let bare := paragraph.put [.key "text", .index 0] (.obj (dropMember "bold" segment))
    Refuses paragraph (.segment 0) "bold"
      ∧ ((buildItem {} paragraph).run.run {}).2.collector.entries.map (·.code) = ["malformed_item"]
      ∧ ((buildItem {} bare).run.run {}).2.collector.entries = [] := by
  refine ⟨⟨.text .paragraph, .truth, by decide, by decide +kernel⟩, by decide +kernel,
    by decide +kernel⟩

end Syllabus
