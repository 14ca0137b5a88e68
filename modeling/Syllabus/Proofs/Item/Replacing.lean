/-
  Syllabus.Proofs.Item.Replacing
  ──────────────────────────────
  **AN ITEM IS READ WITHOUT ITS NESTED ITEMS.**

  Put other items in place of those that are nested in an item, and the item
  is read as before: with the same fields, or with the same report if they do
  not fit.  Only what is nested in it is different.

      withItems             members with other nested items
      nestedItems_withItems what is nested then
      ofMembers_withItems   the item is the same, up to the lists that it keeps
      build_bare            which no builder looks at

  Reading goes member by member and field by field, so it is enough to see
  that each field of each record is blind for nested items.
-/
import Syllabus.Proofs.Conversion.Members
import Syllabus.Proofs.Item.Nesting

namespace Syllabus

/-! ## §1. Other nested items. -/

section Items

variable (f : Json → Json)

/-- A list with other items in it. -/
def replaceItems : Json → Json
  | .arr vs => .arr (vs.map f)
  | v => v

/-- A member of a side with other items nested in it. -/
def replaceChildren (key : String) (v : Json) : Json :=
  if key = "children" then replaceItems f v else v

/-- A side with other items nested in it. -/
def replaceInSide : Json → Json
  | .obj ms => .obj (ms.map fun (k, v) => (k, replaceChildren f k v))
  | v => v

/-- A member of an item with other items nested in it. -/
def replaceNested (key : String) (v : Json) : Json :=
  if sideNames.contains key then replaceInSide f v else replaceChildren f key v

/-- The members of an item with other items nested in it. -/
def withItems (ms : List (String × Json)) : List (String × Json) :=
  ms.map fun (k, v) => (k, replaceNested f k v)

end Items

/-- The names of members that items are nested in. -/
def nestingNames : List String := ["children", "left", "right"]

variable {f : Json → Json} {key : String} {ms : List (String × Json)}

theorem replaceNested_children (v : Json) : replaceNested f "children" v = replaceItems f v := rfl

theorem replaceNested_side (h : sideNames.contains key = true) (v : Json) :
    replaceNested f key v = replaceInSide f v := if_pos h

theorem replaceNested_of_not (h : key ∉ nestingNames) (v : Json) : replaceNested f key v = v := by
  rw [nestingNames, List.mem_cons, not_or] at h
  unfold replaceNested replaceChildren
  rw [if_neg (by rw [List.contains_iff_mem]; exact h.2), if_neg h.1]

theorem lookup_withItems (f : Json → Json) (key : String) (ms : List (String × Json)) :
    Json.lookup key (withItems f ms) = (Json.lookup key ms).map (replaceNested f key) :=
  lookup_map ms key

theorem lookup_withItems_of_not (h : key ∉ nestingNames) :
    Json.lookup key (withItems f ms) = Json.lookup key ms := by
  rw [lookup_withItems, funext (replaceNested_of_not (f := f) h)]
  exact Option.map_id'

theorem items_replaceItems (f : Json → Json) (v : Json) :
    (replaceItems f v).items = v.items.map f := by
  cases v <;> rfl

theorem nestedItems_map (f : Json → Json) {g : String → Json → Json}
    (hg : ∀ v, g "children" v = replaceItems f v) (ms : List (String × Json)) :
    nestedItems (ms.map fun (k, v) => (k, g k v)) = (nestedItems ms).map f := by
  unfold nestedItems
  rw [lookup_map]
  cases Json.lookup "children" ms with
  | none => rfl
  | some v =>
      show (g "children" v).items = v.items.map f
      rw [hg, items_replaceItems]

/-- What is nested in the new members is what was asked for. -/
theorem nestedItems_withItems (f : Json → Json) (ms : List (String × Json)) :
    nestedItems (withItems f ms) = (nestedItems ms).map f :=
  nestedItems_map f replaceNested_children ms

/-- So is what is nested in the sides. -/
theorem sideItems_withItems (f : Json → Json) {side : String} (h : sideNames.contains side = true)
    (ms : List (String × Json)) : sideItems side (withItems f ms) = (sideItems side ms).map f := by
  unfold sideItems
  rw [lookup_withItems]
  cases Json.lookup side ms with
  | none => rfl
  | some v =>
      rw [Option.map_some, replaceNested_side h]
      cases v with
      | obj inner => exact nestedItems_map f (fun v => if_pos rfl) inner
      | _ => rfl

/-! ## §2. Readable members. -/

theorem replaceItems_ne_null (v : Json) : replaceItems f v ≠ .null ↔ v ≠ .null := by
  cases v <;> simp [replaceItems]

theorem replaceChildren_ne_null (key : String) (v : Json) :
    replaceChildren f key v ≠ .null ↔ v ≠ .null := by
  unfold replaceChildren
  split
  · exact replaceItems_ne_null v
  · rfl

theorem replaceNested_ne_null (key : String) (v : Json) :
    replaceNested f key v ≠ .null ↔ v ≠ .null := by
  unfold replaceNested
  split
  · cases v <;> simp [replaceInSide]
  · exact replaceChildren_ne_null key v

theorem withoutNulls_map {g : String → Json → Json} (hg : ∀ k v, g k v ≠ .null ↔ v ≠ .null)
    (ms : List (String × Json)) :
    Json.withoutNulls (ms.map fun (k, v) => (k, g k v))
      = (Json.withoutNulls ms).map fun (k, v) => (k, g k v) := by
  unfold Json.withoutNulls
  rw [List.filter_map]
  refine congrArg _ (List.filter_congr fun m _ => ?_)
  exact decide_eq_decide.mpr (hg m.1 m.2)

/-- Nested items are no texts in lists. -/
theorem textMember_replaceChildren (key : String) (v : Json) :
    textMember key (replaceChildren f key v) = replaceChildren f key (textMember key v) := by
  unfold replaceChildren
  split
  · rename_i hkey
    rw [hkey]
    rfl
  · rfl

theorem textMember_of_nesting (h : key ∈ nestingNames) (v : Json) : textMember key v = v := by
  simp only [nestingNames, List.mem_cons, List.not_mem_nil, or_false] at h
  rcases h with rfl | rfl | rfl <;> rfl

theorem mem_nestingNames_of_side (h : sideNames.contains key = true) : key ∈ nestingNames :=
  List.mem_cons_of_mem _ (List.contains_iff_mem.mp h)

theorem map_textMember_replaceChildren (ms : List (String × Json)) :
    (ms.map fun (k, v) => (k, replaceChildren f k v)).map (fun (k, v) => (k, textMember k v))
      = (ms.map fun (k, v) => (k, textMember k v)).map fun (k, v) => (k, replaceChildren f k v) := by
  rw [List.map_map, List.map_map]
  exact List.map_congr_left fun m _ => congrArg (Prod.mk m.1) (textMember_replaceChildren m.1 m.2)

/-- A member is made readable in the same way with other items nested in it. -/
theorem sideMember_replaceNested (key : String) (v : Json) :
    sideMember key (textMember key (replaceNested f key v))
      = replaceNested f key (sideMember key (textMember key v)) := by
  cases hside : sideNames.contains key with
  | true =>
      have hnesting := mem_nestingNames_of_side hside
      rw [textMember_of_nesting hnesting, textMember_of_nesting hnesting, replaceNested_side hside,
        replaceNested_side hside]
      cases v with
      | obj ms =>
          -- Replacing commutes with dropping `null` and with reading texts, member by member.
          have hread : ∀ inner, sideMember key (.obj inner)
              = .obj ((Json.withoutNulls inner).map fun (k, v) => (k, textMember k v)) :=
            fun inner => if_pos hside
          show sideMember key (.obj (ms.map fun (k, v) => (k, replaceChildren f k v))) = _
          rw [hread, hread, withoutNulls_map replaceChildren_ne_null, map_textMember_replaceChildren]
          rfl
      | _ => rfl
  | false =>
      rw [sideMember_of_not hside, sideMember_of_not hside]
      unfold replaceNested
      rw [if_neg (by rw [hside]; decide), if_neg (by rw [hside]; decide)]
      exact textMember_replaceChildren key v

theorem readableMembers_withItems (f : Json → Json) (ms : List (String × Json)) :
    readableMembers (withItems f ms) = withItems f (readableMembers ms) := by
  unfold readableMembers withItems
  rw [withoutNulls_map replaceNested_ne_null, List.map_map, List.map_map]
  exact List.map_congr_left fun m _ => congrArg (Prod.mk m.1) (sideMember_replaceNested m.1 m.2)

/-! ## §3. Records. -/

section Records

variable {σ : Type} {g : String → Json → Json} {bare : σ → σ}

/-- Two results that look the same. -/
theorem alike_of_map {e e' : Except ConversionError σ} (h : e.map bare = e'.map bare) :
    (∃ x, e = .error x ∧ e' = .error x) ∨ ∃ r r', e = .ok r ∧ e' = .ok r' ∧ bare r = bare r' := by
  cases e with
  | error x =>
      cases e' with
      | error x' => exact .inl ⟨x, rfl, congrArg Except.error (Except.error.inj h).symm⟩
      | ok r' => exact absurd h (by simp [Except.map])
  | ok r =>
      cases e' with
      | error x' => exact absurd h (by simp [Except.map])
      | ok r' => exact .inr ⟨r, r', rfl, rfl, Except.ok.inj h⟩

/-- The field is set in the same way whatever `g` does to its member, as far as `bare` lets it be
seen. -/
def Field.Blind (g : String → Json → Json) (bare : σ → σ) (field : Field σ) : Prop :=
  ∀ v r r', bare r = bare r' →
    (field.put (g field.name v) r).map bare = (field.put v r').map bare

/-- A field is blind if the converter is, as far as `seen` lets it be seen in the record. -/
theorem Field.blind_of {α : Type} {name : String} {read : Converter α} {set : α → σ → σ}
    (seen : α → α) (hread : ∀ v, (read (g name v)).map seen = (read v).map seen)
    (hset : ∀ a r, bare (set a r) = set (seen a) (bare r)) :
    Field.Blind g bare (Field.of name read set) := by
  intro v r r' hr
  show ((read (g name v)).map fun a => set a r).map bare = ((read v).map fun a => set a r').map bare
  rcases alike_of_map (hread v) with ⟨x, hnew, hold⟩ | ⟨a, a', hnew, hold, ha⟩
  · rw [hnew, hold]
    rfl
  · rw [hnew, hold]
    show Except.ok (bare (set a r)) = Except.ok (bare (set a' r'))
    rw [hset, hset, ha, hr]

/-- So is one whose member is left alone. -/
theorem Field.blind_of_fixed {α : Type} {name : String} {read : Converter α} {set : α → σ → σ}
    (hg : ∀ v, g name v = v) (hset : ∀ a r, bare (set a r) = set a (bare r)) :
    Field.Blind g bare (Field.of name read set) :=
  Field.blind_of id (fun v => by rw [hg]) hset

theorem putMember_blind {fields : List (Field σ)} (h : ∀ field ∈ fields, field.Blind g bare)
    (key : String) (v : Json) {r r' : σ} (hr : bare r = bare r') :
    (putMember fields key (g key v) r).map bare = (putMember fields key v r').map bare := by
  unfold putMember
  cases hfind : fields.find? (·.name = key) with
  | none => exact congrArg Except.ok hr
  | some field =>
      have hname : field.name = key := by simpa using List.find?_some hfind
      have hput := h field (List.mem_of_find?_eq_some hfind) v r r' hr
      have hunder : ∀ e : Except ConversionError σ,
          (Converter.under (.key key) e).map bare = Converter.under (.key key) (e.map bare) := by
        intro e
        cases e <;> rfl
      rw [hname] at hput
      dsimp only
      rw [hunder, hunder, hput]

/-- A record of blind fields is read in the same way, with the same report if it does not fit. -/
theorem readMembers_blind {fields : List (Field σ)} (h : ∀ field ∈ fields, field.Blind g bare)
    (ms : List (String × Json)) : ∀ {r r' : σ}, bare r = bare r' →
      (readMembers fields (ms.map fun (k, v) => (k, g k v)) r).map bare
        = (readMembers fields ms r').map bare := by
  induction ms with
  | nil => intro r r' hr; exact congrArg Except.ok hr
  | cons m ms ih =>
      intro r r' hr
      obtain ⟨key, v⟩ := m
      show (putMember fields key (g key v) r >>= readMembers fields _).map bare
        = (putMember fields key v r' >>= readMembers fields ms).map bare
      rcases alike_of_map (putMember_blind h key v hr) with ⟨x, hnew, hold⟩ | ⟨s, s', hnew, hold, hs⟩
      · rw [hnew, hold]
        rfl
      · rw [hnew, hold]
        exact ih hs

/-- A color is no nested item. -/
theorem Colored.blind {own : List (Field σ)} (hg : ∀ v, g "color" v = v)
    (h : ∀ field ∈ own, field.Blind g bare) :
    ∀ field ∈ Colored.fields own, field.Blind g fun r : Colored σ => (r.1, bare r.2) := by
  intro field hfield
  rcases List.mem_cons.mp hfield with hcolor | hown
  · rw [hcolor]
    exact Field.blind_of_fixed hg fun _ _ => rfl
  · obtain ⟨inner, hinner, rfl⟩ := List.mem_map.mp hown
    intro v r r' hr
    rw [Prod.mk.injEq] at hr
    show ((inner.put (g inner.name v) r.2).map fun s => (r.1, s)).map _
      = ((inner.put v r'.2).map fun s => (r'.1, s)).map _
    rcases alike_of_map (h inner hinner v r.2 r'.2 hr.2) with
      ⟨x, hnew, hold⟩ | ⟨s, s', hnew, hold, hs⟩
    · rw [hnew, hold]
      rfl
    · rw [hnew, hold]
      show Except.ok (r.1, bare s) = Except.ok (r'.1, bare s')
      rw [hr.1, hs]

end Records

/-! ## §4. Contents. -/

/-- A text without its list of children. -/
def TextFields.bare (r : TextFields) : TextFields := { r with children := [] }

/-- An entry without its list of children. -/
def EntryFields.bare (r : EntryFields) : EntryFields := { r with children := [] }

/-- A toggle without its list of children. -/
def ToggleFields.bare (r : ToggleFields) : ToggleFields := { r with children := [] }

/-- A side without its list of children. -/
def SideFields.bare (r : SideFields) : SideFields := { r with children := [] }

/-- A comparison whose sides are without their lists of children. -/
def ComparisonFields.bare (r : ComparisonFields) : ComparisonFields :=
  ⟨r.left.map SideFields.bare, r.right.map SideFields.bare⟩

/-- A step without its list of children. -/
def StepFields.bare (r : StepFields) : StepFields := { r with children := [] }

/-- Content without the nested items that it keeps. -/
def Content.bare : Content → Content
  | .text kind r => .text kind r.bare
  | .entry kind r => .entry kind r.bare
  | .toggle r => .toggle r.bare
  | .comparison r => .comparison r.bare
  | .step r => .step r.bare
  | .syncedBlock _ => .syncedBlock []
  | c => c

theorem itemsFrom_anything (vs : List Json) : ∀ i, Converter.itemsFrom Converter.anything i vs = .ok vs := by
  induction vs with
  | nil => intro i; rfl
  | cons v vs ih =>
      intro i
      rw [Converter.itemsFrom, ih]
      rfl

/-- Whatever is in a list of children, it is one. -/
theorem nested_replaceItems (v : Json) :
    (Converter.nested (replaceItems f v)).map (fun _ => ([] : List Json))
      = (Converter.nested v).map fun _ => [] := by
  cases v with
  | arr vs =>
      show (Converter.itemsFrom Converter.anything 0 (vs.map f)).map _
        = (Converter.itemsFrom Converter.anything 0 vs).map _
      rw [itemsFrom_anything, itemsFrom_anything]
      rfl
  | _ => rfl

/-- A field for the children of an item. -/
theorem Field.blind_children {σ : Type} {g : String → Json → Json} {bare : σ → σ}
    (hg : ∀ v, g "children" v = replaceItems f v) {set : List Json → σ → σ}
    (hset : ∀ vs r, bare (set vs r) = set [] (bare r)) :
    Field.Blind g bare (Field.of "children" Converter.nested set) :=
  Field.blind_of (fun _ => []) (fun v => by rw [hg, nested_replaceItems]) hset

theorem SideFields.blind : ∀ field ∈ SideFields.fields,
    field.Blind (replaceChildren f) SideFields.bare := by
  intro field hfield
  simp only [SideFields.fields, List.mem_cons, List.not_mem_nil, or_false] at hfield
  rcases hfield with rfl | rfl | rfl
  · exact Field.blind_of_fixed (fun _ => rfl) fun _ _ => rfl
  · exact Field.blind_of_fixed (fun _ => rfl) fun _ _ => rfl
  · exact Field.blind_children (fun _ => rfl) fun _ _ => rfl

/-- A side is read in the same way with other items nested in it. -/
theorem optionalRecord_replaceInSide (v : Json) :
    (Converter.optionalRecord SideFields.fields {} (replaceInSide f v)).map (Option.map SideFields.bare)
      = (Converter.optionalRecord SideFields.fields {} v).map (Option.map SideFields.bare) := by
  cases v with
  | obj ms =>
      show ((readMembers SideFields.fields _ {}).map some).map _
        = ((readMembers SideFields.fields ms {}).map some).map _
      rcases alike_of_map (readMembers_blind (SideFields.blind (f := f)) ms rfl) with
        ⟨x, hnew, hold⟩ | ⟨s, s', hnew, hold, hs⟩
      · rw [hnew, hold]
      · rw [hnew, hold]
        exact congrArg (fun t => Except.ok (some t)) hs
  | _ => rfl

/-! The records that items are nested in; all their other fields are left alone. -/

theorem TextFields.blind : ∀ field ∈ TextFields.fields,
    field.Blind (replaceNested f) TextFields.bare := by
  intro field hfield
  simp only [TextFields.fields, List.mem_cons, List.not_mem_nil, or_false] at hfield
  rcases hfield with rfl | rfl | rfl | rfl
  · exact Field.blind_of_fixed (fun _ => rfl) fun _ _ => rfl
  · exact Field.blind_of_fixed (fun _ => rfl) fun _ _ => rfl
  · exact Field.blind_of_fixed (fun _ => rfl) fun _ _ => rfl
  · exact Field.blind_children (fun _ => rfl) fun _ _ => rfl

theorem EntryFields.blind : ∀ field ∈ EntryFields.fields,
    field.Blind (replaceNested f) EntryFields.bare := by
  intro field hfield
  simp only [EntryFields.fields, List.mem_cons, List.not_mem_nil, or_false] at hfield
  rcases hfield with rfl | rfl | rfl
  · exact Field.blind_of_fixed (fun _ => rfl) fun _ _ => rfl
  · exact Field.blind_of_fixed (fun _ => rfl) fun _ _ => rfl
  · exact Field.blind_children (fun _ => rfl) fun _ _ => rfl

theorem ToggleFields.blind : ∀ field ∈ ToggleFields.fields,
    field.Blind (replaceNested f) ToggleFields.bare := by
  intro field hfield
  simp only [ToggleFields.fields, List.mem_cons, List.not_mem_nil, or_false] at hfield
  rcases hfield with rfl | rfl
  · exact Field.blind_of_fixed (fun _ => rfl) fun _ _ => rfl
  · exact Field.blind_children (fun _ => rfl) fun _ _ => rfl

theorem ComparisonFields.blind : ∀ field ∈ ComparisonFields.fields,
    field.Blind (replaceNested f) ComparisonFields.bare := by
  intro field hfield
  simp only [ComparisonFields.fields, List.mem_cons, List.not_mem_nil, or_false] at hfield
  -- Both sides are read in the same way, each under its own name.
  rcases hfield with rfl | rfl
  · exact Field.blind_of (Option.map SideFields.bare) optionalRecord_replaceInSide fun _ _ => rfl
  · exact Field.blind_of (Option.map SideFields.bare) optionalRecord_replaceInSide fun _ _ => rfl

theorem StepFields.blind : ∀ field ∈ StepFields.fields,
    field.Blind (replaceNested f) StepFields.bare := by
  intro field hfield
  simp only [StepFields.fields, List.mem_cons, List.not_mem_nil, or_false] at hfield
  rcases hfield with rfl | rfl | rfl | rfl | rfl | rfl
  · exact Field.blind_of_fixed (fun _ => rfl) fun _ _ => rfl
  · exact Field.blind_of_fixed (fun _ => rfl) fun _ _ => rfl
  · exact Field.blind_of_fixed (fun _ => rfl) fun _ _ => rfl
  · exact Field.blind_of_fixed (fun _ => rfl) fun _ _ => rfl
  · exact Field.blind_of_fixed (fun _ => rfl) fun _ _ => rfl
  · exact Field.blind_children (fun _ => rfl) fun _ _ => rfl

/-- A color and content without the nested items that it keeps. -/
def bareContent (read : Option String × Content) : Option String × Content := (read.1, read.2.bare)

section Reading

variable {σ : Type} {own : List (Field σ)}

theorem readContent_withItems (bare : σ → σ) (h : ∀ field ∈ own, field.Blind (replaceNested f) bare)
    {build : σ → Content} (hbuild : ∀ r r', bare r = bare r' → (build r).bare = (build r').bare)
    (defaults : σ) :
    (readContent own defaults build (withItems f ms)).map bareContent
      = (readContent own defaults build ms).map bareContent := by
  have hread := readMembers_blind (Colored.blind (fun _ => rfl) h) ms
    (r := (none, defaults)) rfl
  unfold readContent withItems
  rcases alike_of_map hread with ⟨x, hnew, hold⟩ | ⟨r, r', hnew, hold, hr⟩
  · rw [hnew, hold]
  · rw [Prod.mk.injEq] at hr
    rw [hnew, hold]
    show Except.ok (r.1, (build r.2).bare) = Except.ok (r'.1, (build r'.2).bare)
    rw [hr.1, hbuild r.2 r'.2 hr.2]

/-- Content that nothing is nested in. -/
theorem readContent_plain (h : ∀ field ∈ own, field.name ∉ nestingNames) (build : σ → Content)
    (defaults : σ) :
    (readContent own defaults build (withItems f ms)).map bareContent
      = (readContent own defaults build ms).map bareContent := by
  refine readContent_withItems id ?_ (fun r r' hr => congrArg _ (congrArg build hr)) defaults
  intro field hfield v r r' hr
  rw [replaceNested_of_not (h field hfield), show r = r' from hr]

end Reading

/-- Content is read in the same way with other items nested in it. -/
theorem Content.ofMembers_withItems (f : Json → Json) (ms : List (String × Json)) (tag : Tag) :
    (Content.ofMembers (withItems f ms) tag).map bareContent
      = (Content.ofMembers ms tag).map bareContent := by
  cases tag with
  | text kind =>
      refine readContent_withItems TextFields.bare TextFields.blind ?_ {}
      exact fun r r' hr => congrArg (Content.text kind) hr
  | entry kind =>
      refine readContent_withItems EntryFields.bare EntryFields.blind ?_ {}
      exact fun r r' hr => congrArg (Content.entry kind) hr
  | toggle =>
      refine readContent_withItems ToggleFields.bare ToggleFields.blind ?_ {}
      exact fun r r' hr => congrArg Content.toggle hr
  | comparison =>
      refine readContent_withItems ComparisonFields.bare ComparisonFields.blind ?_ {}
      exact fun r r' hr => congrArg Content.comparison hr
  | step =>
      refine readContent_withItems StepFields.bare StepFields.blind ?_ {}
      exact fun r r' hr => congrArg Content.step hr
  | syncedBlock =>
      -- Its only field is the list of children, of which nothing is left to be seen.
      refine readContent_withItems (fun _ => []) ?_ (fun _ _ _ => rfl) []
      intro field hfield
      rw [List.mem_singleton.mp hfield]
      exact Field.blind_children (fun _ => rfl) fun _ _ => rfl
  | note kind => exact readContent_plain (by decide) _ _
  | code => exact readContent_plain (by decide) _ _
  | equation => exact readContent_plain (by decide) _ _
  | codeWithExplanation => exact readContent_plain (by decide) _ _
  | group kind => exact readContent_plain (by decide) _ _
  | media tag => exact readContent_plain (by decide) _ _
  | layout kind =>
      exact readContent_plain (fun _ hfield => absurd hfield List.not_mem_nil)
        (fun _ : Unit => .layout kind) ()
  | table => exact readContent_plain (by decide) _ _
  | definition => exact readContent_plain (by decide) _ _
  | exercise => exact readContent_plain (by decide) _ _
  | quiz => exact readContent_plain (by decide) _ _
  | summary => exact readContent_plain (by decide) _ _
  | objectives => exact readContent_plain (by decide) _ _
  | prerequisites => exact readContent_plain (by decide) _ _
  | estimatedTime => exact readContent_plain (by decide) _ _
  | syncedBlockReference => exact readContent_plain (by decide) _ _

/-! ## §5. Items. -/

/-- An item without the nested items that it keeps. -/
def Item.bare : Item → Item
  | .known color content => .known color content.bare
  | item => item

/-- An item is read in the same way with other items nested in it. -/
theorem Item.ofMembers_withItems (f : Json → Json) (ms : List (String × Json)) :
    (Item.ofMembers (withItems f ms)).bare = (Item.ofMembers ms).bare := by
  unfold Item.ofMembers
  rw [lookup_withItems_of_not (show "type" ∉ nestingNames by decide),
    lookup_withItems_of_not (show "text" ∉ nestingNames by decide), readableMembers_withItems]
  dsimp only
  cases Tag.ofJson? ((Json.lookup "type" ms).getD .null) with
  | none => rfl
  | some tag =>
      dsimp only
      rcases alike_of_map (Content.ofMembers_withItems f (readableMembers ms) tag) with
        ⟨x, hnew, hold⟩ | ⟨⟨color, content⟩, ⟨color', content'⟩, hnew, hold, hread⟩
      · rw [hnew, hold]
      · rw [hnew, hold]
        simp only [bareContent, Prod.mk.injEq] at hread
        show Item.known color content.bare = .known color' content'.bare
        rw [hread.1, hread.2]

theorem Content.tag_bare (c : Content) : c.bare.tag = c.tag := by
  cases c <;> rfl

/-- No builder looks at the nested items that content keeps. -/
theorem Content.build_bare (c : Content) (nested : Nested) (color : String) :
    c.bare.build nested color = c.build nested color := by
  cases c with
  | comparison r =>
      obtain ⟨left, right⟩ := r
      cases left with
      | none => rfl
      | some l => cases right <;> rfl
  | text kind r => cases kind <;> rfl
  | _ => rfl

theorem Item.build_bare (item : Item) (options : BuildOptions) (nested : Nested) :
    item.bare.build options nested = item.build options nested := by
  cases item with
  | known color content =>
      show (if options.isolate then Building.recover (content.bare.buildWith options nested color)
          (leaveNotice content.bare.tag) else content.bare.buildWith options nested color) = _
      unfold Content.buildWith
      rw [Content.tag_bare, Content.build_bare]
      rfl
  | _ => rfl

/-- An item with other items nested in it is built as it was, around them. -/
theorem buildItem_withItems (options : BuildOptions) (f : Json → Json) (ms : List (String × Json)) :
    buildItem options (.obj (withItems f ms))
      = (Item.ofMembers ms).build options (.of options (withItems f ms)) := by
  rw [buildItem_obj, ← Item.build_bare, Item.ofMembers_withItems, Item.build_bare]

end Syllabus
