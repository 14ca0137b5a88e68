/-
  Syllabus.Proofs.Conversion.Members
  ──────────────────────────────────
  **WHERE A FIELD OF AN ITEM COMES FROM.**

  A record is read member by member, each of which may set one field.  If no
  name occurs twice, a field is what the member of its name was converted to,
  and its default if there is no such member:

      StoresAt      one field, its converter, and where it is stored
      get_stored    the field is the converted member
      get_default   or the default

  In front of that members are made readable, which drops those that are
  `null` and nothing else; and behind it the fields become content of the tag
  that they were read for.
-/
import Syllabus.Item.Reading

namespace Syllabus

/-! ## §1. Fields. -/

section Fields

variable {σ α : Type} {fields : List (Field σ)} {name : String} {read : Converter α} {get : σ → α}

/-- Members of this name store what the converter gives where `get` finds it, and no other member
changes what is there. -/
structure StoresAt (fields : List (Field σ)) (name : String) (read : Converter α) (get : σ → α) :
    Prop where
  /-- A member of this name is stored. -/
  stored : ∀ {v r r'}, putMember fields name v r = .ok r' → read v = .ok (get r')
  /-- Any other leaves what was stored. -/
  kept : ∀ {key v r r'}, key ≠ name → putMember fields key v r = .ok r' → get r' = get r

theorem Field.put_of {set : α → σ → σ} {v : Json} {r r' : σ}
    (h : (Field.of name read set).put v r = .ok r') : ∃ a, read v = .ok a ∧ r' = set a r := by
  have h : (read v).map (fun a => set a r) = .ok r' := h
  cases hread : read v with
  | error e =>
      rw [hread] at h
      exact absurd h (by simp [Except.map])
  | ok a =>
      rw [hread] at h
      exact ⟨a, rfl, (Except.ok.inj h).symm⟩

/-- A field whose setter stores what `get` finds. -/
theorem Field.stores_of {set : α → σ → σ} (hset : ∀ a r, get (set a r) = a) {v : Json} {r r' : σ}
    (h : (Field.of name read set).put v r = .ok r') : read v = .ok (get r') := by
  obtain ⟨a, ha, hr⟩ := Field.put_of h
  rw [ha, hr, hset]

/-- Setting the field changes nothing that `get` finds. -/
def Field.Keeps (get : σ → α) (f : Field σ) : Prop :=
  ∀ v r r', f.put v r = .ok r' → get r' = get r

theorem Field.keeps_of {β : Type} {other : String} {convert : Converter β} {set : β → σ → σ}
    (hset : ∀ a r, get (set a r) = get r) : Field.Keeps get (Field.of other convert set) := by
  intro v r r' h
  obtain ⟨a, _, hr⟩ := Field.put_of h
  rw [hr, hset]

theorem Converter.under_ok {step : Step} {e : Except ConversionError σ} {r : σ}
    (h : Converter.under step e = .ok r) : e = .ok r := by
  cases e with
  | error e => exact absurd h (by simp [Converter.under])
  | ok s => exact h

/-- What has to be checked of a list of fields: which one has the name, and that the others keep
what it stores. -/
theorem StoresAt.of_fields {field : Field σ} (hfind : fields.find? (·.name = name) = some field)
    (hstored : ∀ {v r r'}, field.put v r = .ok r' → read v = .ok (get r'))
    (hkept : ∀ f ∈ fields, f.name ≠ name → Field.Keeps get f) : StoresAt fields name read get where
  stored := by
    intro v r r' h
    unfold putMember at h
    rw [hfind] at h
    exact hstored (Converter.under_ok h)
  kept := by
    intro key v r r' hkey h
    unfold putMember at h
    cases hother : fields.find? (·.name = key) with
    | none =>
        rw [hother] at h
        rw [Except.ok.inj h]
    | some f =>
        rw [hother] at h
        have hname : f.name = key := by simpa using List.find?_some hother
        exact hkept f (List.mem_of_find?_eq_some hother) (by rw [hname]; exact hkey) v r r'
          (Converter.under_ok h)

theorem readMembers_cons {key : String} {v : Json} {ms : List (String × Json)} {r r' : σ}
    (h : readMembers fields ((key, v) :: ms) r = .ok r') :
    ∃ s, putMember fields key v r = .ok s ∧ readMembers fields ms s = .ok r' := by
  unfold readMembers at h
  cases hput : putMember fields key v r with
  | error e =>
      rw [hput] at h
      exact absurd h (by simp [bind, Except.bind])
  | ok s =>
      rw [hput] at h
      exact ⟨s, rfl, h⟩

/-- A field without a member keeps its default. -/
theorem StoresAt.get_default (hs : StoresAt fields name read get) {ms : List (String × Json)} :
    ∀ {r r' : σ}, Json.lookup name ms = none → readMembers fields ms r = .ok r' →
      get r' = get r := by
  induction ms with
  | nil =>
      intro r r' _ h
      rw [Except.ok.inj h]
  | cons m ms ih =>
      intro r r' hnone h
      obtain ⟨key, v⟩ := m
      unfold Json.lookup at hnone
      split at hnone
      · exact absurd hnone (by simp)
      · rename_i hkey
        obtain ⟨s, hput, hrest⟩ := readMembers_cons h
        rw [ih hnone hrest]
        exact hs.kept hkey hput

theorem Json.lookup_eq_none {key : String} {ms : List (String × Json)}
    (h : key ∉ ms.map Prod.fst) : Json.lookup key ms = none := by
  induction ms with
  | nil => rfl
  | cons m ms ih =>
      obtain ⟨k, v⟩ := m
      rw [List.map_cons, List.mem_cons, not_or] at h
      unfold Json.lookup
      rw [if_neg (Ne.symm h.1)]
      exact ih h.2

/-- A field with a member is what the member is converted to. -/
theorem StoresAt.get_stored (hs : StoresAt fields name read get) {ms : List (String × Json)}
    {v : Json} :
    ∀ {r r' : σ}, (ms.map Prod.fst).Nodup → Json.lookup name ms = some v →
      readMembers fields ms r = .ok r' → read v = .ok (get r') := by
  induction ms with
  | nil => intro r r' _ hsome _; exact absurd hsome (by simp [Json.lookup])
  | cons m ms ih =>
      intro r r' hnodup hsome h
      obtain ⟨key, w⟩ := m
      rw [List.map_cons, List.nodup_cons] at hnodup
      obtain ⟨s, hput, hrest⟩ := readMembers_cons h
      unfold Json.lookup at hsome
      split at hsome
      · rename_i hkey
        rw [hkey] at hput hnodup
        rw [Option.some.inj hsome] at hput
        -- No later member has the name, so what is stored here stays.
        rw [hs.get_default (Json.lookup_eq_none hnodup.1) hrest]
        exact hs.stored hput
      · exact ih hnodup.2 hsome hrest

end Fields

/-! ## §2. Records with a color. -/

theorem putMember_colored {σ : Type} (own : List (Field σ)) {key : String} (h : key ≠ "color")
    (v : Json) (r : Colored σ) :
    putMember (Colored.fields own) key v r = (putMember own key v r.2).map fun s => (r.1, s) := by
  unfold putMember Colored.fields
  rw [List.find?_cons, show decide ((Field.of "color" Converter.optionalText
    (fun a (r : Colored σ) => (a, r.2))).name = key) = false from decide_eq_false (Ne.symm h)]
  dsimp only
  rw [List.find?_map, show ((fun f : Field (Colored σ) => decide (f.name = key)) ∘
    fun f : Field σ => { name := f.name, put := fun v r => (f.put v r.2).map fun s => (r.1, s) })
      = fun f => decide (f.name = key) from rfl]
  cases own.find? fun f => decide (f.name = key) with
  | none => rfl
  | some f =>
      show Converter.under _ ((f.put v r.2).map _) = (Converter.under _ (f.put v r.2)).map _
      cases f.put v r.2 <;> rfl

theorem putMember_color {σ : Type} (own : List (Field σ)) {v : Json} {r r' : Colored σ}
    (h : putMember (Colored.fields own) "color" v r = .ok r') : r'.2 = r.2 := by
  have hput : (Field.of "color" Converter.optionalText
      (fun a (r : Colored σ) => (a, r.2))).put v r = .ok r' := Converter.under_ok h
  obtain ⟨a, _, hr⟩ := Field.put_of hput
  rw [hr]

/-- A field of a group is stored in the same way beside a color. -/
theorem StoresAt.colored {σ α : Type} {own : List (Field σ)} {name : String} {read : Converter α}
    {get : σ → α} (hs : StoresAt own name read get) (hname : name ≠ "color") :
    StoresAt (Colored.fields own) name read fun r => get r.2 where
  stored := by
    intro v r r' h
    rw [putMember_colored own hname] at h
    cases hput : putMember own name v r.2 with
    | error e =>
        rw [hput] at h
        exact absurd h (by simp [Except.map])
    | ok s =>
        rw [hput] at h
        rw [← Except.ok.inj h]
        exact hs.stored hput
  kept := by
    intro key v r r' hkey h
    by_cases hcolor : key = "color"
    · rw [hcolor] at h
      rw [putMember_color own h]
    · rw [putMember_colored own hcolor] at h
      cases hput : putMember own key v r.2 with
      | error e =>
          rw [hput] at h
          exact absurd h (by simp [Except.map])
      | ok s =>
          rw [hput] at h
          rw [← Except.ok.inj h]
          exact hs.kept hkey hput

/-! ## §3. Readable members. -/

theorem lookup_filter {p : Json → Bool} {ms : List (String × Json)}
    (hnodup : (ms.map Prod.fst).Nodup) (key : String) :
    Json.lookup key (ms.filter fun m => p m.2) = (Json.lookup key ms).filter p := by
  induction ms with
  | nil => rfl
  | cons m ms ih =>
      obtain ⟨k, v⟩ := m
      rw [List.map_cons, List.nodup_cons] at hnodup
      have htail := ih hnodup.2
      cases hp : p v with
      | true =>
          rw [List.filter_cons, if_pos hp]
          show (if k = key then some v else _) = (if k = key then some v else _).filter p
          split
          · rw [Option.filter_some_pos hp]
          · exact htail
      | false =>
          rw [List.filter_cons, if_neg (Bool.eq_false_iff.mp hp), htail]
          show _ = (if k = key then some v else _).filter p
          split
          · rename_i hk
            -- The member that was dropped had the key, and no other one has it.
            rw [Json.lookup_eq_none (by rw [← hk]; exact hnodup.1),
              Option.filter_some_neg hp]
            rfl
          · rfl

theorem lookup_map {f : String → Json → Json} (ms : List (String × Json)) (key : String) :
    Json.lookup key (ms.map fun (k, v) => (k, f k v)) = (Json.lookup key ms).map (f key) := by
  induction ms with
  | nil => rfl
  | cons m ms ih =>
      obtain ⟨k, v⟩ := m
      show (if k = key then some (f k v) else Json.lookup key (ms.map fun (k, v) => (k, f k v)))
        = (if k = key then some v else Json.lookup key ms).map (f key)
      split
      · rename_i hk
        rw [hk]
        rfl
      · exact ih

/-- A readable member is the one that was written, unless that is `null`. -/
theorem lookup_readableMembers {ms : List (String × Json)} (hnodup : (ms.map Prod.fst).Nodup)
    (key : String) :
    Json.lookup key (readableMembers ms)
      = ((Json.lookup key ms).filter fun v => decide (v ≠ .null)).map fun v =>
          sideMember key (textMember key v) := by
  unfold readableMembers Json.withoutNulls
  rw [lookup_map (f := fun k v => sideMember k (textMember k v)),
    lookup_filter (p := fun v => decide (v ≠ .null)) hnodup]

theorem nodup_readableMembers {ms : List (String × Json)} (hnodup : (ms.map Prod.fst).Nodup) :
    ((readableMembers ms).map Prod.fst).Nodup := by
  have hnames : (readableMembers ms).map Prod.fst = (Json.withoutNulls ms).map Prod.fst := by
    unfold readableMembers
    rw [List.map_map]
    rfl
  rw [hnames]
  exact hnodup.sublist (List.filter_sublist.map _)

theorem sideMember_of_not {name : String} (h : sideNames.contains name = false) (v : Json) :
    sideMember name v = v := by
  unfold sideMember
  split
  · rw [if_neg (by rw [h]; decide)]
  · rfl

/-- Where a field of an item comes from: a member that is absent or `null` leaves its default, and
any other is made readable and converted. -/
theorem StoresAt.get_readable {σ α : Type} {own : List (Field σ)} {name : String}
    {read : Converter α} {get : σ → α} (hs : StoresAt own name read get) (hname : name ≠ "color")
    {ms : List (String × Json)} (hnodup : (ms.map Prod.fst).Nodup) {color : Option String}
    {defaults r : σ}
    (h : readMembers (Colored.fields own) (readableMembers ms) (none, defaults) = .ok (color, r)) :
    let v := (Json.lookup name ms).getD .null
    (v = .null ∧ get r = get defaults)
      ∨ read (sideMember name (textMember name v)) = .ok (get r) := by
  have hlookup := lookup_readableMembers hnodup name
  have hcolored := hs.colored hname
  cases hfound : Json.lookup name ms with
  | none =>
      rw [hfound] at hlookup
      exact .inl ⟨rfl, hcolored.get_default hlookup h⟩
  | some v =>
      rw [hfound] at hlookup
      by_cases hnull : v = .null
      · rw [hnull] at hlookup
        exact .inl ⟨hnull, hcolored.get_default hlookup h⟩
      · have hkeep : (some v).filter (fun v => decide (v ≠ .null)) = some v :=
          if_pos (decide_eq_true hnull)
        rw [hkeep] at hlookup
        exact .inr (hcolored.get_stored (nodup_readableMembers hnodup) hlookup h)

/-! ## §4. Contents. -/

theorem readContent_ok {σ : Type} {own : List (Field σ)} {defaults : σ} {build : σ → Content}
    {ms : List (String × Json)} {color : Option String} {content : Content}
    (h : readContent own defaults build ms = .ok (color, content)) :
    ∃ r, readMembers (Colored.fields own) ms (none, defaults) = .ok (color, r)
      ∧ content = build r := by
  unfold readContent at h
  cases hread : readMembers (Colored.fields own) ms (none, defaults) with
  | error e =>
      rw [hread] at h
      exact absurd h (by simp [Except.map])
  | ok r =>
      rw [hread] at h
      simp only [Except.map, Except.ok.injEq, Prod.mk.injEq] at h
      exact ⟨r.2, by rw [← h.1], h.2.symm⟩

/-- Content has the tag that it was read for. -/
theorem Content.tag_of_ofMembers {ms : List (String × Json)} {tag : Tag} {color : Option String}
    {content : Content} (h : Content.ofMembers ms tag = .ok (color, content)) :
    content.tag = tag := by
  cases tag <;> unfold Content.ofMembers at h <;> obtain ⟨r, _, hcontent⟩ := readContent_ok h <;>
    rw [hcontent] <;> rfl

/-- The tag among members. -/
def tagOf? (ms : List (String × Json)) : Option Tag :=
  Tag.ofJson? ((Json.lookup "type" ms).getD .null)

/-- A known item was read for its tag. -/
theorem Item.ofMembers_known {ms : List (String × Json)} {color : Option String} {content : Content}
    (h : Item.ofMembers ms = .known color content) :
    tagOf? ms = some content.tag
      ∧ Content.ofMembers (readableMembers ms) content.tag = .ok (color, content) := by
  unfold Item.ofMembers at h
  dsimp only at h
  split at h
  · exact absurd h (by simp)
  · rename_i tag htag
    split at h
    · rename_i color' content' hread
      simp only [Item.known.injEq] at h
      obtain ⟨hcolor, hcontent⟩ := h
      rw [hcolor, hcontent] at hread
      rw [Content.tag_of_ofMembers hread]
      exact ⟨htag, hread⟩
    · exact absurd h (by simp)

/-- An item that does not fit has a tag all the same. -/
theorem Item.ofMembers_malformed {ms : List (String × Json)} {name error : String}
    (h : Item.ofMembers ms = .malformed name error) :
    ∃ tag, tagOf? ms = some tag ∧ name = tag.name := by
  unfold Item.ofMembers at h
  dsimp only at h
  split at h
  · exact absurd h (by simp)
  · rename_i tag htag
    split at h
    · exact absurd h (by simp)
    · simp only [Item.malformed.injEq] at h
      exact ⟨tag, htag, h.1.symm⟩

end Syllabus
