/-
  Syllabus.Proofs.Conversion.Nulls
  ────────────────────────────────
  **A NULL IS REFUSED OR MAKES NO DIFFERENCE.**

  Leave a `null` member out of a record that is read somewhere inside a value.
  If the reading came to that member and had no use for a `null` there, it
  ended with a report at its place.  In all other cases the value is read in
  the same way without the member, and be it with the same report on something
  else:

      SameUnless               two readings, the second one without the `null`
      readMembers_drop         a record that has the member
      readMembers_modifyMember a record around it
      itemsFrom_modify         and a list

  Of the records that are read in lists, segments and explanations, the second
  part says which `null` is refused.
-/
import Syllabus.Proofs.Conversion.Members
import Syllabus.Proofs.Json.Putting

namespace Syllabus

/-! ## §1. Two readings. -/

/-- A reading ends with the report that one of some types was wanted at a path, where `null` is. -/
def RefusesNull {α : Type} (wanted : List Wanted) (q : Path) (e : Except ConversionError α) : Prop :=
  ∃ w ∈ wanted, e = .error ⟨.mismatch w "null", q⟩

/-- A second reading gives the same as the first one, unless that refused a `null`. -/
def SameUnless {α : Type} (wanted : List Wanted) (q : Path) (e e' : Except ConversionError α) :
    Prop :=
  e' = e ∨ RefusesNull wanted q e

namespace SameUnless

variable {α β : Type} {wanted : List Wanted} {q : Path} {e e' : Except ConversionError α}

theorem same (e : Except ConversionError α) : SameUnless wanted q e e := .inl rfl

/-- What is made of the results afterwards changes nothing. -/
theorem map (h : SameUnless wanted q e e') (f : α → β) :
    SameUnless wanted q (e.map f) (e'.map f) := by
  rcases h with rfl | ⟨w, hw, rfl⟩
  · exact same _
  · exact .inr ⟨w, hw, rfl⟩

theorem under (h : SameUnless wanted q e e') (step : Step) :
    SameUnless wanted (step :: q) (Converter.under step e) (Converter.under step e') := by
  rcases h with rfl | ⟨w, hw, rfl⟩
  · exact same _
  · exact .inr ⟨w, hw, rfl⟩

/-- A first part that is read differently. -/
theorem bind (h : SameUnless wanted q e e') (f : α → Except ConversionError β) :
    SameUnless wanted q (e >>= f) (e' >>= f) := by
  rcases h with rfl | ⟨w, hw, rfl⟩
  · exact same _
  · exact .inr ⟨w, hw, rfl⟩

/-- Something that is read differently behind a first part. -/
theorem behind {f f' : α → Except ConversionError β}
    (h : ∀ a, e = .ok a → SameUnless wanted q (f a) (f' a)) :
    SameUnless wanted q (e >>= f) (e >>= f') := by
  cases e with
  | error x => exact same _
  | ok a => exact h a rfl

end SameUnless

/-! ## §2. Records and lists. -/

/-- Members without those of a name. -/
def dropMember (name : String) (ms : List (String × Json)) : List (String × Json) :=
  ms.filter fun m => m.1 ≠ name

theorem dropMember_of_not_mem {name : String} {ms : List (String × Json)}
    (h : name ∉ ms.map Prod.fst) : dropMember name ms = ms := by
  refine List.filter_eq_self.mpr fun m hm => decide_eq_true ?_
  intro heq
  exact h (heq ▸ List.mem_map_of_mem hm)

theorem dropMember_cons_self (name : String) (v : Json) (ms : List (String × Json)) :
    dropMember name ((name, v) :: ms) = dropMember name ms :=
  List.filter_cons_of_neg (by simp)

theorem dropMember_cons_of_ne {name key : String} (h : key ≠ name) (v : Json)
    (ms : List (String × Json)) :
    dropMember name ((key, v) :: ms) = (key, v) :: dropMember name ms :=
  List.filter_cons_of_pos (by simpa using h)

section Records

variable {σ : Type} {fields : List (Field σ)} {name : String} {wanted : List Wanted} {q : Path}
  {ms : List (String × Json)}

/-- A record without a `null` member.  Where that is no misfit it sets its field to what it is
already, as long as no other member has set it. -/
theorem readMembers_drop {F : σ → Prop}
    (hnull : ∀ r, F r →
      SameUnless wanted [.key name] (putMember fields name .null r) (.ok r))
    (hkeeps : ∀ {key v r r'}, key ≠ name → F r → putMember fields key v r = .ok r' → F r')
    (hnodup : (ms.map Prod.fst).Nodup) (hlookup : Json.lookup name ms = some .null) :
    ∀ r, F r → SameUnless wanted [.key name] (readMembers fields ms r)
      (readMembers fields (dropMember name ms) r) := by
  induction ms with
  | nil => cases hlookup
  | cons m ms ih =>
      intro r hfresh
      obtain ⟨key, v⟩ := m
      rw [List.map_cons, List.nodup_cons] at hnodup
      unfold Json.lookup at hlookup
      by_cases hkey : key = name
      · subst hkey
        rw [if_pos rfl] at hlookup
        -- No other member has the name, so the rest is read in the same way if this one is passed.
        rw [dropMember_cons_self, dropMember_of_not_mem hnodup.1, Option.some.inj hlookup]
        exact (hnull r hfresh).bind fun r => readMembers fields ms r
      · rw [if_neg hkey] at hlookup
        rw [dropMember_cons_of_ne hkey]
        exact .behind fun r' hput => ih hnodup.2 hlookup r' (hkeeps hkey hfresh hput)

/-- A record with a member that is read differently. -/
theorem readMembers_modifyMember {f : Json → Json} {v : Json}
    (hlookup : Json.lookup name ms = some v)
    (h : ∀ r, SameUnless wanted q (putMember fields name v r) (putMember fields name (f v) r)) :
    ∀ r, SameUnless wanted q (readMembers fields ms r)
      (readMembers fields (Json.modifyMember name f ms) r) := by
  induction ms with
  | nil => cases hlookup
  | cons m ms ih =>
      intro r
      obtain ⟨key, w⟩ := m
      unfold Json.lookup at hlookup
      unfold Json.modifyMember
      by_cases hkey : key = name
      · subst hkey
        rw [if_pos rfl] at hlookup ⊢
        rw [Option.some.inj hlookup]
        exact (h r).bind fun r => readMembers fields ms r
      · rw [if_neg hkey] at hlookup ⊢
        exact .behind fun r' _ => ih hlookup r'

/-- A `null` member, as the field of its name takes it. -/
theorem putMember_null {r : σ} (h : ∀ field ∈ fields, field.name = name →
      SameUnless wanted [] (field.put .null r) (.ok r)) :
    SameUnless wanted [.key name] (putMember fields name .null r) (.ok r) := by
  unfold putMember
  cases hfind : fields.find? (·.name = name) with
  | none => exact .same _
  | some field =>
      have hname : field.name = name := by simpa using List.find?_some hfind
      exact (h field (List.mem_of_find?_eq_some hfind) hname).under (.key name)

/-- A member for a field whose converter reads it differently. -/
theorem putMember_at {α : Type} {read : Converter α} {set : α → σ → σ} {v v' : Json}
    (hfind : fields.find? (·.name = name) = some (.of name read set))
    (h : SameUnless wanted q (read v) (read v')) (r : σ) :
    SameUnless wanted (.key name :: q) (putMember fields name v r) (putMember fields name v' r) := by
  unfold putMember
  rw [hfind]
  exact (h.map fun a => set a r).under _

end Records

namespace Converter

variable {α : Type} {wanted : List Wanted} {q : Path} {vs : List Json} {k : Nat} {f : Json → Json}

/-- A list with an item that is read differently. -/
theorem itemsFrom_modify {item : Converter α} {v : Json} (hv : vs[k]? = some v)
    (h : SameUnless wanted q (item v) (item (f v))) :
    ∀ i, SameUnless wanted (.index (i + k) :: q) (itemsFrom item i vs)
      (itemsFrom item i (vs.modify k f)) := by
  induction vs generalizing k with
  | nil => cases hv
  | cons w vs ih =>
      intro i
      cases k with
      | zero =>
          cases hv
          exact (h.under (.index i)).bind _
      | succ k =>
          rw [show i + (k + 1) = i + 1 + k by omega]
          exact .behind fun a _ => (ih hv (i + 1)).bind _

end Converter

/-! ## §3. Segments and explanations. -/

/-- The fields of a segment that have no use for `null`, and what they want. -/
def Segment.firm : List (String × Wanted) :=
  [("text", .text), ("bold", .truth), ("italic", .truth), ("strikethrough", .truth),
    ("underline", .truth), ("code", .truth), ("color", .text)]

/-- Those of an explanation. -/
def Explanation.firm : List (String × Wanted) := [("line", .text), ("explanation", .text)]

/-- What is wanted under a name. -/
def wantedUnder (name : String) (firm : List (String × Wanted)) : List Wanted :=
  (firm.lookup name).toList

theorem Segment.storesAt_link :
    StoresAt Segment.fields "link" Converter.optionalText (·.link) := by
  refine .of_fields rfl (Field.stores_of fun _ _ => rfl) ?_
  unfold Segment.fields
  simp only [List.forall_mem_cons]
  refine ⟨?_, ?_, ?_, ?_, ?_, ?_, ?_, fun h => absurd rfl h, fun f hf => absurd hf List.not_mem_nil⟩
  all_goals exact fun _ => Field.keeps_of fun _ _ => rfl

/-- A segment without a `null` member. -/
theorem Converter.segment_drop {name : String} {ms : List (String × Json)}
    (hnodup : (ms.map Prod.fst).Nodup) (hlookup : Json.lookup name ms = some .null) :
    SameUnless (wantedUnder name Segment.firm) [.key name] (segment (.obj ms))
      (segment (.obj (dropMember name ms))) := by
  -- Nothing sets the link in front of the member that is left out, if that is the link.
  refine readMembers_drop (F := fun r => name = "link" → r.link = none) ?_ ?_ hnodup hlookup _
    fun _ => rfl
  · intro r hfresh
    refine putMember_null fun field hmem hname => ?_
    subst hname
    simp only [Segment.fields, List.mem_cons, List.not_mem_nil, or_false] at hmem
    rcases hmem with rfl | rfl | rfl | rfl | rfl | rfl | rfl | rfl
    · exact .inr ⟨.text, by decide, rfl⟩
    · exact .inr ⟨.truth, by decide, rfl⟩
    · exact .inr ⟨.truth, by decide, rfl⟩
    · exact .inr ⟨.truth, by decide, rfl⟩
    · exact .inr ⟨.truth, by decide, rfl⟩
    · exact .inr ⟨.truth, by decide, rfl⟩
    · exact .inr ⟨.text, by decide, rfl⟩
    · left
      show Except.ok r = Except.ok { r with link := none }
      rw [← hfresh rfl]
  · intro key v r r' hkey hfresh hput hname
    subst hname
    rw [Segment.storesAt_link.kept hkey hput]
    exact hfresh rfl

/-- An explanation without one. -/
theorem Converter.explanation_drop {name : String} {ms : List (String × Json)}
    (hnodup : (ms.map Prod.fst).Nodup) (hlookup : Json.lookup name ms = some .null) :
    SameUnless (wantedUnder name Explanation.firm) [.key name]
      (record Explanation.fields {} (.obj ms))
      (record Explanation.fields {} (.obj (dropMember name ms))) := by
  refine readMembers_drop (F := fun _ => True) (fun r _ => ?_) (fun _ _ _ => trivial) hnodup
    hlookup _ trivial
  refine putMember_null fun field hmem hname => ?_
  subst hname
  simp only [Explanation.fields, List.mem_cons, List.not_mem_nil, or_false] at hmem
  rcases hmem with rfl | rfl
  · exact .inr ⟨.text, by decide, rfl⟩
  · exact .inr ⟨.text, by decide, rfl⟩

end Syllabus
