/-
  Syllabus.Proofs.Json.Names
  ──────────────────────────
  **A NAME OCCURS ONCE.**

  Members of an object are a list, so the type of values does not rule out
  that a name occurs twice.  No value that anyone hands over is of that kind:
  `namesOnce` says so of a value and of everything inside it, and every text
  that can be read denotes such a value, because members with repeated names
  are merged while they are read.

      namesOnce          no object in the value repeats a name
      namesOnce_parse    what is read has this property
-/
import Syllabus.Json.Reader

namespace Syllabus.Json

/-! ## §1. The property. -/

mutual

/-- Whether no object in a value repeats a name. -/
def namesOnce : Json → Bool
  | .arr vs => namesOnceItems vs
  | .obj ms => decide ((ms.map Prod.fst).Nodup) && namesOnceMembers ms
  | _ => true
termination_by structural v => v

/-- The same of every item. -/
def namesOnceItems : List Json → Bool
  | [] => true
  | v :: vs => namesOnce v && namesOnceItems vs
termination_by structural vs => vs

/-- The same of the value of every member. -/
def namesOnceMembers : List (String × Json) → Bool
  | [] => true
  | (_, v) :: ms => namesOnce v && namesOnceMembers ms
termination_by structural ms => ms

end

theorem namesOnceItems_iff (vs : List Json) :
    namesOnceItems vs = true ↔ ∀ v ∈ vs, v.namesOnce = true := by
  induction vs with
  | nil => exact ⟨fun _ v hv => absurd hv List.not_mem_nil, fun _ => rfl⟩
  | cons v vs ih =>
      show (namesOnce v && namesOnceItems vs) = true ↔ _
      rw [Bool.and_eq_true, ih, List.forall_mem_cons]

theorem namesOnceMembers_iff (ms : List (String × Json)) :
    namesOnceMembers ms = true ↔ ∀ m ∈ ms, m.2.namesOnce = true := by
  induction ms with
  | nil => exact ⟨fun _ v hv => absurd hv List.not_mem_nil, fun _ => rfl⟩
  | cons m ms ih =>
      obtain ⟨key, v⟩ := m
      show (namesOnce v && namesOnceMembers ms) = true ↔ _
      rw [Bool.and_eq_true, ih, List.forall_mem_cons]

theorem namesOnce_arr (vs : List Json) :
    (Json.arr vs).namesOnce = true ↔ ∀ v ∈ vs, v.namesOnce = true := namesOnceItems_iff vs

theorem namesOnce_obj (ms : List (String × Json)) :
    (Json.obj ms).namesOnce = true
      ↔ (ms.map Prod.fst).Nodup ∧ ∀ m ∈ ms, m.2.namesOnce = true := by
  show (decide _ && namesOnceMembers ms) = true ↔ _
  rw [Bool.and_eq_true, decide_eq_true_eq, namesOnceMembers_iff]

/-! ## §2. Parts of such values. -/

theorem namesOnce_lookup {key : String} {ms : List (String × Json)} {v : Json}
    (h : ∀ m ∈ ms, m.2.namesOnce = true) (hv : lookup key ms = some v) : v.namesOnce = true := by
  induction ms with
  | nil => exact absurd hv (by simp [lookup])
  | cons m ms ih =>
      obtain ⟨k, w⟩ := m
      unfold lookup at hv
      split at hv
      · rw [← Option.some.inj hv]
        exact h (k, w) List.mem_cons_self
      · exact ih (fun m hm => h m (List.mem_cons_of_mem _ hm)) hv

theorem namesOnce_member {v : Json} (h : v.namesOnce = true) (key : String) :
    (v.member key).namesOnce = true := by
  unfold member
  cases hmember : v.member? key with
  | none => rfl
  | some w =>
      cases v with
      | obj ms => exact namesOnce_lookup ((namesOnce_obj ms).mp h).2 hmember
      | _ => exact absurd hmember (by simp [member?])

theorem namesOnce_items {v w : Json} (h : v.namesOnce = true) (hw : w ∈ v.items) :
    w.namesOnce = true := by
  cases v with
  | arr vs => exact (namesOnce_arr vs).mp h w hw
  | _ => exact absurd hw List.not_mem_nil

/-! ## §3. Merging. -/

theorem map_fst_insertMember (key : String) (v : Json) (ms : List (String × Json)) :
    (insertMember key v ms).map Prod.fst
      = if key ∈ ms.map Prod.fst then ms.map Prod.fst else ms.map Prod.fst ++ [key] := by
  induction ms with
  | nil => rfl
  | cons m ms ih =>
      obtain ⟨k, w⟩ := m
      unfold insertMember
      by_cases hk : k = key
      · rw [if_pos hk, hk, List.map_cons, List.map_cons, if_pos List.mem_cons_self]
      · rw [if_neg hk, List.map_cons, List.map_cons, ih]
        have hiff : key ∈ k :: ms.map Prod.fst ↔ key ∈ ms.map Prod.fst := by
          rw [List.mem_cons]
          exact or_iff_right fun h => hk h.symm
        by_cases hmem : key ∈ ms.map Prod.fst
        · rw [if_pos hmem, if_pos (hiff.mpr hmem)]
        · rw [if_neg hmem, if_neg fun h => hmem (hiff.mp h)]
          rfl

theorem nodup_insertMember {ms : List (String × Json)} (h : (ms.map Prod.fst).Nodup) (key : String)
    (v : Json) : ((insertMember key v ms).map Prod.fst).Nodup := by
  rw [map_fst_insertMember]
  split
  · exact h
  · rename_i hnew
    rw [List.nodup_append]
    refine ⟨h, List.nodup_cons.mpr ⟨List.not_mem_nil, List.nodup_nil⟩, ?_⟩
    intro a ha b hb heq
    rw [List.mem_singleton.mp hb] at heq
    exact hnew (heq ▸ ha)

theorem mem_insertMember {key : String} {v : Json} {ms : List (String × Json)} {m : String × Json}
    (h : m ∈ insertMember key v ms) : m.2 = v ∨ m ∈ ms := by
  induction ms with
  | nil =>
      rw [List.mem_singleton.mp h]
      exact .inl rfl
  | cons first ms ih =>
      obtain ⟨k, w⟩ := first
      unfold insertMember at h
      split at h
      · rcases List.mem_cons.mp h with hnew | hold
        · rw [hnew]
          exact .inl rfl
        · exact .inr (List.mem_cons_of_mem _ hold)
      · rcases List.mem_cons.mp h with hfirst | hrest
        · rw [hfirst]
          exact .inr List.mem_cons_self
        · exact (ih hrest).imp id fun hold => List.mem_cons_of_mem _ hold

/-- Merged members repeat no name. -/
theorem namesOnce_mergeMembers {ms : List (String × Json)} (h : ∀ m ∈ ms, m.2.namesOnce = true) :
    (Json.obj (mergeMembers ms)).namesOnce = true := by
  -- What is merged so far repeats no name: another member of a name takes the place of the first.
  have hfold : ∀ (ms acc : List (String × Json)), (∀ m ∈ ms, m.2.namesOnce = true) →
      (acc.map Prod.fst).Nodup → (∀ m ∈ acc, m.2.namesOnce = true) →
      (Json.obj (ms.foldl (fun acc m => insertMember m.1 m.2 acc) acc)).namesOnce = true := by
    intro ms
    induction ms with
    | nil => intro acc _ hnodup hacc; exact (namesOnce_obj acc).mpr ⟨hnodup, hacc⟩
    | cons m ms ih =>
        intro acc hms hnodup hacc
        refine ih _ (fun m hm => hms m (List.mem_cons_of_mem _ hm)) (nodup_insertMember hnodup _ _) ?_
        intro m' hm'
        rcases mem_insertMember hm' with hnew | hold
        · rw [hnew]
          exact hms m List.mem_cons_self
        · exact hacc m' hold
  exact hfold ms [] h List.nodup_nil fun m hm => absurd hm List.not_mem_nil

theorem insertMember_of_not_mem {key : String} {ms : List (String × Json)}
    (h : key ∉ ms.map Prod.fst) (v : Json) : insertMember key v ms = ms ++ [(key, v)] := by
  induction ms with
  | nil => rfl
  | cons m ms ih =>
      rw [List.map_cons, List.mem_cons, not_or] at h
      unfold insertMember
      rw [if_neg (Ne.symm h.1), ih h.2]
      rfl

theorem lookup_insertMember (name key : String) (v : Json) (ms : List (String × Json)) :
    lookup name (insertMember key v ms) = if key = name then some v else lookup name ms := by
  induction ms with
  | nil => rfl
  | cons m ms ih =>
      obtain ⟨k, w⟩ := m
      show lookup name (if k = key then (k, v) :: ms else (k, w) :: insertMember key v ms)
        = if key = name then some v else if k = name then some w else lookup name ms
      by_cases hk : k = key
      · subst hk
        rw [if_pos rfl, lookup]
        by_cases hname : k = name
        · rw [if_pos hname, if_pos hname]
        · rw [if_neg hname, if_neg hname, if_neg hname]
      · rw [if_neg hk, lookup, ih]
        by_cases hname : k = name
        · rw [if_pos hname, if_pos hname, if_neg (hname ▸ Ne.symm hk)]
        · rw [if_neg hname, if_neg hname]

/-- Members of which no name is repeated are merged already. -/
theorem mergeMembers_of_nodup {ms : List (String × Json)} (h : (ms.map Prod.fst).Nodup) :
    mergeMembers ms = ms := by
  -- Behind what is merged so far, every member is new.
  have hfold : ∀ ms acc : List (String × Json), ((acc ++ ms).map Prod.fst).Nodup →
      ms.foldl (fun acc m => insertMember m.1 m.2 acc) acc = acc ++ ms := by
    intro ms
    induction ms with
    | nil => intro acc _; exact (List.append_nil acc).symm
    | cons m ms ih =>
        intro acc hnodup
        have hnew : m.1 ∉ acc.map Prod.fst := by
          rw [List.map_append, List.map_cons, List.nodup_append] at hnodup
          exact fun hmem => hnodup.2.2 _ hmem _ List.mem_cons_self rfl
        rw [List.foldl_cons, insertMember_of_not_mem hnew, ih _ (by simpa using hnodup),
          List.append_assoc]
        rfl
  exact hfold ms [] h

theorem lookup_append (key : String) (xs ys : List (String × Json)) :
    lookup key (xs ++ ys) = (lookup key xs).or (lookup key ys) := by
  induction xs with
  | nil => rfl
  | cons m xs ih =>
      obtain ⟨k, v⟩ := m
      show (if k = key then some v else lookup key (xs ++ ys))
          = (if k = key then some v else lookup key xs).or (lookup key ys)
      split
      · rfl
      · exact ih

/-- Of members with the same name the last one counts. -/
theorem lookup_mergeMembers (name : String) (ms : List (String × Json)) :
    lookup name (mergeMembers ms) = lookup name ms.reverse := by
  -- What is merged so far counts where no later member has the name.
  have hfold : ∀ ms acc : List (String × Json),
      lookup name (ms.foldl (fun acc m => insertMember m.1 m.2 acc) acc)
        = (lookup name ms.reverse).or (lookup name acc) := by
    intro ms
    induction ms with
    | nil => intro acc; rfl
    | cons m ms ih =>
        obtain ⟨k, v⟩ := m
        intro acc
        rw [List.foldl_cons, ih, lookup_insertMember, List.reverse_cons, lookup_append,
          Option.or_assoc]
        congr 1
        show (if k = name then some v else lookup name acc)
          = (if k = name then some v else none).or (lookup name acc)
        split <;> rfl
  exact (hfold ms []).trans Option.or_none

/-! ## §4. Reading. -/

theorem namesOnce_readScalar {cs rest : List Char} {v : Json}
    (h : readScalar cs = .ok (v, rest)) : v.namesOnce = true := by
  have hwords : ∀ entry ∈ words, entry.2.namesOnce = true := by decide
  unfold readScalar at h
  split at h
  · rename_i w v' hfind
    simp only [Except.ok.injEq, Prod.mk.injEq] at h
    rw [← h.1]
    exact hwords (w, v') (List.mem_of_find?_eq_some hfind)
  · unfold readNumber at h
    dsimp only at h
    split at h
    · exact absurd h (by simp)
    · split at h
      · split at h
        · exact absurd h (by simp)
        · simp only [Except.ok.injEq, Prod.mk.injEq] at h
          rw [← h.1]
          rfl
      · simp only [Except.ok.injEq, Prod.mk.injEq] at h
        rw [← h.1]
        rfl

/-- What each of the three readers gives within a budget repeats no name. -/
structure ReadsNamesOnce (budget : Nat) : Prop where
  /-- The reader of values. -/
  value : ∀ {cs v rest}, readValue budget cs = .ok (v, rest) → v.namesOnce = true
  /-- The reader of items, after items of that kind. -/
  items : ∀ {done cs v rest}, (∀ w ∈ done, w.namesOnce = true) →
    readItems budget done cs = .ok (v, rest) → v.namesOnce = true
  /-- The reader of members, after members of that kind. -/
  members : ∀ {done cs v rest}, (∀ m ∈ done, m.2.namesOnce = true) →
    readMembers budget done cs = .ok (v, rest) → v.namesOnce = true

section Step

variable {budget : Nat} {cs rest : List Char} {v : Json}

theorem namesOnce_readValue (ih : ReadsNamesOnce budget)
    (h : readValue (budget + 1) cs = .ok (v, rest)) : v.namesOnce = true := by
  unfold readValue at h
  split at h
  · rename_i tail
    cases hstring : readString ('\x22' :: tail) with
    | error e =>
        rw [hstring] at h
        exact absurd h (by simp [Except.map])
    | ok read =>
        rw [hstring] at h
        simp only [Except.map, Except.ok.injEq, Prod.mk.injEq] at h
        rw [← h.1]
        rfl
  · split at h
    · simp only [Except.ok.injEq, Prod.mk.injEq] at h
      rw [← h.1]
      rfl
    · exact ih.items (fun w hw => absurd hw List.not_mem_nil) h
  · split at h
    · simp only [Except.ok.injEq, Prod.mk.injEq] at h
      rw [← h.1]
      rfl
    · exact ih.members (fun m hm => absurd hm List.not_mem_nil) h
  · exact namesOnce_readScalar h

theorem namesOnce_readItems (ih : ReadsNamesOnce budget) {done : List Json}
    (hdone : ∀ w ∈ done, w.namesOnce = true)
    (h : readItems (budget + 1) done cs = .ok (v, rest)) : v.namesOnce = true := by
  unfold readItems at h
  cases hvalue : readValue budget cs with
  | error e =>
      rw [hvalue] at h
      exact absurd h (by simp)
  | ok read =>
      obtain ⟨w, after⟩ := read
      rw [hvalue] at h
      dsimp only at h
      have hgrown : ∀ u ∈ w :: done, u.namesOnce = true :=
        List.forall_mem_cons.mpr ⟨ih.value hvalue, hdone⟩
      split at h
      · simp only [Except.ok.injEq, Prod.mk.injEq] at h
        rw [← h.1, namesOnce_arr]
        exact fun u hu => hgrown u (List.mem_reverse.mp hu)
      · exact ih.items hgrown h
      · exact absurd h (by simp)

theorem namesOnce_readMembers (ih : ReadsNamesOnce budget) {done : List (String × Json)}
    (hdone : ∀ m ∈ done, m.2.namesOnce = true)
    (h : readMembers (budget + 1) done cs = .ok (v, rest)) : v.namesOnce = true := by
  unfold readMembers at h
  split at h
  · rename_i tail
    cases hstring : readString ('\x22' :: tail) with
    | error e =>
        rw [hstring] at h
        exact absurd h (by simp)
    | ok read =>
        obtain ⟨key, after⟩ := read
        rw [hstring] at h
        dsimp only at h
        split at h
        · rename_i behind _
          cases hvalue : readValue budget (skipSpace behind) with
          | error e =>
              rw [hvalue] at h
              exact absurd h (by simp)
          | ok read =>
              obtain ⟨w, last⟩ := read
              rw [hvalue] at h
              dsimp only at h
              -- Repeated names may pile up here; they are merged when the object is closed.
              have hgrown : ∀ m ∈ (key, w) :: done, m.2.namesOnce = true :=
                List.forall_mem_cons.mpr ⟨ih.value hvalue, hdone⟩
              split at h
              · simp only [Except.ok.injEq, Prod.mk.injEq] at h
                rw [← h.1]
                exact namesOnce_mergeMembers fun m hm => hgrown m (List.mem_reverse.mp hm)
              · exact ih.members hgrown h
              · exact absurd h (by simp)
        · exact absurd h (by simp)
  · exact absurd h (by simp)

end Step

/-- The readers call one another with a smaller budget, so the induction is about all three. -/
theorem readsNamesOnce (budget : Nat) : ReadsNamesOnce budget := by
  induction budget with
  | zero =>
      exact
        { value := fun h => absurd h (by simp [readValue])
          items := fun _ h => absurd h (by simp [readItems])
          members := fun _ h => absurd h (by simp [readMembers]) }
  | succ budget ih =>
      exact
        { value := namesOnce_readValue ih
          items := namesOnce_readItems ih
          members := namesOnce_readMembers ih }

/-- No value that a text denotes repeats a name. -/
theorem namesOnce_parse {text : String} {v : Json} (h : parse text = .ok v) :
    v.namesOnce = true := by
  unfold parse at h
  cases hread : readText text.toList with
  | error stop =>
      rw [hread] at h
      exact absurd h (by simp)
  | ok w =>
      rw [hread] at h
      rw [← Except.ok.inj h]
      unfold readText at hread
      split at hread
      · exact absurd hread (by simp)
      · split at hread
        · exact absurd hread (by simp)
        · rename_i u after hvalue
          split at hread
          · rw [← Except.ok.inj hread]
            exact (readsNamesOnce _).value hvalue
          · exact absurd hread (by simp)

end Syllabus.Json
