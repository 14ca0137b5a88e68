/-
  Syllabus.Proofs.Block.Pieces
  ────────────────────────────
  **CUTTING A LIST INTO PIECES LOSES NOTHING.**

  Put together again, the pieces of a list are the list; none of them is empty
  and none is longer than asked for.  The same holds of the pieces of a text,
  except that an empty text is one empty piece.
-/
import Syllabus.Block.Building

namespace Syllabus.Block

/-! ## §1. Lists. -/

variable {α : Type}

theorem flatten_piecesOf (size : Nat) :
    ∀ (budget : Nat) (xs : List α), xs.length ≤ budget → (piecesOf size budget xs).flatten = xs := by
  intro budget
  induction budget with
  | zero =>
      intro xs hlength
      rw [List.length_eq_zero_iff.mp (Nat.le_zero.mp hlength)]
      rfl
  | succ budget ih =>
      intro xs hlength
      unfold piecesOf
      cases xs with
      | nil => rfl
      | cons x xs =>
          rw [if_neg (by simp), List.flatten_cons, ih _ ?_, List.take_append_drop]
          rw [List.length_drop]
          rw [List.length_cons] at hlength ⊢
          omega

theorem flatten_chunks (size : Nat) (xs : List α) : (chunks size xs).flatten = xs :=
  flatten_piecesOf (size - 1) xs.length xs (Nat.le_refl _)

theorem mem_piecesOf {size : Nat} :
    ∀ {budget : Nat} {xs piece : List α}, piece ∈ piecesOf size budget xs →
      piece ≠ [] ∧ piece.length ≤ size + 1 := by
  intro budget
  induction budget with
  | zero => intro xs piece hpiece; exact absurd hpiece List.not_mem_nil
  | succ budget ih =>
      intro xs piece hpiece
      unfold piecesOf at hpiece
      cases xs with
      | nil => exact absurd hpiece List.not_mem_nil
      | cons x xs =>
          rw [if_neg (by simp)] at hpiece
          rcases List.mem_cons.mp hpiece with hhead | hrest
          · rw [hhead]
            exact ⟨by simp, List.length_take_le _ _⟩
          · exact ih hrest

/-- A piece has something in it, and at most as much as asked for. -/
theorem mem_chunks {size : Nat} (hsize : 1 ≤ size) {xs piece : List α}
    (h : piece ∈ chunks size xs) : piece ≠ [] ∧ piece.length ≤ size := by
  obtain ⟨hne, hlength⟩ := mem_piecesOf h
  exact ⟨hne, by omega⟩

theorem chunks_ne_nil (size : Nat) {xs : List α} (h : xs ≠ []) : chunks size xs ≠ [] := by
  intro hnil
  have hflat := flatten_chunks size xs
  rw [hnil] at hflat
  exact h hflat.symm

theorem mem_piecesOf_full {size : Nat} :
    ∀ {budget : Nat} {xs piece : List α}, piece ∈ piecesOf size budget xs →
      piece.length = size + 1 ∨ piece <:+ xs := by
  intro budget
  induction budget with
  | zero => intro xs piece hpiece; exact absurd hpiece List.not_mem_nil
  | succ budget ih =>
      intro xs piece hpiece
      unfold piecesOf at hpiece
      cases xs with
      | nil => exact absurd hpiece List.not_mem_nil
      | cons x xs =>
          rw [if_neg (by simp)] at hpiece
          rcases List.mem_cons.mp hpiece with hhead | hrest
          · rw [hhead]
            by_cases hshort : (x :: xs).length ≤ size
            · rw [List.take_of_length_le (by omega)]
              exact Or.inr List.suffix_rfl
            · rw [List.length_take]
              exact Or.inl (by omega)
          · rcases ih hrest with hfull | hsuffix
            · exact Or.inl hfull
            · exact Or.inr (hsuffix.trans (List.drop_suffix _ _))

/-- A piece that is not full is the end of the list. -/
theorem mem_chunks_full {size : Nat} (hsize : 1 ≤ size) {xs piece : List α}
    (h : piece ∈ chunks size xs) : piece.length = size ∨ piece <:+ xs := by
  have hfull := mem_piecesOf_full h
  rw [Nat.sub_add_cancel hsize] at hfull
  exact hfull

/-- A full piece at the head of a list is cut off first. -/
theorem piecesOf_append {size budget : Nat} {piece : List α} (h : piece.length = size + 1)
    (xs : List α) : piecesOf size (budget + 1) (piece ++ xs) = piece :: piecesOf size budget xs := by
  have hne : piece ≠ [] := List.length_pos_iff.mp (by omega)
  show (if (piece ++ xs).isEmpty then [] else (piece ++ xs).take (size + 1)
    :: piecesOf size budget ((piece ++ xs).drop (size + 1))) = _
  rw [if_neg (by simp [hne]), ← h, List.take_left, List.drop_left]

/-- It does not matter how much more there is to spend than there are items. -/
theorem piecesOf_budget (size : Nat) :
    ∀ (budget budget' : Nat) (xs : List α), xs.length ≤ budget → xs.length ≤ budget' →
      piecesOf size budget xs = piecesOf size budget' xs := by
  intro budget
  induction budget with
  | zero =>
      intro budget' xs hlength _
      rw [List.length_eq_zero_iff.mp (Nat.le_zero.mp hlength)]
      cases budget' <;> rfl
  | succ budget ih =>
      intro budget' xs hlength hlength'
      cases xs with
      | nil => cases budget' <;> rfl
      | cons x xs =>
          obtain ⟨rest, rfl⟩ : ∃ rest, budget' = rest + 1 :=
            Nat.exists_eq_succ_of_ne_zero (Nat.ne_zero_of_lt hlength')
          unfold piecesOf
          rw [ih rest] <;> rw [List.length_drop] <;> omega

/-- The first piece of a list is cut off, and the others are those of what is left. -/
theorem chunks_eq_cons {size : Nat} (hsize : 1 ≤ size) {xs : List α} (h : xs ≠ []) :
    chunks size xs = xs.take size :: chunks size (xs.drop size) := by
  obtain ⟨x, rest, rfl⟩ := List.exists_cons_of_ne_nil h
  have hunfold : chunks size (x :: rest) = (x :: rest).take (size - 1 + 1)
      :: piecesOf (size - 1) rest.length ((x :: rest).drop (size - 1 + 1)) := rfl
  rw [hunfold, Nat.sub_add_cancel hsize, List.cons.injEq]
  refine ⟨rfl, piecesOf_budget _ _ _ _ ?_ (Nat.le_refl _)⟩
  rw [List.length_drop, List.length_cons]
  omega

theorem length_piecesOf (size : Nat) :
    ∀ (budget : Nat) (xs : List α), xs.length ≤ budget →
      (piecesOf size budget xs).length = (xs.length + size) / (size + 1) := by
  intro budget
  induction budget with
  | zero =>
      intro xs hlength
      rw [List.length_eq_zero_iff.mp (Nat.le_zero.mp hlength)]
      exact (Nat.div_eq_of_lt (by rw [List.length_nil]; omega)).symm
  | succ budget ih =>
      intro xs hlength
      unfold piecesOf
      cases xs with
      | nil => exact (Nat.div_eq_of_lt (by rw [List.length_nil]; omega)).symm
      | cons x xs =>
          rw [if_neg (by simp), List.length_cons, ih _ ?_, List.length_drop]
          · rw [List.length_cons] at hlength ⊢
            by_cases hshort : xs.length ≤ size
            · rw [Nat.sub_eq_zero_of_le (by omega), Nat.div_eq_of_lt (by omega),
                Nat.div_eq_of_lt_le (k := 1) (by omega) (by omega)]
            · rw [show xs.length + 1 + size = xs.length + 1 - (size + 1) + size + (size + 1) by omega,
                Nat.add_div_right _ (Nat.succ_pos size)]
          · rw [List.length_drop]
            rw [List.length_cons] at hlength ⊢
            omega

/-- There are as many pieces as are needed. -/
theorem length_chunks {size : Nat} (hsize : 1 ≤ size) (xs : List α) :
    (chunks size xs).length = (xs.length + size - 1) / size := by
  have h := length_piecesOf (size - 1) xs.length xs (Nat.le_refl _)
  rw [Nat.sub_add_cancel hsize, ← Nat.add_sub_assoc hsize] at h
  exact h

/-! ## §2. Texts. -/

theorem textChunks_empty (size : Nat) : textChunks size "" = [""] := rfl

theorem textChunks_of_ne (size : Nat) {s : String} (h : s ≠ "") :
    textChunks size s = (chunks size s.toList).map String.ofList := by
  unfold textChunks
  rw [if_neg]
  rw [String.isEmpty_iff]
  exact h

theorem textChunks_ne_nil (size : Nat) (s : String) : textChunks size s ≠ [] := by
  by_cases hs : s = ""
  · rw [hs, textChunks_empty]
    exact List.cons_ne_nil _ _
  · rw [textChunks_of_ne size hs]
    intro hnil
    have hchars : s.toList ≠ [] := by
      rw [Ne, String.toList_eq_nil_iff]
      exact hs
    exact chunks_ne_nil size hchars (List.map_eq_nil_iff.mp hnil)

/-- No piece of a text is empty, unless the text is. -/
theorem length_pos_textChunks (size : Nat) (hsize : 1 ≤ size) {s : String} (h : s ≠ "") :
    ∀ piece ∈ textChunks size s, 1 ≤ piece.length := by
  intro piece hpiece
  rw [textChunks_of_ne size h] at hpiece
  obtain ⟨cs, hcs, rfl⟩ := List.mem_map.mp hpiece
  rw [String.length_ofList]
  exact List.length_pos_iff.mpr (mem_chunks hsize hcs).1

/-- The pieces of a text are the text again. -/
theorem join_textChunks (size : Nat) (s : String) : String.join (textChunks size s) = s := by
  by_cases hs : s = ""
  · rw [hs, textChunks_empty]
    rfl
  · rw [textChunks_of_ne size hs]
    apply String.toList_inj.mp
    rw [String.toList_join, List.flatMap_map]
    simp only [String.toList_ofList, List.flatMap_id']
    exact flatten_chunks size s.toList

end Syllabus.Block
