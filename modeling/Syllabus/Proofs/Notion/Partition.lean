/-
  Syllabus.Proofs.Notion.Partition
  ────────────────────────────────
  **THERE IS ONE WAY TO CUT A LIST.**

  Batches of blocks and runs of code are cut in the same way: every piece is
  full but for the last, which has something in it.  These rules leave no
  choice, so that the pieces are known from them alone, and so is their number.

      Partition                 pieces that follow the rules
      partition_iff             exactly the pieces that are cut off follow them
      Partition.length_pieces   there are as few pieces as there can be
      cut_into_partitions       batches, of any size that is asked for, and texts
-/
import Mathlib.Algebra.Order.Floor.Div
import Syllabus.Proofs.Block.Pieces
import Syllabus.Proofs.Notion.Batching

namespace Syllabus.Block

/-! ## §1. Pieces of a list. -/

variable {α : Type}

/-- Pieces that are a list together, of which each but the last has `size` items, and the last has at
least one and at most as many. -/
structure Partition (size : Nat) (xs : List α) (pieces : List (List α)) : Prop where
  /-- One behind the other they are the list. -/
  whole : pieces.flatten = xs
  /-- Each piece that is not the last is full. -/
  full : ∀ piece ∈ pieces.dropLast, piece.length = size
  /-- The last piece has something in it, and not too much. -/
  last : ∀ piece ∈ pieces.getLast?, 1 ≤ piece.length ∧ piece.length ≤ size

variable {size : Nat} {xs : List α} {pieces : List (List α)}

theorem chunks_nil (size : Nat) : chunks size ([] : List α) = [] := rfl

theorem partition_nil (size : Nat) : Partition size ([] : List α) [] :=
  ⟨rfl, fun _ hpiece => absurd hpiece List.not_mem_nil, fun _ hpiece => nomatch hpiece⟩

/-- A short list is one piece. -/
theorem partition_short (hne : xs ≠ []) (hshort : xs.length ≤ size) : Partition size xs [xs] := by
  refine ⟨List.flatten_singleton, fun _ hpiece => absurd hpiece List.not_mem_nil, ?_⟩
  intro piece hpiece
  cases hpiece
  exact ⟨List.length_pos_iff.mpr hne, hshort⟩

/-- In front of the pieces of what is left, a full piece is no other than the first one. -/
theorem Partition.cons {piece : List α} (hfull : piece.length = size) (hne : xs ≠ [])
    (h : Partition size xs pieces) : Partition size (piece ++ xs) (piece :: pieces) := by
  have hpieces : pieces ≠ [] := by
    rintro rfl
    exact hne h.whole.symm
  refine ⟨by rw [List.flatten_cons, h.whole], ?_, ?_⟩
  · rw [List.dropLast_cons_of_ne_nil hpieces, List.forall_mem_cons]
    exact ⟨hfull, h.full⟩
  · rw [List.getLast?_cons_of_ne_nil hpieces]
    exact h.last

/-- Behind the first of several pieces stand the pieces of what is left. -/
theorem Partition.tail {piece : List α} (h : Partition size xs (piece :: pieces))
    (hne : pieces ≠ []) : piece.length = size ∧ Partition size pieces.flatten pieces := by
  have hfull := h.full
  have hlast := h.last
  rw [List.dropLast_cons_of_ne_nil hne, List.forall_mem_cons] at hfull
  rw [List.getLast?_cons_of_ne_nil hne] at hlast
  exact ⟨hfull.1, rfl, hfull.2, hlast⟩

/-- What is cut off follows the rules. -/
theorem partition_chunks (hsize : 1 ≤ size) (xs : List α) : Partition size xs (chunks size xs) := by
  -- The induction is on how much is left, because a piece is dropped at a time.
  induction hlength : xs.length using Nat.strong_induction_on generalizing xs with
  | _ n ih =>
    by_cases hne : xs = []
    · subst hne
      exact partition_nil size
    · have hpos : 1 ≤ xs.length := List.length_pos_iff.mpr hne
      rw [chunks_eq_cons hsize hne]
      by_cases hshort : xs.length ≤ size
      · rw [List.take_of_length_le hshort, List.drop_of_length_le hshort, chunks_nil]
        exact partition_short hne hshort
      · have hdrop : (xs.drop size).length = xs.length - size := List.length_drop
        have hrest := ih (xs.length - size) (by omega) (xs.drop size) hdrop
        have hleft : xs.drop size ≠ [] := List.length_pos_iff.mp (by omega)
        have hfull : (xs.take size).length = size := List.length_take_of_le (by omega)
        have hcons := hrest.cons hfull hleft
        rw [List.take_append_drop] at hcons
        exact hcons

/-- The rules leave no choice. -/
theorem Partition.eq_chunks (hsize : 1 ≤ size) (h : Partition size xs pieces) :
    pieces = chunks size xs := by
  induction pieces generalizing xs with
  | nil =>
      rw [← h.whole]
      rfl
  | cons piece pieces ih =>
      -- The last piece may be short, and a piece in front of others is full.
      by_cases hne : pieces = []
      · subst hne
        have hpiece := h.last piece rfl
        have hxs : xs = piece := by
          rw [← h.whole, List.flatten_singleton]
        rw [hxs, chunks_eq_cons hsize (List.length_pos_iff.mp hpiece.1),
          List.take_of_length_le hpiece.2, List.drop_of_length_le hpiece.2, chunks_nil]
      · obtain ⟨hfull, hrest⟩ := h.tail hne
        have hxs : xs = piece ++ pieces.flatten := by
          rw [← h.whole, List.flatten_cons]
        have hlong : 1 ≤ piece.length := by omega
        rw [hxs, chunks_eq_cons hsize (by simp [List.length_pos_iff.mp hlong]),
          List.take_left' hfull, List.drop_left' hfull, ← ih hrest]

/-- Exactly the pieces that are cut off follow the rules. -/
theorem partition_iff (hsize : 1 ≤ size) : Partition size xs pieces ↔ pieces = chunks size xs :=
  ⟨fun h => h.eq_chunks hsize, fun h => h ▸ partition_chunks hsize xs⟩

/-- There are as few pieces as there can be. -/
theorem Partition.length_pieces (hsize : 1 ≤ size) (h : Partition size xs pieces) :
    pieces.length = xs.length ⌈/⌉ size := by
  rw [h.eq_chunks hsize, length_chunks hsize, Nat.ceilDiv_eq_add_pred_div]

/-! ## §2. Pieces of a text. -/

/-- A text that is not empty is cut as the list of its characters is. -/
theorem toList_textChunks (size : Nat) {s : String} (hs : s ≠ "") :
    (textChunks size s).map String.toList = chunks size s.toList := by
  rw [textChunks_of_ne size hs, List.map_map]
  exact List.map_id'' (fun _ => String.toList_ofList) _

theorem text_partition_iff (hsize : 1 ≤ size) {s : String} (hs : s ≠ "") {texts : List String} :
    Partition size s.toList (texts.map String.toList) ↔ texts = textChunks size s := by
  rw [partition_iff hsize, ← toList_textChunks size hs]
  exact (List.map_injective_iff.mpr fun _ _ => String.toList_injective).eq_iff

end Syllabus.Block

namespace Syllabus.Notion

open Block

/-! ## §3. Batches and texts. -/

variable {α : Type}

/-- **EVERY LIST OF BLOCKS AND EVERY TEXT IS CUT IN THE ONLY WAY THERE IS.**

Whatever size is asked for, batches are cut by the nearest one from one to a hundred: the batches are
the only pieces of the blocks that are full but for the last, which has at least one block, and there
are as many as the blocks make full batches, rounded up.  A text that is not empty is cut in the same
way, by any width from one on, and an empty one is one empty piece; so the pieces are the text again. -/
theorem cut_into_partitions (blocks : List α) (size : Int) (s : String) {width : Nat}
    (hwidth : 1 ≤ width) :
    (∃ limit : Nat, (limit : Int) = max 1 (min size 100)
        ∧ (∀ pieces, Partition limit blocks pieces ↔ pieces = batches size blocks)
        ∧ (batches size blocks).length = blocks.length ⌈/⌉ limit)
      ∧ (s ≠ "" → ∀ texts : List String,
          Partition width s.toList (texts.map String.toList) ↔ texts = textChunks width s)
      ∧ textChunks width "" = [""]
      ∧ String.join (textChunks width s) = s := by
  refine ⟨⟨batchLimit size, ?_, ?_, ?_⟩, ?_, textChunks_empty width, join_textChunks width s⟩
  · unfold batchLimit maxBatchSize
    omega
  · intro pieces
    exact partition_iff (batchLimit_pos size)
  · exact (partition_chunks (batchLimit_pos size) blocks).length_pieces (batchLimit_pos size)
  · intro hs texts
    exact text_partition_iff hwidth hs

/-- Five blocks two at a time, and the text "größer" in pieces of four. -/
theorem cut_into_partitions_uneven :
    1 ≤ 4 ∧ batches 2 [1, 2, 3, 4, 5] = [[1, 2], [3, 4], [5]]
      ∧ textChunks 4 "größer" = ["größ", "er"] := by
  obtain ⟨⟨limit, hlimit, hbatches, -⟩, htexts, -, -⟩ :=
    cut_into_partitions [1, 2, 3, 4, 5] 2 "größer" (show 1 ≤ 4 by decide)
  have htwo : limit = 2 := by omega
  subst htwo
  refine ⟨by decide, ((hbatches _).mp ?_).symm, ((htexts (by decide) _).mp ?_).symm⟩
  · exact ⟨rfl, by decide, by decide⟩
  · exact ⟨by decide, by decide, by decide⟩

end Syllabus.Notion
