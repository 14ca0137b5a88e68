/-
  Syllabus.Notion.Batch
  ─────────────────────
  **HOW MUCH A REQUEST CARRIES.**

  A request brings at most a hundred blocks, and at least one is sent at a
  time, whatever size is asked for.
-/
import Syllabus.Block.Building

namespace Syllabus.Notion

/-- The most blocks that a request may bring. -/
def maxBatchSize : Nat := 100

/-- A size that is asked for, as it is used. -/
def batchLimit (size : Int) : Nat := (max 1 (min size maxBatchSize)).toNat

/-- Blocks in consecutive batches. -/
def batches {α : Type} (size : Int) (blocks : List α) : List (List α) :=
  Block.chunks (batchLimit size) blocks

/-- Where a list is cut in front of an index; an index below zero counts from the end. -/
def cutIndex (length : Nat) (index : Int) : Nat :=
  if index < 0 then (length + index).toNat else index.toNat

/-- The part of a list before an index and the part from it on. -/
def cutList {α : Type} (index : Int) (xs : List α) : List α × List α :=
  xs.splitAt (cutIndex xs.length index)

end Syllabus.Notion
