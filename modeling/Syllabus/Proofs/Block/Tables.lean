/-
  Syllabus.Proofs.Block.Tables
  ────────────────────────────
  **TABLES ARE RECTANGULAR AND KEEP THEIR CELLS.**

  A table is as wide as its first row.  What a row has beyond that is cut off,
  and what it lacks is filled up; either is remarked on in the log.

      fittedRow            a row of texts, brought to a width
      unevenRows           what is logged of rows that had to be
      Tabulates            a table made from rows, and what is logged of it
      makeTable_tabulates  every table is, whatever the lengths of its rows
-/
import Syllabus.Block.Building
import Syllabus.Proofs.Journal.Notes

namespace Syllabus.Block

/-! ## §1. What a table should be. -/

/-- A cell of a row of texts: the text that stands there in one run, or one run that shows nothing. -/
def cellOf (row : List String) (k : Nat) : List Run :=
  match row[k]? with
  | some s => [Run.plain s]
  | none => [Run.blank]

/-- A row of texts, brought to a width. -/
def fittedRow (width : Nat) (row : List String) : List (List Run) :=
  (List.range width).map (cellOf row)

/-- What is logged of a row that is not as long as the table is wide. -/
def unevenRow (width index count : Nat) : Remark :=
  .plain ⟨.blocks, .warning, s!"table row {index} has {count} cells, expected {width}"⟩

/-- What is logged of rows, counted from an index on: one line for each that is uneven. -/
def unevenRows (width index : Nat) (rows : List (List String)) : List Remark :=
  ((rows.zipIdx index).filter fun p => p.1.length ≠ width).map fun p =>
    unevenRow width p.2 p.1.length

/-- The table of some rows, and what is noted of it. -/
structure Tabulates (rows : List (List String)) (columnHeader rowHeader : Bool) (b : Block)
    (n : Notes) : Prop where
  /-- It is as wide as the first row, and so is each of its rows. -/
  block : b = .table (rows.headD []).length columnHeader rowHeader
    (rows.map (fittedRow (rows.headD []).length))
  /-- In its final form it says how wide it is, and its children are its rows. -/
  json : b.toJson = envelope "table"
    [("table_width", .nat (rows.headD []).length), ("has_column_header", .bool columnHeader),
      ("has_row_header", .bool rowHeader),
      ("children", .arr (rows.map fun row => envelope "table_row"
        [("cells", .arr ((fittedRow (rows.headD []).length row).map Run.listJson))]))]
  /-- Nothing is recorded. -/
  found : n.found = []
  /-- One line is logged for each row that is not as long. -/
  remarks : n.remarks = unevenRows (rows.headD []).length 0 rows

/-! ## §2. Rows. -/

/-- Cutting a row and filling it up brings it to the width. -/
theorem take_append_blanks (width : Nat) (row : List String) :
    (row.take width).map (fun s => [Run.plain s])
        ++ List.replicate (width - (row.take width).length) [Run.blank]
      = fittedRow width row := by
  apply List.ext_getElem?
  intro k
  unfold fittedRow
  by_cases hk : k < width
  · rw [List.getElem?_map, List.getElem?_range hk, Option.map_some]
    unfold cellOf
    by_cases hown : k < row.length
    · have htaken : k < (row.take width).length := by rw [List.length_take]; omega
      rw [List.getElem?_append_left (by rw [List.length_map]; exact htaken), List.getElem?_map,
        List.getElem?_take_of_lt hk, List.getElem?_eq_getElem hown]
      rfl
    · -- The row has ended, so it was taken whole.
      have htaken : (row.take width).length = row.length := by rw [List.length_take]; omega
      rw [List.getElem?_append_right (by rw [List.length_map, htaken]; omega),
        List.getElem?_replicate, if_pos (by rw [List.length_map, htaken]; omega),
        List.getElem?_eq_none (by omega)]
  · rw [List.getElem?_eq_none (by simp; omega), List.getElem?_eq_none (by simp; omega)]

/-- The cells of a row of texts are read without a remark. -/
theorem cells_eq (width : Nat) (row : List String) :
    ((row.map Json.str).take width).mapM cellRuns
      = pure ((row.take width).map fun s => [Run.plain s]) := by
  rw [← List.map_take, List.mapM_map]
  exact List.mapM_pure

theorem makeRow_gives (width index : Nat) (row : List String) :
    Writing.Gives (makeRow width index (row.map .str)) (fittedRow width row)
      ⟨[], unevenRows width index [row]⟩ := by
  unfold makeRow
  rw [cells_eq, pure_bind, List.length_map, List.length_map, take_append_blanks]
  by_cases hfit : row.length = width
  · have hnone : unevenRows width index [row] = [] := by simp [unevenRows, hfit]
    rw [if_neg (not_not_intro hfit), hnone]
    exact Writing.gives_pure _
  · have hone : unevenRows width index [row] = [unevenRow width index row.length] := by
      simp [unevenRows, hfit]
    rw [if_pos hfit, hone]
    exact (Writing.gives_log .blocks .warning _).then_pure fun _ => fittedRow width row

/-- Rows are brought to the width one after the other, and so is what is logged of them. -/
theorem makeRows_gives (width : Nat) (rows : List (List String)) :
    ∀ index, Writing.Gives (makeRows width index (rows.map fun row => row.map .str))
      (rows.map (fittedRow width)) ⟨[], unevenRows width index rows⟩ := by
  -- A warning names the index of its row, so the rows behind are counted from the next one on.
  induction rows with
  | nil =>
      intro index
      exact Writing.gives_pure []
  | cons row rows ih =>
      intro index
      have hsplit : unevenRows width index (row :: rows)
          = unevenRows width index [row] ++ unevenRows width (index + 1) rows := by
        unfold unevenRows
        rw [← List.map_append, ← List.filter_append]
        rfl
      rw [hsplit]
      show Writing.Gives _ _ ((⟨[], unevenRows width index [row]⟩ : Notes)
        ++ ⟨[], unevenRows width (index + 1) rows⟩)
      refine (makeRow_gives width index row).bind ?_
      exact (ih (index + 1)).then_pure fun others => fittedRow width row :: others

/-! ## §3. Tables. -/

/-- A table is made of its rows, whatever their lengths. -/
theorem makeTable_tabulates (rows : List (List String)) (columnHeader rowHeader : Bool) :
    ∃ b n, Writing.Gives (makeTable (rows.map fun row => row.map .str) columnHeader rowHeader) b n
      ∧ Tabulates rows columnHeader rowHeader b n := by
  have hwidth : ((rows.map fun row => row.map Json.str).head?.getD []).length
      = (rows.headD []).length := by
    cases rows with
    | nil => rfl
    | cons row rows => exact List.length_map _
  refine ⟨_, ⟨[], unevenRows (rows.headD []).length 0 rows⟩, ?_, rfl, ?_, rfl, rfl⟩
  · unfold makeTable
    rw [hwidth]
    exact (makeRows_gives (rows.headD []).length rows 0).then_pure fun cells =>
      Block.table (rows.headD []).length columnHeader rowHeader cells
  · show envelope "table" [_, _, _, ("children", .arr ((rows.map _).map rowJson))] = _
    rw [List.map_map]
    rfl

end Syllabus.Block
