/-
  Syllabus.Proofs.Item.Tables
  ───────────────────────────
  **THE TABLE OF AN ITEM.**

  The headers of a table, if it has any, are its first row.  Without a first
  row there is no table; otherwise the table has all rows and all cells
  (`Block.Tabulates`).

      build_tabulates     the table of an item's fields
      tables_rectangular  tables made from texts, and those of items
-/
import Syllabus.Proofs.Block.Tables
import Syllabus.Proofs.Item.Counting

namespace Syllabus

/-- The headers of a table, if there are any, are a row in front of the others. -/
theorem TableFields.allRows_eq (f : TableFields) :
    f.allRows = (f.headers.filter fun hs => !hs.isEmpty).toList ++ f.rows := by
  unfold TableFields.allRows
  cases f.headers with
  | none => rfl
  | some headers =>
      cases headers with
      | nil => rfl
      | cons h hs => rfl

/-- A table with a first row is made of its rows. -/
theorem TableFields.build_tabulates {f : TableFields} (h : f.firstRow ≠ []) :
    ∃ b n, Writing.Gives f.build [b] n
      ∧ Block.Tabulates f.allRows f.hasColumnHeader f.hasRowHeader b n := by
  obtain ⟨b, n, hgives, htable⟩ :=
    Block.makeTable_tabulates f.allRows f.hasColumnHeader f.hasRowHeader
  refine ⟨b, n, ?_, htable⟩
  rw [f.firstRow_eq] at h
  unfold TableFields.build
  cases hrows : f.allRows with
  | nil => exact absurd (by rw [hrows]; rfl) h
  | cons row rest =>
      cases row with
      | nil => exact absurd (by rw [hrows]; rfl) h
      | cons c cs =>
          rw [hrows] at hgives
          exact hgives.then_pure fun b => [b]

/-- **TABLES ARE RECTANGULAR AND KEEP THEIR CELLS.**

A table made from rows of texts is as wide as the first of them.  It has one row for each, in their
order, with as many cells; what stands in a cell of a row is what stands there in its texts, or
nothing.  One warning is logged for each row that is longer or shorter.  The table of an item is made
in this way from its headers, if there are any, and its rows. -/
theorem tables_rectangular :
    (∀ (rows : List (List String)) (columnHeader rowHeader : Bool), ∃ b n,
      Writing.Gives (Block.makeTable (rows.map fun row => row.map .str) columnHeader rowHeader) b n
        ∧ Block.Tabulates rows columnHeader rowHeader b n)
    ∧ ∀ (isolate : Bool) (v : Json) (color : Option String) (f : TableFields),
        Item.ofJson v = .known color (.table f) → f.firstRow ≠ [] → ∃ b n,
          Building.Ends (buildItem { isolate := isolate } v) (.ok [b]) n
            ∧ Block.Tabulates ((f.headers.filter fun hs => !hs.isEmpty).toList ++ f.rows)
                f.hasColumnHeader f.hasRowHeader b n := by
  refine ⟨Block.makeTable_tabulates, ?_⟩
  intro isolate v color f hv hfirst
  obtain ⟨b, n, hgives, htable⟩ := TableFields.build_tabulates hfirst
  obtain ⟨nested, -, hbuild⟩ := exists_buildItem_eq v
  have hworks : ∀ tag, ({ isolate := isolate } : BuildOptions).failing tag = none := fun _ => rfl
  refine ⟨b, n, ?_, ?_⟩
  · rw [buildItem_unfailing hworks v, hbuild, hv]
    exact Building.ends_ofWriting hgives
  · rw [← f.allRows_eq]
    exact htable

/-- Headers over a row that is too short and one that is too long. -/
theorem tables_rectangular_uneven :
    let v : Json := .obj [("type", .str "table"), ("headers", .arr [.str "A", .str "B"]),
      ("rows", .arr [.arr [.str "1"], .arr [.str "2", .str "3", .str "4"]])]
    ∃ b n, Building.Ends (buildItem {} v) (.ok [b]) n
      ∧ b = .table 2 true false
        [[[Run.plain "A"], [Run.plain "B"]], [[Run.plain "1"], [Run.blank]],
          [[Run.plain "2"], [Run.plain "3"]]]
      ∧ n.remarks = [Block.unevenRow 2 1 1, Block.unevenRow 2 2 3] := by
  intro v
  let f : TableFields := { headers := some ["A", "B"], rows := [["1"], ["2", "3", "4"]] }
  have hv : Item.ofJson v = .known none (.table f) := by decide +kernel
  obtain ⟨b, n, hends, htable⟩ := tables_rectangular.2 false v none f hv (by decide)
  exact ⟨b, n, hends, htable.block, htable.remarks⟩

end Syllabus
