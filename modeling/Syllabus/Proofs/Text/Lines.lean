/-
  Syllabus.Proofs.Text.Lines
  ──────────────────────────
  **LINES THAT ARE WRITTEN BELOW EACH OTHER ARE READ AGAIN.**

  A text is written line by line, with a line break behind each; the last one
  may go without, unless it is empty.  Reading its lines gives back what was
  written, as long as no line has a line end in it.

      Written            lines, and a text that has them below each other
      lines_of_written   its lines are those
-/
import Syllabus.Text.Line

namespace Syllabus.Text

/-- No line end is in a text. -/
def OneLine (s : String) : Prop := ∀ c ∈ s.toList, isLineEnd c = false

instance (s : String) : Decidable (OneLine s) :=
  List.decidableBAll (isLineEnd · = false) s.toList

theorem OneLine.append {s t : String} (hs : OneLine s) (ht : OneLine t) : OneLine (s ++ t) := by
  intro c hc
  rw [String.toList_append] at hc
  rcases List.mem_append.mp hc with hc | hc
  · exact hs c hc
  · exact ht c hc

/-- What may stand between two lines: a line end, or a carriage return and a line feed.  A carriage
return by itself may be the half of a pair, and is left out. -/
inductive LineBreak : List Char → Prop where
  /-- A line end. -/
  | single {c : Char} (hend : isLineEnd c = true) (hne : c ≠ '\r') : LineBreak [c]
  /-- A carriage return and a line feed. -/
  | pair : LineBreak ['\r', '\n']

/-- Lines, and a text that has them below each other. -/
inductive Written : List String → String → Prop where
  /-- Nothing is written. -/
  | none : Written [] ""
  /-- The last line has no line break behind it. -/
  | last {line : String} (hline : OneLine line) (hne : line ≠ "") : Written [line] line
  /-- A line, a line break, and the others. -/
  | next {line : String} {ending : List Char} {lines : List String} {text : String}
      (hline : OneLine line) (hbreak : LineBreak ending) (hrest : Written lines text) :
      Written (line :: lines) (line ++ String.ofList ending ++ text)

/-! ## §1. Reading a line. -/

theorem linesAfter_cons {c : Char} (h : isLineEnd c = false) (read rest : List Char) :
    linesAfter read (c :: rest) = linesAfter (c :: read) rest := by
  have hne : c ≠ '\r' := by
    rintro rfl
    exact absurd h (by decide)
  rw [linesAfter, h, if_neg Bool.false_ne_true]
  intro _ heq
  exact absurd heq hne

/-- What is read of a line is in front of what is still to be read of it. -/
theorem linesAfter_append {cs : List Char} (h : ∀ c ∈ cs, isLineEnd c = false)
    (read rest : List Char) :
    linesAfter read (cs ++ rest) = linesAfter (cs.reverse ++ read) rest := by
  induction cs generalizing read with
  | nil => rfl
  | cons c cs ih =>
      rw [List.forall_mem_cons] at h
      rw [List.cons_append, linesAfter_cons h.1, ih h.2]
      simp

theorem linesAfter_break {ending : List Char} (h : LineBreak ending) (read rest : List Char) :
    linesAfter read (ending ++ rest) = read.reverse :: linesAfter [] rest := by
  cases h with
  | single hend hne =>
      rw [List.singleton_append, linesAfter, hend, if_pos rfl]
      intro _ heq
      exact absurd heq hne
  | pair => rfl

/-! ## §2. Reading the lines of a text. -/

theorem linesAfter_of_written {ls : List String} {text : String} (h : Written ls text) :
    linesAfter [] text.toList = ls.map String.toList := by
  induction h with
  | none => rfl
  | @last line hline hne =>
      have hsome : ¬ (line.toList.reverse ++ []).isEmpty = true := by simpa using hne
      have happend := linesAfter_append hline [] []
      rw [List.append_nil] at happend
      rw [happend, linesAfter, if_neg hsome]
      simp
  | next hline hbreak _ ih =>
      rw [String.toList_append, String.toList_append, String.toList_ofList, List.append_assoc,
        linesAfter_append hline, linesAfter_break hbreak, ih]
      simp

/-- **Lines that are written below each other are read again.** -/
theorem lines_of_written {ls : List String} {text : String} (h : Written ls text) :
    lines text = ls := by
  unfold lines
  rw [linesAfter_of_written h, List.map_map]
  have hback : String.ofList ∘ String.toList = id := funext fun s => String.ofList_toList
  rw [hback, List.map_id]

/-! ## §3. Nothing is added. -/

theorem mem_of_mem_linesAfter {read cs line : List Char} {c : Char}
    (hline : line ∈ linesAfter read cs) (hc : c ∈ line) : c ∈ read ∨ c ∈ cs := by
  fun_induction linesAfter read cs with
  | case1 read hnone => cases hline
  | case2 read hsome =>
      rw [List.mem_singleton.mp hline, List.mem_reverse] at hc
      exact .inl hc
  | case3 read rest ih =>
      rcases List.mem_cons.mp hline with rfl | hrest
      · exact .inl (List.mem_reverse.mp hc)
      · have hmem : c ∈ rest := by simpa using ih hrest
        exact .inr (List.mem_cons_of_mem _ (List.mem_cons_of_mem _ hmem))
  | case4 read d rest _ hend ih =>
      rcases List.mem_cons.mp hline with rfl | hrest
      · exact .inl (List.mem_reverse.mp hc)
      · have hmem : c ∈ rest := by simpa using ih hrest
        exact .inr (List.mem_cons_of_mem _ hmem)
  | case5 read d rest _ hend ih =>
      rcases ih hline with hread | hrest
      · rcases List.mem_cons.mp hread with rfl | hread
        · exact .inr List.mem_cons_self
        · exact .inl hread
      · exact .inr (List.mem_cons_of_mem d hrest)

/-- What is in a line is in the text. -/
theorem mem_of_mem_lines {text line : String} {c : Char} (hline : line ∈ lines text)
    (hc : c ∈ line.toList) : c ∈ text.toList := by
  obtain ⟨cs, hcs, rfl⟩ := List.mem_map.mp hline
  rw [String.toList_ofList] at hc
  rcases mem_of_mem_linesAfter hcs hc with hnone | htext
  · cases hnone
  · exact htext

end Syllabus.Text
