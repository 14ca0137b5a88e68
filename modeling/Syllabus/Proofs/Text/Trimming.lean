/-
  Syllabus.Proofs.Text.Trimming
  ─────────────────────────────
  **TRIMMING LEAVES NOTHING TO TRIM.**

  A trimmed text starts and ends with visible characters, or is empty.
  Trimming gives such a text and changes no such text; so it is idempotent,
  and everything that looks only at the trimmed text, web addresses among it,
  does not see whether it was trimmed before.
-/
import Mathlib.Data.List.TakeWhile
import Syllabus.Url.Basic

namespace Syllabus.Text

/-! ## §1. Trimmed lists. -/

/-- No blank character stands at either end. -/
def Trimmed (cs : List Char) : Prop :=
  (∀ c, cs.head? = some c → isBlankChar c = false)
    ∧ ∀ c, cs.getLast? = some c → isBlankChar c = false

theorem head?_stripStart {cs : List Char} {c : Char} (h : (stripStart cs).head? = some c) :
    isBlankChar c = false := by
  have hnot := List.head?_dropWhile_not isBlankChar cs
  rw [show cs.dropWhile isBlankChar = stripStart cs from rfl, h] at hnot
  simpa using hnot

theorem getLast?_stripEnd {cs : List Char} {c : Char} (h : (stripEnd cs).getLast? = some c) :
    isBlankChar c = false := by
  unfold stripEnd at h
  rw [List.getLast?_reverse] at h
  exact head?_stripStart h

/-- What is cut off at the end are blank characters. -/
theorem stripEnd_append (cs : List Char) :
    ∃ blanks, cs = stripEnd cs ++ blanks ∧ ∀ c ∈ blanks, isBlankChar c = true := by
  refine ⟨(cs.reverse.takeWhile isBlankChar).reverse, ?_, ?_⟩
  · unfold stripEnd
    rw [← List.reverse_append, List.takeWhile_append_dropWhile, List.reverse_reverse]
  · intro c hc
    rw [List.mem_reverse] at hc
    exact (List.all_eq_true.mp List.all_takeWhile) c hc

theorem stripEnd_sublist (cs : List Char) : (stripEnd cs).Sublist cs := by
  obtain ⟨blanks, hcut, -⟩ := stripEnd_append cs
  conv => rhs; rw [hcut]
  exact List.sublist_append_left _ _

/-- Trimming keeps the characters in their order, and adds none. -/
theorem stripChars_sublist (cs : List Char) : (stripChars cs).Sublist cs :=
  (stripEnd_sublist (stripStart cs)).trans (List.dropWhile_sublist isBlankChar)

theorem stripChars_trimmed (cs : List Char) : Trimmed (stripChars cs) := by
  refine ⟨?_, fun c hc => getLast?_stripEnd hc⟩
  intro c hc
  obtain ⟨blanks, heq, _⟩ := stripEnd_append (stripStart cs)
  apply @head?_stripStart cs
  rw [heq, List.head?_append]
  rw [show stripEnd (stripStart cs) = stripChars cs from rfl, hc]
  rfl

theorem stripStart_of_head {cs : List Char} (h : ∀ c, cs.head? = some c → isBlankChar c = false) :
    stripStart cs = cs := by
  cases cs with
  | nil => rfl
  | cons c rest =>
      unfold stripStart
      rw [List.dropWhile_cons, if_neg]
      rw [h c rfl]
      exact Bool.false_ne_true

theorem stripChars_of_trimmed {cs : List Char} (h : Trimmed cs) : stripChars cs = cs := by
  have hlast : ∀ c, cs.reverse.head? = some c → isBlankChar c = false := by
    intro c hc
    rw [List.head?_reverse] at hc
    exact h.2 c hc
  unfold stripChars
  rw [stripStart_of_head h.1]
  show (stripStart cs.reverse).reverse = cs
  rw [stripStart_of_head hlast, List.reverse_reverse]

/-- Behind a text that is trimmed already, only the end is left to trim. -/
theorem stripChars_append {w : List Char} (hne : w ≠ []) (hw : Trimmed w) (cs : List Char) :
    stripChars (w ++ cs) = w ++ stripEnd cs := by
  have hstart : stripStart (w ++ cs) = w ++ cs := by
    obtain ⟨d, w, rfl⟩ := List.exists_cons_of_ne_nil hne
    exact stripStart_of_head fun c hc => hw.1 c hc
  have hend : w.reverse.dropWhile isBlankChar = w.reverse := by
    refine stripStart_of_head fun c hc => hw.2 c ?_
    rw [List.head?_reverse] at hc
    exact hc
  unfold stripChars stripEnd
  rw [hstart, List.reverse_append, List.dropWhile_append, hend]
  split
  · rename_i hblank
    rw [List.isEmpty_iff.mp hblank, List.reverse_reverse, List.reverse_nil, List.append_nil]
  · rw [List.reverse_append, List.reverse_reverse]

theorem length_stripEnd_le (cs : List Char) : (stripEnd cs).length ≤ cs.length :=
  (stripEnd_sublist cs).length_le

/-- A text between two trimmed ones has no end of its own. -/
theorem trimmed_between {front back : List Char} (hfront : Trimmed front) (hf : front ≠ [])
    (hback : Trimmed back) (hb : back ≠ []) (mid : List Char) :
    Trimmed (front ++ (mid ++ back)) := by
  obtain ⟨c, front, rfl⟩ := List.exists_cons_of_ne_nil hf
  refine ⟨fun d hd => hfront.1 d hd, fun d hd => hback.2 d ?_⟩
  rw [List.getLast?_append, List.getLast?_append, List.getLast?_eq_some_getLast hb] at hd
  rw [List.getLast?_eq_some_getLast hb]
  exact hd

/-! ## §2. Blanks in front of a text. -/

/-- Blank characters only, if any. -/
def AllBlank (cs : List Char) : Prop := ∀ c ∈ cs, isBlankChar c = true

theorem allBlank_nil : AllBlank [] := fun _ hc => absurd hc List.not_mem_nil

/-- What is cut off at the start are blank characters. -/
theorem append_stripStart (cs : List Char) : ∃ blanks, cs = blanks ++ stripStart cs ∧ AllBlank blanks :=
  ⟨cs.takeWhile isBlankChar, List.takeWhile_append_dropWhile.symm,
    fun c hc => List.all_eq_true.mp List.all_takeWhile c hc⟩

theorem stripStart_append {blanks : List Char} (h : AllBlank blanks) (cs : List Char) :
    stripStart (blanks ++ cs) = stripStart cs := List.dropWhile_append_of_pos h

theorem stripChars_blanks {blanks : List Char} (h : AllBlank blanks) (cs : List Char) :
    stripChars (blanks ++ cs) = stripChars cs := by
  unfold stripChars
  rw [stripStart_append h]

/-- A character stays in front of what is left at its end, or is part of the blanks there. -/
theorem stripEnd_cons (c : Char) (cs : List Char) :
    stripEnd (c :: cs)
      = if (stripEnd cs).isEmpty && isBlankChar c then [] else c :: stripEnd cs := by
  unfold stripEnd
  rw [List.reverse_cons, List.dropWhile_append, List.isEmpty_reverse]
  cases hempty : (cs.reverse.dropWhile isBlankChar).isEmpty with
  | true =>
      rw [if_pos rfl, List.isEmpty_iff.mp hempty]
      cases hc : isBlankChar c with
      | true => rw [List.dropWhile_cons_of_pos hc]; rfl
      | false => rw [List.dropWhile_cons_of_neg (by rw [hc]; exact Bool.false_ne_true)]; rfl
  | false => rw [if_neg Bool.false_ne_true, List.reverse_append]; rfl

/-- What is dropped in front and the blanks at the end may be taken off in either order. -/
theorem dropWhile_stripEnd (p : Char → Bool) (cs : List Char) :
    (stripEnd cs).dropWhile p = stripEnd (cs.dropWhile p) := by
  induction cs with
  | nil => rfl
  | cons c cs ih =>
      cases hp : p c with
      | true =>
          rw [List.dropWhile_cons_of_pos hp, ← ih, stripEnd_cons]
          split
          · rename_i hblank
            rw [List.isEmpty_iff.mp ((Bool.and_eq_true _ _).mp hblank).1]
          · rw [List.dropWhile_cons_of_pos hp]
      | false =>
          have hkept : ¬ p c = true := by rw [hp]; exact Bool.false_ne_true
          rw [List.dropWhile_cons_of_neg hkept, stripEnd_cons]
          split
          · rfl
          · rw [List.dropWhile_cons_of_neg hkept]

/-- It does not matter which end is trimmed first. -/
theorem stripStart_stripEnd (cs : List Char) : stripStart (stripEnd cs) = stripChars cs :=
  dropWhile_stripEnd isBlankChar cs

/-- So may blanks that are left out all over a text. -/
theorem filter_stripEnd {q : Char → Bool} (hq : ∀ c, q c = false → isBlankChar c = true)
    (cs : List Char) : (stripEnd cs).filter q = stripEnd (cs.filter q) := by
  induction cs with
  | nil => rfl
  | cons c cs ih =>
      cases hc : q c with
      | true =>
          -- What is left ends visibly, and a visible character is never left out.
          have hsome : ((stripEnd cs).filter q).isEmpty = (stripEnd cs).isEmpty := by
            rw [Bool.eq_iff_iff, List.isEmpty_iff, List.isEmpty_iff, List.filter_eq_nil_iff]
            refine ⟨fun hall => ?_, fun hnil d hd => by rw [hnil] at hd; cases hd⟩
            by_contra hne
            have hlast := List.getLast_mem hne
            have hvisible := getLast?_stripEnd (List.getLast?_eq_some_getLast hne)
            rw [hq _ (by rw [← Bool.not_eq_true]; exact hall _ hlast)] at hvisible
            cases hvisible
          rw [List.filter_cons_of_pos hc, stripEnd_cons, stripEnd_cons, ← ih, hsome]
          split
          · rfl
          · rw [List.filter_cons_of_pos hc]
      | false =>
          have hleft : ¬ q c = true := by rw [hc]; exact Bool.false_ne_true
          rw [List.filter_cons_of_neg hleft, stripEnd_cons, hq c hc, Bool.and_true, ← ih]
          split
          · rename_i hempty
            rw [List.isEmpty_iff.mp hempty]
          · rw [List.filter_cons_of_neg hleft]

/-- Up to a visible character nothing is taken off at the end. -/
theorem stripEnd_behind {c : Char} (hc : isBlankChar c = false) (front cs : List Char) :
    stripEnd (front ++ c :: cs) = front ++ c :: stripEnd cs := by
  induction front with
  | nil => rw [List.nil_append, List.nil_append, stripEnd_cons, hc, Bool.and_false,
      if_neg Bool.false_ne_true]
  | cons d front ih =>
      have hsome : (front ++ c :: stripEnd cs).isEmpty = false := by cases front <;> rfl
      rw [List.cons_append, List.cons_append, stripEnd_cons, ih, hsome, Bool.false_and,
        if_neg Bool.false_ne_true]

/-- A text that ends visibly is only trimmed at its start. -/
theorem stripChars_of_trimmed_end {cs : List Char}
    (h : ∀ c, (stripStart cs).getLast? = some c → isBlankChar c = false) :
    stripChars cs = stripStart cs := by
  have htrimmed : Trimmed (stripStart cs) := ⟨fun _ hc => head?_stripStart hc, h⟩
  calc stripChars cs = stripEnd (stripStart cs) := rfl
    _ = stripEnd (stripStart (stripStart cs)) := by rw [stripStart_of_head htrimmed.1]
    _ = stripStart cs := stripChars_of_trimmed htrimmed

/-! ## §3. Texts. -/

@[simp] theorem toList_strip (s : String) : (strip s).toList = stripChars s.toList :=
  String.toList_ofList

/-- Trimming adds nothing. -/
theorem mem_of_mem_strip {c : Char} {s : String} (h : c ∈ (strip s).toList) : c ∈ s.toList := by
  rw [toList_strip] at h
  exact (stripChars_sublist s.toList).subset h

/-- Trimming makes nothing longer. -/
theorem length_strip_le (s : String) : (strip s).length ≤ s.length := by
  rw [← String.length_toList, toList_strip, ← String.length_toList]
  exact (stripChars_sublist s.toList).length_le

theorem strip_of_trimmed {s : String} (h : Trimmed s.toList) : strip s = s := by
  unfold strip
  rw [stripChars_of_trimmed h, String.ofList_toList]

@[simp] theorem strip_strip (s : String) : strip (strip s) = strip s := by
  apply strip_of_trimmed
  rw [toList_strip]
  exact stripChars_trimmed s.toList

theorem stripChars_eq_nil_iff (cs : List Char) :
    stripChars cs = [] ↔ ∀ c ∈ cs, isBlankChar c = true := by
  constructor
  · intro h
    obtain ⟨blanks, heq, hblank⟩ := stripEnd_append (stripStart cs)
    rw [show stripEnd (stripStart cs) = stripChars cs from rfl, h, List.nil_append] at heq
    have hstart : stripStart cs = [] := by
      cases hs : stripStart cs with
      | nil => rfl
      | cons c rest =>
          have hvisible := @head?_stripStart cs c (by rw [hs]; rfl)
          have hc := hblank c (by rw [← heq, hs]; exact List.mem_cons_self)
          rw [hvisible] at hc
          exact absurd hc Bool.false_ne_true
    exact List.dropWhile_eq_nil_iff.mp hstart
  · intro h
    have hstart : stripStart cs = [] := List.dropWhile_eq_nil_iff.mpr h
    unfold stripChars
    rw [hstart]
    rfl

theorem isBlank_iff (s : String) : isBlank s = true ↔ ∀ c ∈ s.toList, isBlankChar c = true :=
  List.all_eq_true

/-- A text with a visible character is not blank. -/
theorem isBlank_of_visible {s : String} {c : Char} (h : c ∈ s.toList) (hc : isBlankChar c = false) :
    isBlank s = false := by
  rw [Bool.eq_false_iff, Ne, isBlank_iff]
  intro hall
  rw [hall c h] at hc
  cases hc

/-- A text is blank exactly when nothing is left of it. -/
theorem isEmpty_strip (s : String) : (strip s).isEmpty = isBlank s := by
  rw [Bool.eq_iff_iff, String.isEmpty_iff, ← String.toList_eq_nil_iff, toList_strip,
    stripChars_eq_nil_iff, isBlank_iff]

end Syllabus.Text

namespace Syllabus.Url

/-- A web address stays one when it is trimmed. -/
@[simp] theorem isWeb_strip (s : String) : isWeb (Text.strip s) = isWeb s := by
  unfold isWeb
  rw [Text.strip_strip]

end Syllabus.Url
