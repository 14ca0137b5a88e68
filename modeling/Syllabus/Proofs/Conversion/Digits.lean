/-
  Syllabus.Proofs.Conversion.Digits
  ─────────────────────────────────
  **WHICH DIGITS MAKE UP A NUMBER.**

  A superscript is a digit, but no decimal one.  So a text that is made of
  digits in the wide sense need not be a whole number:

      readInt_decimal    decimal digits are read, unless they are too many
      readInt_foreign    a text with any other digit in it is refused

  In plain spelling a decimal digit of any script is the plain digit of the
  same value, and any other digit a question mark.
-/
import Mathlib.Data.List.Basic
import Syllabus.Proofs.Conversion.Integers

namespace Syllabus.Text

/-! ## §1. Digits are apart from blanks. -/

theorem inRanges_iff (ranges : List (Nat × Nat)) (c : Char) :
    inRanges ranges c = true ↔ ∃ r ∈ ranges, r.1 ≤ c.toNat ∧ c.toNat ≤ r.2 := by
  simp only [inRanges, List.any_eq_true, Bool.and_eq_true, decide_eq_true_eq]

theorem decimalValue?_eq_some {c : Char} {d : Nat} (h : decimalValue? c = some d) :
    ∃ z ∈ decimalZeros, c.toNat = z + d ∧ d < 10 := by
  unfold decimalValue? at h
  obtain ⟨z, hfind, hd⟩ := Option.map_eq_some_iff.mp h
  have hrange := List.find?_some hfind
  rw [Bool.and_eq_true, decide_eq_true_eq, decide_eq_true_eq] at hrange
  refine ⟨z, List.mem_of_find?_eq_some hfind, ?_, ?_⟩ <;> omega

/-- The ranges of all digits. -/
def digitRanges : List (Nat × Nat) := (decimalZeros.map fun z => (z, z + 9)) ++ otherDigitRanges

theorem inRanges_of_isDigit {c : Char} (h : isDigit c = true) : inRanges digitRanges c = true := by
  rw [inRanges_iff]
  rcases (Bool.or_eq_true _ _).mp h with hdecimal | hother
  · obtain ⟨d, hd⟩ := Option.isSome_iff_exists.mp hdecimal
    obtain ⟨z, hz, hc, hlt⟩ := decimalValue?_eq_some hd
    refine ⟨(z, z + 9), List.mem_append_left _ (List.mem_map_of_mem hz), ?_, ?_⟩
    · show z ≤ c.toNat
      omega
    · show c.toNat ≤ z + 9
      omega
  · obtain ⟨r, hr, hbounds⟩ := (inRanges_iff _ c).mp hother
    exact ⟨r, List.mem_append_right _ hr, hbounds⟩

theorem isBlankChar_of_isDigit {c : Char} (h : isDigit c = true) : isBlankChar c = false := by
  have hapart : ∀ r ∈ digitRanges, ∀ b ∈ blankRanges, b.2 < r.1 ∨ r.2 < b.1 := by decide
  obtain ⟨r, hr, hlow, hhigh⟩ := (inRanges_iff _ c).mp (inRanges_of_isDigit h)
  rw [← Bool.not_eq_true]
  intro hblank
  obtain ⟨b, hb, hlow', hhigh'⟩ := (inRanges_iff _ c).mp hblank
  rcases hapart r hr b hb with hbefore | hafter <;> omega

/-! ## §2. Digits in plain spelling. -/

theorem digitChar_plain : ∀ d < 10, (digitChar d).isDigit = true ∧ plainDigit? (digitChar d) = some d := by
  decide

theorem plainChar_decimal {c : Char} {d : Nat} (h : decimalValue? c = some d) :
    plainChar c = digitChar d := by
  have hdigit : isDigit c = true := by
    unfold isDigit isDecimalDigit
    rw [h]
    rfl
  obtain ⟨z, hz, hc, hlt⟩ := decimalValue?_eq_some h
  unfold plainChar
  by_cases hplain : c.toNat < 0x80
  · -- The zero of this script is the plain one, and the digit stays as it is.
    have hzero : ∀ z ∈ decimalZeros, z < 0x80 → z = '0'.toNat := by decide
    rw [if_pos hplain, digitChar, ← hzero z hz (by omega), ← hc, Char.ofNat_toNat]
  · rw [if_neg hplain, isBlankChar_of_isDigit hdigit, if_neg Bool.false_ne_true, h]

theorem plainChar_foreign {c : Char} (hdigit : isDigit c = true) (h : isDecimalDigit c = false) :
    plainChar c = '?' := by
  have hother : inRanges otherDigitRanges c = true := by
    unfold isDigit at hdigit
    rw [h, Bool.false_or] at hdigit
    exact hdigit
  obtain ⟨r, hr, hlow, _⟩ := (inRanges_iff _ c).mp hother
  have hbeyond : ∀ r ∈ otherDigitRanges, 0x80 ≤ r.1 := by decide
  have hfar : ¬ c.toNat < 0x80 := by
    have := hbeyond r hr
    omega
  have hnone : decimalValue? c = none := Option.not_isSome_iff_eq_none.mp (by
    unfold isDecimalDigit at h
    rw [h]
    exact Bool.false_ne_true)
  unfold plainChar
  rw [if_neg hfar, isBlankChar_of_isDigit hdigit, if_neg Bool.false_ne_true, hnone]

theorem isPad_plainChar {c : Char} (h : isDigit c = true) : isPad (plainChar c) = false := by
  cases hc : decimalValue? c with
  | some d =>
      obtain ⟨_, _, _, hlt⟩ := decimalValue?_eq_some hc
      rw [plainChar_decimal hc]
      exact isPad_of_plain (plain_of_isDigit (digitChar_plain d hlt).1)
  | none =>
      rw [plainChar_foreign h (by rw [isDecimalDigit, hc]; rfl)]
      decide

/-- Nothing is trimmed off a text of digits. -/
theorem plainSpelling_digits {s : String} (h : ∀ c ∈ s.toList, isDigit c = true) :
    plainSpelling s = s.toList.map plainChar := by
  have hkept : ∀ cs : List Char, (∀ c ∈ cs, isPad c = false) → cs.dropWhile isPad = cs := by
    intro cs hcs
    cases cs with
    | nil => rfl
    | cons c cs => rw [List.dropWhile_cons, hcs c List.mem_cons_self, if_neg Bool.false_ne_true]
  have hpads : ∀ c ∈ s.toList.map plainChar, isPad c = false := by
    intro c hc
    obtain ⟨d, hd, rfl⟩ := List.mem_map.mp hc
    exact isPad_plainChar (h d hd)
  unfold plainSpelling
  dsimp only
  rw [hkept _ hpads, hkept _ (fun c hc => hpads c (List.mem_reverse.mp hc)), List.reverse_reverse]

/-! ## §3. Reading digits. -/

section Reading

variable {s : String} {ds rest : List Char} (hs : s.toList = ds ++ rest)
  (hdecimal : ∀ c ∈ ds, isDecimalDigit c = true)

include hdecimal

theorem plain_decimals : ∀ c ∈ ds.map plainChar, c.isDigit = true := by
  intro c hc
  obtain ⟨d, hd, rfl⟩ := List.mem_map.mp hc
  obtain ⟨n, hn⟩ := Option.isSome_iff_exists.mp (hdecimal d hd)
  obtain ⟨_, _, _, hlt⟩ := decimalValue?_eq_some hn
  rw [plainChar_decimal hn]
  exact (digitChar_plain n hlt).1

theorem values_decimals : (ds.map plainChar).filterMap plainDigit? = ds.filterMap decimalValue? := by
  rw [List.filterMap_map]
  refine List.filterMap_congr fun c hc => ?_
  obtain ⟨n, hn⟩ := Option.isSome_iff_exists.mp (hdecimal c hc)
  obtain ⟨_, _, _, hlt⟩ := decimalValue?_eq_some hn
  show plainDigit? (plainChar c) = decimalValue? c
  rw [hn, plainChar_decimal hn, (digitChar_plain n hlt).2]

theorem length_decimals : (ds.filterMap decimalValue?).length = ds.length := by
  rw [List.filterMap_length_eq_length]
  exact hdecimal

section Split

variable (hrest : ∀ c ∈ rest, isDigit c = true)
  (hhead : ∀ x ys, rest = x :: ys → isDecimalDigit x = false)

include hs hrest in
theorem plainSpelling_split : plainSpelling s = ds.map plainChar ++ rest.map plainChar := by
  have hdigits : ∀ c ∈ s.toList, isDigit c = true := by
    intro c hc
    rw [hs] at hc
    rcases List.mem_append.mp hc with hd | hr
    · unfold isDigit
      rw [hdecimal c hd, Bool.true_or]
    · exact hrest c hr
  rw [plainSpelling_digits hdigits, hs, List.map_append]

omit hdecimal in
include hrest hhead in
theorem plainChar_head : ∀ x ys, rest.map plainChar = x :: ys → x = '?' := by
  intro x ys h
  obtain ⟨c, cs, hcs, rfl, _⟩ := List.map_eq_cons_iff.mp h
  apply plainChar_foreign
  · apply hrest
    rw [hcs]
    exact List.mem_cons_self
  · exact hhead c cs hcs

include hrest hhead in
theorem takeSign_split : takeSign (ds.map plainChar ++ rest.map plainChar)
    = (false, ds.map plainChar ++ rest.map plainChar) := by
  cases ds with
  | cons d ds =>
      have hfirst := plain_decimals hdecimal _ List.mem_cons_self
      exact @takeSign_digits false _ (ds.map plainChar ++ rest.map plainChar) hfirst
  | nil =>
      cases hmapped : rest.map plainChar with
      | nil => rfl
      | cons x ys =>
          rw [plainChar_head hrest hhead x ys hmapped]
          rfl

include hs hrest hhead in
/-- Decimal digits are taken up to the first other digit, which then is in the way. -/
theorem readInt_digits :
    readInt s =
      if ds = [] then .error (.malformed s)
      else if maxDigits < ds.length then .error (.tooLong ds.length)
      else if rest = [] then .ok (Decimal.ofDigits (ds.filterMap decimalValue?) : Nat)
      else .error (.malformed s) := by
  have hmark : ∀ x ys, rest.map plainChar = x :: ys → x.isDigit = false ∧ x ≠ '_' := by
    intro x ys h
    rw [plainChar_head hrest hhead x ys h]
    decide
  have hrun : (ds.map plainChar ++ rest.map plainChar).takeWhile (fun c => c.isDigit || c = '_')
      = ds.map plainChar := takeWhile_digits (plain_decimals hdecimal) hmark
  have hlength : (ds.map plainChar).length < (ds.map plainChar ++ rest.map plainChar).length
      ↔ rest ≠ [] := by
    rw [List.length_append, List.length_map, List.length_map, ne_eq, ← List.length_eq_zero_iff]
    omega
  unfold readInt
  rw [plainSpelling_split hs hdecimal hrest, takeSign_split hdecimal hrest hhead]
  dsimp only
  rw [hrun, wellGrouped_digits (plain_decimals hdecimal), values_decimals hdecimal,
    length_decimals hdecimal]
  by_cases hempty : ds = []
  · rw [if_pos hempty, hempty]
    rfl
  · rw [if_neg hempty, if_neg (by simpa using hempty)]
    by_cases hlong : maxDigits < ds.length
    · rw [if_pos hlong, if_pos hlong]
    · rw [if_neg hlong, if_neg hlong]
      by_cases hend : rest = []
      · rw [if_pos hend, if_neg (by rw [hlength]; exact not_not_intro hend)]
        rfl
      · rw [if_neg hend, if_pos (hlength.mpr hend)]

end Split

end Reading

/-- A text that is made of decimal digits. -/
def IsDecimal (s : String) : Prop := ∀ c ∈ s.toList, isDecimalDigit c = true

instance (s : String) : Decidable (IsDecimal s) :=
  inferInstanceAs (Decidable (∀ c ∈ s.toList, isDecimalDigit c = true))

section Digits

variable {s : String} (h : isAllDigits s = true)

include h

theorem isDigit_of_isAllDigits : s ≠ "" ∧ ∀ c ∈ s.toList, isDigit c = true := by
  unfold isAllDigits at h
  rw [Bool.and_eq_true, List.all_eq_true] at h
  refine ⟨?_, h.2⟩
  rintro rfl
  exact absurd h.1 (by decide)

theorem readInt_decimal (hdecimal : IsDecimal s) :
    readInt s =
      if maxDigits < s.length then .error (.tooLong s.length)
      else .ok (Decimal.ofDigits (s.toList.filterMap decimalValue?) : Nat) := by
  obtain ⟨hne, _⟩ := isDigit_of_isAllDigits h
  have hcs : s.toList ≠ [] := fun hnil => hne (String.toList_eq_nil_iff.mp hnil)
  have hread := readInt_digits (List.append_nil s.toList).symm hdecimal
    (fun _ hc => absurd hc List.not_mem_nil) (fun _ _ hnil => absurd hnil (by simp))
  rw [hread, if_neg hcs, if_pos rfl, String.length_toList]

/-- One digit that is no decimal digit is enough. -/
theorem readInt_foreign (hforeign : ¬ IsDecimal s) : ∃ e, readInt s = .error e := by
  obtain ⟨_, hdigits⟩ := isDigit_of_isAllDigits h
  have hsplit : s.toList.takeWhile isDecimalDigit ++ s.toList.dropWhile isDecimalDigit = s.toList :=
    List.takeWhile_append_dropWhile
  have hrest : s.toList.dropWhile isDecimalDigit ≠ [] := by
    intro hnil
    apply hforeign
    intro c hc
    rw [hnil, List.append_nil] at hsplit
    rw [← hsplit] at hc
    exact List.all_eq_true.mp List.all_takeWhile c hc
  have hread := readInt_digits hsplit.symm (List.all_eq_true.mp List.all_takeWhile)
    (fun c hc => hdigits c ((List.dropWhile_sublist _).mem hc)) ?_
  · rw [hread, if_neg hrest]
    split
    · exact ⟨_, rfl⟩
    · split <;> exact ⟨_, rfl⟩
  · intro x ys hxs
    have := List.head?_dropWhile_not isDecimalDigit s.toList
    rw [hxs] at this
    simpa using this

end Digits

end Syllabus.Text
