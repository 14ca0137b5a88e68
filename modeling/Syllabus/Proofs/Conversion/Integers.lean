/-
  Syllabus.Proofs.Conversion.Integers
  ───────────────────────────────────
  **TWO READERS OF WHOLE NUMBERS NEVER DISAGREE.**

  The review of a course reads an index as people write numbers: padded, with
  a sign, in the digits of any script.  The conversion of an item reads JSON
  numerals, and takes a fraction or an exponent if the value is whole.  Each
  accepts texts that the other refuses, but where both give a number it is the
  same one:

      integer_eq_readInt   no index passes the review and changes on the way

  A JSON numeral starts with a sign and digits.  If that is all of it, both
  readers take these digits; if a point or an `e` follows, the review refuses
  it.
-/
import Mathlib.Data.List.TakeWhile
import Syllabus.Conversion

namespace Syllabus

namespace Text

/-! ## §1. Characters that every reader leaves alone. -/

/-- A visible character of plain spelling. -/
def IsPlainVisible (c : Char) : Prop := 0x21 ≤ c.toNat ∧ c.toNat ≤ 0x7E

theorem isBlankChar_of_plain {c : Char} (h : IsPlainVisible c) : isBlankChar c = false := by
  obtain ⟨hlow, hhigh⟩ := h
  simp only [isBlankChar, inRanges, blankRanges, List.any_cons, List.any_nil, Bool.or_false,
    Bool.or_eq_false_iff, Bool.and_eq_false_iff, decide_eq_false_iff_not]
  omega

theorem plainChar_of_plain {c : Char} (h : IsPlainVisible c) : plainChar c = c := by
  unfold plainChar
  rw [if_pos]
  have hhigh := h.2
  omega

theorem isPad_of_plain {c : Char} (h : IsPlainVisible c) : isPad c = false := by
  obtain ⟨hlow, hhigh⟩ := h
  have hspace : c ≠ ' ' := by
    intro hc
    rw [hc] at hlow
    exact absurd hlow (by decide)
  have htop : '\r'.toNat = 0xD := by decide
  unfold isPad
  rw [decide_eq_false hspace, Bool.false_or, Bool.and_eq_false_iff]
  right
  rw [decide_eq_false_iff_not]
  omega

theorem plain_of_isDigit {c : Char} (h : c.isDigit = true) : IsPlainVisible c := by
  simp only [Char.isDigit, Bool.and_eq_true, decide_eq_true_eq, ge_iff_le, UInt32.le_iff_toNat_le] at h
  obtain ⟨hlow, hhigh⟩ := h
  have hval : c.val.toNat = c.toNat := rfl
  have hzero : '0'.val.toNat = 48 := by decide
  have hnine : '9'.val.toNat = 57 := by decide
  unfold IsPlainVisible
  omega

/-! ## §2. Trimming stops at a visible character. -/

theorem dropWhile_of_plain {p : Char → Bool} {pre ys : List Char} {x : Char}
    (hpre : ∀ c ∈ pre, p c = false) (hx : p x = false) :
    (pre ++ x :: ys).dropWhile p = pre ++ x :: ys := by
  cases pre with
  | nil => rw [List.nil_append, List.dropWhile_cons, if_neg (by rw [hx]; decide)]
  | cons c pre =>
      rw [List.cons_append, List.dropWhile_cons, if_neg]
      rw [hpre c List.mem_cons_self]
      decide

theorem trimEnd_of_plain {p : Char → Bool} {x : Char} (hx : p x = false) (pre ys : List Char) :
    ∃ zs, ((pre ++ x :: ys).reverse.dropWhile p).reverse = pre ++ x :: zs ∧ (ys = [] → zs = []) := by
  rw [List.reverse_append, List.reverse_cons, List.append_assoc, List.singleton_append,
    List.dropWhile_append]
  split
  · refine ⟨[], ?_, fun _ => rfl⟩
    rw [List.dropWhile_cons, if_neg (by rw [hx]; decide), List.reverse_cons, List.reverse_reverse]
  · refine ⟨(ys.reverse.dropWhile p).reverse, ?_, ?_⟩
    · rw [List.reverse_append, List.reverse_cons, List.reverse_reverse, List.append_assoc,
        List.singleton_append]
    · intro hys
      rw [hys]
      rfl

/-- The plain spelling of a trimmed text keeps everything up to a visible character. -/
theorem plainSpelling_strip {s : String} {pre ys : List Char} {x : Char}
    (hs : s.toList = pre ++ x :: ys) (hpre : ∀ c ∈ pre, IsPlainVisible c) (hx : IsPlainVisible x) :
    ∃ zs, plainSpelling (strip s) = pre ++ x :: zs ∧ (ys = [] → zs = []) := by
  obtain ⟨trimmed, htrim, hnone⟩ := trimEnd_of_plain (isBlankChar_of_plain hx) pre ys
  have hstrip : (strip s).toList = pre ++ x :: trimmed := by
    unfold strip
    rw [String.toList_ofList, hs]
    show stripEnd ((pre ++ x :: ys).dropWhile isBlankChar) = _
    rw [dropWhile_of_plain (fun c hc => isBlankChar_of_plain (hpre c hc)) (isBlankChar_of_plain hx)]
    exact htrim
  have hmap : (pre ++ x :: trimmed).map plainChar = pre ++ x :: trimmed.map plainChar := by
    rw [List.map_append, List.map_cons, plainChar_of_plain hx,
      List.map_congr_left fun c hc => plainChar_of_plain (hpre c hc), List.map_id']
  -- The text is trimmed twice, before and after its characters are spelled plainly.
  obtain ⟨spelled, hspell, hnone'⟩ := trimEnd_of_plain (isPad_of_plain hx) pre
    (trimmed.map plainChar)
  refine ⟨spelled, ?_, fun hys => hnone' (by rw [hnone hys]; rfl)⟩
  unfold plainSpelling
  rw [hstrip, hmap, dropWhile_of_plain (fun c hc => isPad_of_plain (hpre c hc)) (isPad_of_plain hx)]
  exact hspell

/-! ## §3. Digits. -/

theorem takeWhile_digits {whole rest : List Char} (h : ∀ c ∈ whole, c.isDigit = true)
    (hrest : ∀ x ys, rest = x :: ys → x.isDigit = false ∧ x ≠ '_') :
    (whole ++ rest).takeWhile (fun c => c.isDigit || c = '_') = whole := by
  induction whole with
  | nil =>
      cases rest with
      | nil => rfl
      | cons x ys =>
          obtain ⟨hdigit, hline⟩ := hrest x ys rfl
          rw [List.nil_append, List.takeWhile_cons, if_neg]
          rw [hdigit, decide_eq_false hline]
          decide
  | cons c whole ih =>
      rw [List.cons_append, List.takeWhile_cons, if_pos, ih fun d hd => h d (List.mem_cons_of_mem c hd)]
      rw [h c List.mem_cons_self, Bool.true_or]

/-- A text without underscores is grouped well. -/
theorem wellGrouped_bare {cs : List Char} (h : ∀ c ∈ cs, c ≠ '_') : wellGrouped cs = true := by
  have hgroup : ∀ before, groupedAfter before cs = true := by
    induction cs with
    | nil => intro before; rfl
    | cons c cs ih =>
        intro before
        have hc := h c List.mem_cons_self
        unfold groupedAfter
        split
        · rfl
        · rename_i heq
          exact absurd (List.cons.inj heq).1 hc
        · rename_i heq
          rw [← (List.cons.inj heq).1, ← (List.cons.inj heq).2, ih fun d hd =>
            h d (List.mem_cons_of_mem c hd), Bool.and_true, bne_iff_ne]
          exact hc
  exact hgroup false

theorem wellGrouped_digits {whole : List Char} (h : ∀ c ∈ whole, c.isDigit = true) :
    wellGrouped whole = true := by
  refine wellGrouped_bare ?_
  intro c hc heq
  have hdigit := h c hc
  rw [heq] at hdigit
  exact absurd hdigit (by decide)

/-- A sign as it is written. -/
def signChars (negative : Bool) : List Char := if negative then ['-'] else []

theorem plain_of_mem_sign {negative : Bool} : ∀ c ∈ signChars negative, IsPlainVisible c := by
  cases negative with
  | true =>
      intro c hc
      rw [List.mem_singleton.mp hc]
      unfold IsPlainVisible
      decide
  | false => intro c hc; exact absurd hc List.not_mem_nil

theorem takeSign_digits {negative : Bool} {d : Char} {cs : List Char} (hd : d.isDigit = true) :
    takeSign (signChars negative ++ d :: cs) = (negative, d :: cs) := by
  cases negative with
  | true => rfl
  | false =>
      show takeSign (d :: cs) = _
      unfold takeSign
      split
      · rename_i heq
        rw [(List.cons.inj heq).1] at hd
        exact absurd hd (by decide)
      · rename_i heq
        rw [(List.cons.inj heq).1] at hd
        exact absurd hd (by decide)
      · rfl

/-- What may follow the digits of a JSON numeral. -/
def fractionMarks : List Char := ['.', 'e', 'E']

theorem of_mem_fractionMarks {c : Char} (h : c ∈ fractionMarks) :
    IsPlainVisible c ∧ c.isDigit = false ∧ c ≠ '_' := by
  unfold IsPlainVisible
  simp only [fractionMarks, List.mem_cons, List.not_mem_nil, or_false] at h
  rcases h with rfl | rfl | rfl <;> decide

section Numeral

variable {s : String} {negative : Bool} {whole rest : List Char}

/-- The plain spelling of a trimmed numeral is its sign, its digits, and something that starts with
the same mark, if there is one. -/
theorem plainSpelling_numeral (hs : s.toList = signChars negative ++ (whole ++ rest))
    (hne : whole ≠ []) (hwhole : ∀ c ∈ whole, c.isDigit = true)
    (hrest : ∀ x ys, rest = x :: ys → x ∈ fractionMarks) :
    ∃ tail, plainSpelling (strip s) = signChars negative ++ (whole ++ tail)
      ∧ (tail = [] → rest = []) ∧ ∀ x ys, tail = x :: ys → x ∈ fractionMarks := by
  cases rest with
  | nil =>
      -- The last digit is the visible character that trimming stops at.
      obtain ⟨front, d, hsplit⟩ := (List.eq_nil_or_concat whole).resolve_left hne
      rw [List.append_nil, hsplit, List.concat_eq_append, ← List.append_assoc] at hs
      rw [hsplit, List.concat_eq_append] at hwhole
      have hfront : ∀ c ∈ signChars negative ++ front, IsPlainVisible c := by
        intro c hc
        rcases List.mem_append.mp hc with hsign | hfront
        · exact plain_of_mem_sign c hsign
        · exact plain_of_isDigit (hwhole c (List.mem_append_left _ hfront))
      have hlast := plain_of_isDigit (hwhole d (List.mem_append_right _ List.mem_cons_self))
      obtain ⟨zs, hzs, hnil⟩ := plainSpelling_strip hs hfront hlast
      refine ⟨[], ?_, fun _ => rfl, fun x ys h => absurd h (by simp)⟩
      rw [hzs, hnil rfl, List.append_nil, hsplit, List.concat_eq_append, List.append_assoc]
  | cons x ys =>
      -- Here it is the mark.
      have hx := hrest x ys rfl
      rw [← List.append_assoc] at hs
      have hfront : ∀ c ∈ signChars negative ++ whole, IsPlainVisible c := by
        intro c hc
        rcases List.mem_append.mp hc with hsign | hdigit
        · exact plain_of_mem_sign c hsign
        · exact plain_of_isDigit (hwhole c hdigit)
      obtain ⟨zs, hzs, _⟩ := plainSpelling_strip hs hfront (of_mem_fractionMarks hx).1
      refine ⟨x :: zs, by rw [hzs, List.append_assoc], fun h => absurd h (by simp), ?_⟩
      intro y zs' h
      rw [← (List.cons.inj h).1]
      exact hx

/-- A sign and digits are read as they stand; with a mark behind the digits there is no whole
number. -/
theorem readInt_strip {n : Int} (hs : s.toList = signChars negative ++ (whole ++ rest))
    (hne : whole ≠ []) (hwhole : ∀ c ∈ whole, c.isDigit = true)
    (hrest : ∀ x ys, rest = x :: ys → x ∈ fractionMarks) (hn : readInt (strip s) = .ok n) :
    rest = [] ∧ n = (let m : Int := Decimal.ofDigits (whole.filterMap plainDigit?)
      if negative then -m else m) := by
  obtain ⟨tail, hplain, hnil, htail⟩ := plainSpelling_numeral hs hne hwhole hrest
  have hrun : (whole ++ tail).takeWhile (fun c => c.isDigit || c = '_') = whole := by
    refine takeWhile_digits hwhole ?_
    intro x ys h
    exact (of_mem_fractionMarks (htail x ys h)).2
  have hsign : takeSign (signChars negative ++ (whole ++ tail)) = (negative, whole ++ tail) := by
    cases whole with
    | nil => exact absurd rfl hne
    | cons d whole => exact takeSign_digits (hwhole d List.mem_cons_self)
  -- All digits are taken, and there must be nothing behind them.
  unfold readInt at hn
  rw [hplain, hsign] at hn
  dsimp only at hn
  rw [hrun, wellGrouped_digits hwhole, if_neg (by simpa using hne)] at hn
  split at hn
  · exact absurd hn (by simp)
  · split at hn
    · exact absurd hn (by simp)
    · rename_i hlength
      have hend : tail = [] := by
        rw [List.length_append] at hlength
        exact List.length_eq_zero_iff.mp (by omega)
      exact ⟨hnil hend, (Except.ok.inj hn).symm⟩

end Numeral

end Text

/-! ## §4. JSON numerals. -/

theorem Json.wholePart_eq {cs whole rest : List Char} (h : Json.wholePart cs = some (whole, rest)) :
    cs = whole ++ rest ∧ whole ≠ [] ∧ ∀ c ∈ whole, c.isDigit = true := by
  unfold Json.wholePart at h
  split at h
  · simp only [Option.some.injEq, Prod.mk.injEq] at h
    obtain ⟨hwhole, hrest⟩ := h
    rw [← hwhole, ← hrest]
    refine ⟨rfl, List.cons_ne_nil _ _, fun c hc => ?_⟩
    rw [List.mem_singleton.mp hc]
    decide
  · dsimp only at h
    split at h
    · exact absurd h (by simp)
    · rename_i hne
      simp only [Option.some.injEq, Prod.mk.injEq] at h
      obtain ⟨hwhole, hrest⟩ := h
      rw [← hwhole, ← hrest]
      refine ⟨?_, by simpa using hne, ?_⟩
      · have hsplit : cs.takeWhile Char.isDigit ++ cs.dropWhile Char.isDigit = cs :=
          List.takeWhile_append_dropWhile
        calc cs = cs.takeWhile Char.isDigit ++ cs.dropWhile Char.isDigit := hsplit.symm
          _ = cs.takeWhile Char.isDigit
              ++ (cs.takeWhile Char.isDigit ++ cs.dropWhile Char.isDigit).drop
                (cs.takeWhile Char.isDigit).length := by rw [List.drop_left]
          _ = cs.takeWhile Char.isDigit ++ cs.drop (cs.takeWhile Char.isDigit).length := by
              rw [hsplit]
      · exact fun c hc => List.all_eq_true.mp List.all_takeWhile c hc

/-- A numeral that takes up a whole text is digits, with nothing or a mark behind them; and then
it is written as a whole number if nothing is. -/
theorem Json.takeNumeral_eq {cs : List Char} {n : Json.Numeral}
    (h : Json.takeNumeral cs = some (n, [])) :
    ∃ whole rest, cs = whole ++ rest ∧ whole ≠ [] ∧ (∀ c ∈ whole, c.isDigit = true)
      ∧ n.whole = whole.filterMap Text.plainDigit?
      ∧ (rest = [] → n.isInteger = true)
      ∧ ∀ x ys, rest = x :: ys → x ∈ Text.fractionMarks := by
  unfold Json.takeNumeral at h
  cases hwhole : Json.wholePart cs with
  | none =>
      rw [hwhole] at h
      exact absurd h (by simp)
  | some parts =>
      obtain ⟨whole, rest⟩ := parts
      obtain ⟨hcs, hne, hdigits⟩ := Json.wholePart_eq hwhole
      rw [hwhole] at h
      simp only [Option.map_some, Option.some.injEq, Prod.mk.injEq] at h
      obtain ⟨hn, hend⟩ := h
      refine ⟨whole, rest, hcs, hne, hdigits, by rw [← hn], ?_, ?_⟩
      · intro hrest
        rw [← hn, hrest]
        rfl
      · intro x ys hrest
        rw [hrest] at hend
        -- Nothing is left over, so what is behind the digits was read as a fraction or an exponent.
        by_cases hpoint : x = '.'
        · rw [hpoint]
          decide
        · have hfraction : Json.fractionPart (x :: ys) = ([], x :: ys) := by
            unfold Json.fractionPart
            split
            · rename_i heq
              exact absurd (List.cons.inj heq).1 hpoint
            · rfl
          rw [hfraction] at hend
          dsimp only [Json.exponentPart] at hend
          split at hend
          · rename_i he
            rw [Bool.or_eq_true, decide_eq_true_eq, decide_eq_true_eq] at he
            rcases he with he | he <;> rw [he] <;> decide
          · exact absurd hend (by simp)

/-! ## §5. The two readers. -/

theorem Converter.numeralOf?_eq {s : String} {negative : Bool} {n : Json.Numeral}
    (h : Converter.numeralOf? s = some (negative, n)) :
    ∃ whole rest, s.toList = Text.signChars negative ++ (whole ++ rest) ∧ whole ≠ []
      ∧ (∀ c ∈ whole, c.isDigit = true) ∧ n.whole = whole.filterMap Text.plainDigit?
      ∧ (rest = [] → n.isInteger = true) ∧ ∀ x ys, rest = x :: ys → x ∈ Text.fractionMarks := by
  have hbody : ∃ body, s.toList = Text.signChars negative ++ body
      ∧ Json.takeNumeral body = some (n, []) := by
    unfold Converter.numeralOf? at h
    split at h
    rename_i negative' body hsign
    split at h
    · rename_i n' hnumeral
      simp only [Option.some.injEq, Prod.mk.injEq] at h
      obtain ⟨hneg, hn⟩ := h
      refine ⟨body, ?_, by rw [← hn]; exact hnumeral⟩
      rw [← hneg]
      split at hsign
      · rename_i rest hs
        rw [← (Prod.mk.inj hsign).1, ← (Prod.mk.inj hsign).2, hs]
        rfl
      · rw [← (Prod.mk.inj hsign).1, ← (Prod.mk.inj hsign).2]
        rfl
    · exact absurd h (by simp)
  obtain ⟨body, hs, hnumeral⟩ := hbody
  obtain ⟨whole, rest, hcs, hrest⟩ := Json.takeNumeral_eq hnumeral
  exact ⟨whole, rest, by rw [hs, hcs], hrest⟩

/-- Where the lax conversion and the review both read a whole number, they read the same one. -/
theorem integer_eq_readInt {s : String} {a b : Int} (hlax : Converter.integer (.str s) = .ok a)
    (hreview : Text.readInt (Text.strip s) = .ok b) : a = b := by
  unfold Converter.integer at hlax
  dsimp only at hlax
  split at hlax
  · exact absurd hlax (by simp [Converter.misfit])
  · rename_i negative n hnumeral
    obtain ⟨whole, rest, hs, hne, hwhole, hn, hinteger, hrest⟩ := Converter.numeralOf?_eq hnumeral
    obtain ⟨hend, hb⟩ := Text.readInt_strip hs hne hwhole hrest hreview
    rw [if_pos (hinteger hend)] at hlax
    split at hlax
    · exact absurd hlax (by simp [Converter.misfit])
    · rw [hb, ← Except.ok.inj hlax, Json.Numeral.toInt, hn]

end Syllabus
