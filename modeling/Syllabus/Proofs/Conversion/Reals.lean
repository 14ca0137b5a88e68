/-
  Syllabus.Proofs.Conversion.Reals
  ────────────────────────────────
  **WHICH TEXTS ARE READ AS NOT A NUMBER.**

  A real number is read from its digits or from a word.  Digits are a number,
  however many there are, and at worst an infinite one.  So "not a number" is
  read from its own word only: three letters of either case, behind a sign or
  none, with padding around them.

      scaled_ne_nan         digits with an exponent are a number
      plainSpelling_padded  padding is left out
      SpellsNaN             how "not a number" is written
      readReal?_nan         it is read from these texts and from no others
-/
import Mathlib.Data.Bool.AllAny
import Mathlib.Data.List.DropRight
import Syllabus.Proofs.Conversion.Digits
import Syllabus.Proofs.Url.Opening

namespace Syllabus

/-! ## §1. Digits are a number. -/

theorem Binary64.ofRatio_ne_nan (negative : Bool) (num den : Nat) :
    ofRatio negative num den ≠ .nan := by
  -- Whatever it is rounded to, the result is infinite or finite.
  have hkind : ∀ (m : Nat) (exponent : Int), (if greatestExponent < exponent then .infinite negative
      else .finite negative m exponent) ≠ nan := by
    intro m exponent
    split <;> exact nofun
  unfold ofRatio
  split
  · exact nofun
  · exact hkind _ _

theorem Decimal.scaled_ne_nan (negative : Bool) (value : Nat) (power : Int) :
    scaled negative value power ≠ .nan := by
  unfold scaled
  split
  · exact nofun
  · dsimp only
    split
    · exact nofun
    · split
      · exact nofun
      · split <;> exact Binary64.ofRatio_ne_nan _ _ _

namespace Text

theorem takeReal?_ne_nan (negative : Bool) (cs : List Char) : takeReal? negative cs ≠ some .nan := by
  unfold takeReal?
  dsimp only
  split
  all_goals
    intro h
    split at h
    · cases h
    · obtain ⟨power, -, hpower⟩ := Option.map_eq_some_iff.mp h
      exact Decimal.scaled_ne_nan _ _ _ hpower

/-! ## §2. Padding. -/

/-- Around the plain spelling of a numeral there is padding. -/
theorem plainSpelling_between (s : String) : ∃ before after,
    s.toList.map plainChar = before ++ (plainSpelling s ++ after)
      ∧ ∀ c ∈ before ++ after, isPad c = true := by
  refine ⟨(s.toList.map plainChar).takeWhile isPad,
    ((s.toList.map plainChar).dropWhile isPad).rtakeWhile isPad, ?_, ?_⟩
  · show _ = _ ++ (((s.toList.map plainChar).dropWhile isPad).rdropWhile isPad ++ _)
    rw [List.rdropWhile_append_rtakeWhile, List.takeWhile_append_dropWhile]
  · intro c hc
    rcases List.mem_append.mp hc with hbefore | hafter
    · exact List.mem_takeWhile_imp hbefore
    · exact List.mem_rtakeWhile_imp hafter

/-- Padding is left out. -/
theorem plainSpelling_padded {s : String} {before core after : List Char}
    (hs : s.toList.map plainChar = before ++ (core ++ after))
    (hpads : ∀ c ∈ before ++ after, isPad c = true) (hcore : ∀ c ∈ core, isPad c = false)
    (hne : core ≠ []) : plainSpelling s = core := by
  have hstart : (core ++ after).dropWhile isPad = core ++ after := by
    obtain ⟨c, rest, rfl⟩ := List.exists_cons_of_ne_nil hne
    rw [List.cons_append, List.dropWhile_cons_of_neg]
    rw [hcore c List.mem_cons_self]
    exact Bool.false_ne_true
  have hend : core.reverse.dropWhile isPad = core.reverse := by
    obtain ⟨c, rest, hrest⟩ := List.exists_cons_of_ne_nil (mt List.reverse_eq_nil_iff.mp hne)
    have hc : c ∈ core := by
      rw [← List.mem_reverse, hrest]
      exact List.mem_cons_self
    rw [hrest, List.dropWhile_cons_of_neg]
    rw [hcore c hc]
    exact Bool.false_ne_true
  unfold plainSpelling
  dsimp only
  rw [hs, List.dropWhile_append_of_pos fun c hc => hpads c (List.mem_append_left _ hc), hstart,
    List.reverse_append, List.dropWhile_append_of_pos fun c hc => hpads c
      (List.mem_append_right _ (List.mem_reverse.mp hc)), hend, List.reverse_reverse]

/-! ## §3. Signs and underscores. -/

/-- A sign, or none. -/
def signs : List (List Char) := [[], ['+'], ['-']]

/-- A sign is taken off, if there is one. -/
theorem takeSign_split? (cs : List Char) : ∃ sign ∈ signs, cs = sign ++ (takeSign cs).2 := by
  unfold takeSign
  split
  · exact ⟨['-'], by decide, rfl⟩
  · exact ⟨['+'], by decide, rfl⟩
  · exact ⟨[], by decide, rfl⟩

theorem takeSign_append {sign cs : List Char} (hsign : sign ∈ signs)
    (hcs : ∀ c, cs.head? = some c → c ≠ '+' ∧ c ≠ '-') : (takeSign (sign ++ cs)).2 = cs := by
  simp only [signs, List.mem_cons, List.not_mem_nil, or_false] at hsign
  rcases hsign with rfl | rfl | rfl
  · rw [List.nil_append]
    unfold takeSign
    split
    · exact absurd rfl (hcs '-' rfl).2
    · exact absurd rfl (hcs '+' rfl).1
    · rfl
  · rfl
  · rfl

/-- An underscore that is in its place is next to a digit. -/
theorem digit_of_grouped {cs : List Char} : ∀ before, groupedAfter before cs = true → '_' ∈ cs →
    ∃ c ∈ cs, c.isDigit = true := by
  induction cs with
  | nil => intro _ _ hmem; exact absurd hmem List.not_mem_nil
  | cons d rest ih =>
      intro before h hmem
      unfold groupedAfter at h
      split at h
      · rename_i heq
        cases heq
      · rename_i c more heq
        cases heq
        rw [Bool.and_eq_true, Bool.and_eq_true] at h
        exact ⟨c, List.mem_cons_of_mem _ List.mem_cons_self, h.1.2⟩
      · rename_i c more hnot heq
        cases heq
        rw [Bool.and_eq_true, bne_iff_ne] at h
        have hrest := (List.mem_cons.mp hmem).resolve_left (Ne.symm h.1)
        obtain ⟨e, he, hdigit⟩ := ih _ h.2 hrest
        exact ⟨e, List.mem_cons_of_mem _ he, hdigit⟩

/-- Where no digit is, there is no underscore to leave out. -/
theorem ungrouped_of_no_digit {cs : List Char} (h : wellGrouped cs = true)
    (hdigits : ∀ c ∈ ungrouped cs, c.isDigit = false) : ungrouped cs = cs := by
  refine List.filter_eq_self.mpr fun c hc => bne_iff_ne.mpr ?_
  rintro rfl
  obtain ⟨d, hd, hdigit⟩ := digit_of_grouped _ h hc
  have hline : (d != '_') = true := by
    rw [bne_iff_ne]
    rintro rfl
    exact absurd hdigit (by decide)
  rw [hdigits d (List.mem_filter.mpr ⟨hd, hline⟩)] at hdigit
  cases hdigit

/-! ## §4. The word. -/

/-- The letters of the word, in either case. -/
theorem letter_of_toLower {c : Char} (h : c.toLower ∈ ['n', 'a']) : c ∈ ['n', 'N', 'a', 'A'] := by
  rcases Url.toLower_cases c with hsame | ⟨⟨hfirst, hlast⟩, hlower⟩
  · rw [hsame] at h
    rcases List.mem_cons.mp h with rfl | h
    · decide
    · rw [List.mem_singleton.mp h]
      decide
  · have hcode : c.toNat = 'N'.toNat ∨ c.toNat = 'A'.toNat := by
      have hn : 'n'.toNat = 110 ∧ 'a'.toNat = 97 ∧ 'N'.toNat = 78 ∧ 'A'.toNat = 65 := by decide
      rcases List.mem_cons.mp h with h | h
      · rw [h] at hlower
        omega
      · rw [List.mem_singleton.mp h] at hlower
        omega
    rcases hcode with hcode | hcode
    · rw [show c = 'N' from Char.toNat_inj.mp hcode]
      decide
    · rw [show c = 'A' from Char.toNat_inj.mp hcode]
      decide

/-- What the word and its sign are made of. -/
def wordChars : List Char := ['+', '-', 'n', 'N', 'a', 'A']

theorem plain_of_wordChar {c : Char} (h : c ∈ wordChars) : IsPlainVisible c := by
  have hall : ∀ c ∈ wordChars, 0x21 ≤ c.toNat ∧ c.toNat ≤ 0x7E :=
    List.all_iff_forall_prop.mp (by decide)
  exact hall c h

theorem not_digit_of_wordChar {c : Char} (h : c ∈ wordChars) : c.isDigit = false ∧ c ≠ '_' := by
  have hall : ∀ c ∈ wordChars, c.isDigit = false ∧ c ≠ '_' :=
    List.all_iff_forall_prop.mp (by decide)
  exact hall c h

/-- Only these characters themselves become such characters in plain spelling. -/
theorem plainChar_of_wordChar {c : Char} (h : plainChar c ∈ wordChars) : plainChar c = c := by
  unfold plainChar at h ⊢
  split at h
  · rename_i hplain
    rw [if_pos hplain]
  · split at h
    · exact absurd h (by decide)
    · split at h
      · rename_i d hd
        obtain ⟨_, _, _, hlt⟩ := decimalValue?_eq_some hd
        have hdigit := (not_digit_of_wordChar h).1
        rw [(digitChar_plain d hlt).1] at hdigit
        cases hdigit
      · exact absurd h (by decide)

/-- The word for "not a number" behind a sign or none. -/
structure IsNaNWord (sign word : List Char) : Prop where
  /-- There is one sign at most. -/
  sign : sign ∈ signs
  /-- The letters may be large or small. -/
  word : word.map Char.toLower = ['n', 'a', 'n']

theorem IsNaNWord.chars {sign word : List Char} (h : IsNaNWord sign word) :
    ∀ c ∈ sign ++ word, c ∈ wordChars := by
  intro c hc
  rcases List.mem_append.mp hc with hsign | hword
  · have hall : ∀ sign ∈ signs, sign ⊆ wordChars := by decide
    exact hall sign h.sign hsign
  · have hlower : c.toLower ∈ ['n', 'a', 'n'] := by
      rw [← h.word]
      exact List.mem_map_of_mem hword
    have hletter : c.toLower ∈ ['n', 'a'] := by
      simp only [List.mem_cons, List.not_mem_nil, or_false] at hlower ⊢
      tauto
    exact List.mem_cons_of_mem _ (List.mem_cons_of_mem _ (letter_of_toLower hletter))

/-- A text spells "not a number". -/
def SpellsNaN (s : String) : Prop := ∃ before sign word after,
  s.toList = before ++ ((sign ++ word) ++ after) ∧ IsNaNWord sign word
    ∧ ∀ c ∈ before ++ after, isPad (plainChar c) = true

/-- What is read as "not a number" is the word in plain spelling. -/
theorem word_of_readReal? {s : String} (h : readReal? s = some .nan) :
    ∃ sign word, plainSpelling s = sign ++ word ∧ IsNaNWord sign word := by
  unfold readReal? at h
  dsimp only at h
  split at h
  · cases h
  · rename_i hgrouped
    rw [Bool.not_eq_true, Bool.not_eq_false'] at hgrouped
    obtain ⟨sign, hsign, hsplit⟩ := takeSign_split? (ungrouped (plainSpelling s))
    split at h
    · cases h
    · split at h
      · rename_i hnan
        have hword : IsNaNWord sign (takeSign (ungrouped (plainSpelling s))).2 := by
          refine ⟨hsign, ?_⟩
          have hchars := congrArg String.toList hnan
          rwa [String.toList_ofList] at hchars
        refine ⟨sign, _, ?_, hword⟩
        -- An underscore would stand next to a digit, and the word has none.
        have hnodigit : ∀ c ∈ ungrouped (plainSpelling s), c.isDigit = false := by
          intro c hc
          rw [hsplit] at hc
          exact (not_digit_of_wordChar (hword.chars c hc)).1
        rw [← hsplit]
        exact (ungrouped_of_no_digit hgrouped hnodigit).symm
      · exact absurd h (takeReal?_ne_nan _ _)

/-- The word in plain spelling is read as "not a number". -/
theorem readReal?_word {s : String} {sign word : List Char} (hplain : plainSpelling s = sign ++ word)
    (hword : IsNaNWord sign word) : readReal? s = some .nan := by
  have hbare : ∀ c ∈ sign ++ word, c ≠ '_' := fun c hc => (not_digit_of_wordChar (hword.chars c hc)).2
  have hungrouped : ungrouped (sign ++ word) = sign ++ word :=
    List.filter_eq_self.mpr fun c hc => bne_iff_ne.mpr (hbare c hc)
  have hfirst : ∀ c, word.head? = some c → c ≠ '+' ∧ c ≠ '-' := by
    intro c hc
    have hlower := congrArg List.head? hword.word
    rw [List.head?_map, hc] at hlower
    have hn : c.toLower = 'n' := Option.some.inj hlower
    refine ⟨?_, ?_⟩ <;> rintro rfl <;> exact absurd hn (by decide)
  unfold readReal?
  dsimp only
  rw [hplain, wellGrouped_bare hbare, hungrouped, takeSign_append hword.sign hfirst, hword.word,
    if_neg (by decide), if_neg (by decide), if_pos (by decide)]

/-- **"Not a number" is read from its own word only.** -/
theorem readReal?_nan (s : String) : readReal? s = some .nan ↔ SpellsNaN s := by
  constructor
  · intro h
    obtain ⟨sign, word, hplain, hword⟩ := word_of_readReal? h
    obtain ⟨before, after, hs, hpads⟩ := plainSpelling_between s
    rw [hplain] at hs
    obtain ⟨before', rest, hsplit, rfl, hrest⟩ := List.map_eq_append_iff.mp hs
    obtain ⟨core, after', rfl, hcore, rfl⟩ := List.map_eq_append_iff.mp hrest
    -- The characters of the word are the same in the text.
    have hsame : core.map plainChar = core := by
      refine (List.map_congr_left fun c hc => ?_).trans (List.map_id core)
      refine plainChar_of_wordChar (hword.chars _ ?_)
      rw [← hcore]
      exact List.mem_map_of_mem hc
    rw [hsame] at hcore
    refine ⟨before', sign, word, after', by rw [hsplit, hcore], hword, ?_⟩
    intro c hc
    rw [← List.map_append] at hpads
    exact hpads _ (List.mem_map_of_mem hc)
  · rintro ⟨before, sign, word, after, hs, hword, hpads⟩
    have hplain : ∀ c ∈ sign ++ word, IsPlainVisible c := fun c hc => plain_of_wordChar (hword.chars c hc)
    have hsame : (sign ++ word).map plainChar = sign ++ word :=
      (List.map_congr_left fun c hc => plainChar_of_plain (hplain c hc)).trans (List.map_id _)
    have hmapped : s.toList.map plainChar
        = before.map plainChar ++ ((sign ++ word) ++ after.map plainChar) := by
      rw [hs, List.map_append, List.map_append, hsame]
    refine readReal?_word (plainSpelling_padded hmapped ?_
      (fun c hc => isPad_of_plain (hplain c hc)) ?_) hword
    · rw [← List.map_append]
      intro c hc
      obtain ⟨d, hd, rfl⟩ := List.mem_map.mp hc
      exact hpads d hd
    · intro hnil
      have hlength := congrArg List.length hword.word
      rw [(List.append_eq_nil_iff.mp hnil).2] at hlength
      cases hlength

example : readReal? "\u00a0-NaN\n" = some .nan := by decide

end Text

end Syllabus
