/-
  Syllabus.Proofs.Text.Numeral
  ────────────────────────────
  **WHAT IS IN THE TEXT OF A NUMBER.**

  A number is written with digits, behind a sign if it is negative; no other
  character is in its text.  The number can be read off again.
-/
import Mathlib.Data.List.Basic

namespace Syllabus.Text

theorem notMem_natural {c : Char} (hc : c.isDigit = false) (n : Nat) : c ∉ (toString n).toList := by
  intro h
  have hmem : c ∈ Nat.toDigits 10 n := by
    rw [← Nat.toList_repr]
    exact h
  rw [Nat.isDigit_of_mem_toDigits (by decide) (by decide) hmem] at hc
  exact absurd hc (by decide)

theorem notMem_integer {c : Char} (hc : c.isDigit = false) (hsign : c ≠ '-') (n : Int) :
    c ∉ (toString n).toList := by
  cases n with
  | ofNat n => exact notMem_natural hc n
  | negSucc n =>
      show c ∉ ("-" ++ toString (n + 1)).toList
      rw [String.toList_append, List.mem_append, not_or]
      exact ⟨by simpa using hsign, notMem_natural hc (n + 1)⟩

theorem ofDigitChars_toString (n : Nat) : Nat.ofDigitChars 10 (toString n).toList 0 = n := by
  show Nat.ofDigitChars 10 n.repr.toList 0 = n
  rw [Nat.toList_repr, Nat.ofDigitChars_ten_toDigits]

/-- Different numbers are written differently. -/
theorem natural_injective : Function.Injective fun n : Nat => toString n :=
  Function.LeftInverse.injective (g := fun s : String => Nat.ofDigitChars 10 s.toList 0)
    ofDigitChars_toString

end Syllabus.Text
