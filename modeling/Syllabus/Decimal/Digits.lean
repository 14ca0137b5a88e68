/-
  Syllabus.Decimal.Digits
  ───────────────────────
  **DECIMAL DIGIT STRINGS AND THEIR VALUES.**

  A natural number is read from its digits by `ofDigits` (most significant
  first) and written back by `digits`; `decimal` adds the sign of an integer.
  `scaled` is the double nearest `value · 10^power`, the meaning of a numeral
  with a fraction or an exponent.
-/
import Syllabus.Binary64

namespace Syllabus.Decimal

/-! ## §1. Digits. -/

/-- The value of decimal digits, the most significant first. -/
def ofDigits (ds : List Nat) : Nat := ds.foldl (fun n d => 10 * n + d) 0

/-- The digits of a natural number, the most significant first; `0` has the one digit `0`. -/
def digits (n : Nat) : List Char := Nat.toDigits 10 n

/-- The number of decimal digits of `n`. -/
def width (n : Nat) : Nat := (digits n).length

/-- An integer in decimal, with a minus sign when it is negative. -/
def decimal (n : Int) : String := toString n

/-! ## §2. Scaled values. -/

/-- No finite double reaches `10^310`. -/
def overflowPower : Int := 310

/-- Every positive number below `10^(-330)` rounds to zero. -/
def underflowPower : Int := -330

/-- The double nearest `± value · 10^power`.  A number that is plainly too large or too small is
settled by its size, so that no huge power of ten is ever computed. -/
def scaled (negative : Bool) (value : Nat) (power : Int) : Binary64 :=
  if value = 0 then .zero negative
  else
    let size := (width value : Int) + power
    if overflowPower < size then .infinite negative
    else if size < underflowPower then .zero negative
    else if 0 ≤ power then .ofRatio negative (value * Nat.pow 10 power.toNat) 1
    else .ofRatio negative value (Nat.pow 10 (-power).toNat)

end Syllabus.Decimal
