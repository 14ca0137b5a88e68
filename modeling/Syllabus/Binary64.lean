/-
  Syllabus.Binary64
  ─────────────────
  **DOUBLE-PRECISION NUMBERS AS EXACT DATA.**

  A number with a fraction point is a 64-bit binary floating-point value.  It
  is kept here as the data that such a value stands for: a sign, a significand
  below `2^53` and a power of two.  Reading, comparing and printing are then
  exact arithmetic on natural numbers, with one place where rounding happens:

      ofRatio negative num den   the value nearest `num / den`, a tie going
                                 to the even significand

  Canonical finite values have a significand of at least `2^52`, or the least
  exponent `-1074`; `ofRatio` returns only these, so equal values are equal
  data.
-/

namespace Syllabus

/-! ## §1. The type. -/

/-- A double-precision value. -/
inductive Binary64 where
  /-- Not a number. -/
  | nan
  /-- One of the two infinities. -/
  | infinite (negative : Bool)
  /-- The number `± significand · 2^exponent`. -/
  | finite (negative : Bool) (significand : Nat) (exponent : Int)
  deriving DecidableEq, Repr

namespace Binary64

/-- The least exponent of a finite value: the step between the smallest ones is `2^(-1074)`. -/
def leastExponent : Int := -1074

/-- The greatest exponent of a finite value. -/
def greatestExponent : Int := 971

/-- Positive or negative zero. -/
def zero (negative : Bool) : Binary64 := .finite negative 0 leastExponent

/-! ## §2. Rounding a quotient. -/

/-- The natural number nearest `num / den`; a half goes to the even neighbour. -/
def roundHalfEven (num den : Nat) : Nat :=
  let q := num / den
  let r := num % den
  if 2 * r < den then q
  else if den < 2 * r then q + 1
  else if q % 2 = 0 then q else q + 1

/-- `⌊log₂ (num / den)⌋` for positive `num` and `den`. -/
def floorLog2 (num den : Nat) : Int :=
  let guess : Int := (Nat.log2 num : Int) - Nat.log2 den
  let below :=
    if 0 ≤ guess then decide (num < den * Nat.pow 2 guess.toNat)
    else decide (num * Nat.pow 2 (-guess).toNat < den)
  if below then guess - 1 else guess

/-- `num / den` counted in units of `2^exponent`, rounded half to even. -/
def significandAt (num den : Nat) (exponent : Int) : Nat :=
  if 0 ≤ exponent then roundHalfEven num (den * Nat.pow 2 exponent.toNat)
  else roundHalfEven (num * Nat.pow 2 (-exponent).toNat) den

/-- The double nearest `± num / den`, for a positive `den`. -/
def ofRatio (negative : Bool) (num den : Nat) : Binary64 :=
  if num = 0 then zero negative
  else
    let exponent := max (floorLog2 num den - 52) leastExponent
    let m := significandAt num den exponent
    let (m, exponent) := if m = Nat.pow 2 53 then (Nat.pow 2 52, exponent + 1) else (m, exponent)
    if greatestExponent < exponent then .infinite negative else .finite negative m exponent

/-! ## §3. What a value is. -/

/-- Neither infinite nor "not a number". -/
def isFinite : Binary64 → Bool
  | .finite .. => true
  | _ => false

/-- Strictly above zero; false of "not a number". -/
def isPositive : Binary64 → Bool
  | .finite negative m _ => !negative && m != 0
  | .infinite negative => !negative
  | .nan => false

/-- At most zero; false of "not a number". -/
def isNonPositive : Binary64 → Bool
  | .finite negative m _ => negative || m == 0
  | .infinite negative => negative
  | .nan => false

/-- Zero of either sign. -/
def isZero : Binary64 → Bool
  | .finite _ m _ => m == 0
  | _ => false

/-- The magnitude of a finite value cut down to an integer. -/
def truncatedMagnitude (m : Nat) (exponent : Int) : Nat :=
  if 0 ≤ exponent then m * Nat.pow 2 exponent.toNat else m / Nat.pow 2 (-exponent).toNat

/-- The integer part of a finite value, cut toward zero. -/
def truncate? : Binary64 → Option Int
  | .finite negative m exponent =>
      let n : Int := truncatedMagnitude m exponent
      some (if negative then -n else n)
  | _ => none

/-- Whether a finite value is a whole number. -/
def isWhole : Binary64 → Bool
  | .finite _ m exponent => decide (0 ≤ exponent) || m % Nat.pow 2 (-exponent).toNat == 0
  | _ => false

/-- The integer that a value is equal to, if there is one. -/
def toInt? (x : Binary64) : Option Int :=
  if x.isWhole then x.truncate? else none

/-! ## §4. Order against a ratio. -/

/-- Whether the value is above the rational number `num / den`, for a positive `den`. -/
def isAbove (x : Binary64) (num : Int) (den : Nat) : Bool :=
  match x with
  | .nan => false
  | .infinite negative => !negative
  | .finite negative m exponent =>
      let scaled : Int := if negative then -(m : Int) else m
      if 0 ≤ exponent then decide (num < scaled * Nat.pow 2 exponent.toNat * den)
      else decide (num * Nat.pow 2 (-exponent).toNat < scaled * den)

end Binary64

end Syllabus
