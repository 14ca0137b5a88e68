/-
  Syllabus.Decimal.Shortest
  ─────────────────────────
  **THE FEWEST DIGITS THAT READ BACK.**

  A double stands for every real number that rounds to it.  Its shortest
  decimal is the one with the fewest digits inside that interval and, among
  those, the one nearest the value; an exact tie goes to the even digit.

  The search tries one digit, two digits, … up to seventeen, which always
  suffice.  With `n` digits only the two neighbours of the value on the grid
  of `n`-digit numbers can be the answer: if any point of that grid lies in
  the interval, one of the neighbours does.
-/
import Syllabus.Decimal.Digits

namespace Syllabus.Decimal

/-! ## §1. The rounding interval. -/

/-- The reals that round to `significand · 2^exponent`, in quarters of `2^exponent`.  Just above a
power of two the lower neighbour is half as far away; the ends belong to the interval when the
significand is even. -/
structure Interval where
  /-- Lower end, in quarters. -/
  low : Nat
  /-- The value itself, in quarters. -/
  value : Nat
  /-- Upper end, in quarters. -/
  high : Nat
  /-- The unit: a quarter of the value's last place is `2^exponent`. -/
  exponent : Int
  /-- Whether the ends round to the value too. -/
  closed : Bool

/-- The interval of a positive finite value. -/
def Interval.of (m : Nat) (exponent : Int) : Interval :=
  let narrow := m = Nat.pow 2 52 ∧ exponent ≠ Binary64.leastExponent
  { low := if narrow then 4 * m - 1 else 4 * m - 2
    value := 4 * m
    high := 4 * m + 2
    exponent := exponent - 2
    closed := m % 2 = 0 }

/-! ## §2. One grid of decimals. -/

/-- `n · 2^e / 10^g` as a numerator and a denominator. -/
def ratioOn (n : Nat) (e g : Int) : Nat × Nat :=
  (n * Nat.pow 2 e.toNat * Nat.pow 10 (-g).toNat, Nat.pow 2 (-e).toNat * Nat.pow 10 g.toNat)

/-- Whether the grid point `k · 10^g` lies in the interval. -/
def Interval.holds (i : Interval) (g : Int) (k : Nat) : Bool :=
  let (low, den) := ratioOn i.low i.exponent g
  let (high, _) := ratioOn i.high i.exponent g
  if i.closed then decide (low ≤ k * den) && decide (k * den ≤ high)
  else decide (low < k * den) && decide (k * den < high)

/-- The point of the grid of multiples of `10^g` that is nearest the value, among its two neighbours
there that lie in the interval. -/
def Interval.nearestOn? (i : Interval) (g : Int) : Option Nat :=
  let (num, den) := ratioOn i.value i.exponent g
  let below := num / den
  let above := below + 1
  match i.holds g below, i.holds g above with
  | false, false => none
  | true, false => some below
  | false, true => some above
  | true, true =>
      let rest := 2 * (num % den)
      if rest < den then some below
      else if den < rest then some above
      else if below % 2 = 0 then some below else some above

/-! ## §3. The search. -/

/-- `⌊log₁₀ (num / den)⌋` for positive `num` and `den`. -/
def floorLog10 (num den : Nat) : Int :=
  let guess : Int := (width num : Int) - width den
  let below :=
    if 0 ≤ guess then decide (num < den * Nat.pow 10 guess.toNat)
    else decide (num * Nat.pow 10 (-guess).toNat < den)
  if below then guess - 1 else guess

/-- The first of the grids of `n, n + 1, …` digits that has an answer: the digits as a number, and
the power of ten of their last place. -/
def Interval.search (i : Interval) (top : Int) : (grids n : Nat) → Nat × Int
  | 0, n => (0, top + 1 - n)
  | grids + 1, n =>
      let g := top + 1 - n
      match i.nearestOn? g with
      | some k => (k, g)
      | none => i.search top grids (n + 1)

/-- The shortest decimal `k · 10^g` that reads back as the positive value `m · 2^exponent`. -/
def shortest (m : Nat) (exponent : Int) : Nat × Int :=
  let i := Interval.of m exponent
  let (num, den) := ratioOn i.value i.exponent 0
  i.search (floorLog10 num den) 17 1

/-! ## §4. Writing the digits. -/

/-- How the digits of a number are laid out. -/
structure Layout where
  /-- The least decimal exponent written without an exponent. -/
  leastPositional : Int
  /-- The least decimal exponent too large to be written without one. -/
  firstScientific : Int
  /-- The fewest digits of a written exponent. -/
  exponentWidth : Nat
  /-- The texts of "not a number" and of infinity. -/
  nan : String
  /-- The text of positive infinity. -/
  infinity : String

/-- Zeros in front of a digit string, up to a width. -/
def padded (n : Nat) (ds : List Char) : List Char := List.replicate (n - ds.length) '0' ++ ds

/-- Digits with a point after `k` of them, at least one digit on either side. -/
def positional (ds : List Char) (k : Int) : List Char :=
  if k ≤ 0 then '0' :: '.' :: (List.replicate (-k).toNat '0' ++ ds)
  else if ds.length ≤ k.toNat then ds ++ List.replicate (k.toNat - ds.length) '0' ++ ['.', '0']
  else ds.take k.toNat ++ '.' :: ds.drop k.toNat

/-- One digit, the rest after a point, and a signed exponent. -/
def scientific (layout : Layout) (ds : List Char) (e : Int) : List Char :=
  let mantissa := match ds with
    | d :: rest@(_ :: _) => d :: '.' :: rest
    | _ => ds
  mantissa ++ 'e' :: (if e < 0 then '-' else '+') :: padded layout.exponentWidth (digits e.natAbs)

/-- The digits of `shortest` without the zeros at their end, and the decimal exponent of the first
of them. -/
def significantDigits (m : Nat) (exponent : Int) : List Char × Int :=
  let (k, g) := shortest m exponent
  let ds := digits k
  ((ds.reverse.dropWhile (· == '0')).reverse, g + ds.length - 1)

/-- A double in its shortest form under a layout. -/
def Layout.text (layout : Layout) : Binary64 → String
  | .nan => layout.nan
  | .infinite negative => (if negative then "-" else "") ++ layout.infinity
  | .finite negative m exponent =>
      let sign := if negative then ['-'] else []
      if m = 0 then String.ofList (sign ++ ['0', '.', '0'])
      else
        let (ds, e) := significantDigits m exponent
        let body :=
          if layout.leastPositional ≤ e ∧ e < layout.firstScientific then positional ds (e + 1)
          else scientific layout ds e
        String.ofList (sign ++ body)

end Syllabus.Decimal
