import TilingConfig.Number.Binary
import TilingConfig.Number.Decimal

/-!
# Shortest decimal digits

The fewest decimal digits that read back as the same binary number, and among
those the ones nearest to it. All decimals between the two midpoints around a
number read back as it; the midpoints themselves do when the significand is even.
-/

namespace TilingConfig.Number

open TilingConfig.CoreInstances

/-- Which of two equally near decimals is taken. -/
inductive Tie where
  /-- The larger one. -/
  | up
  /-- The one with an even last digit. -/
  | even
  deriving DecidableEq, Repr

/-- A positive rational number. -/
structure Ratio where
  /-- The numerator. -/
  num : Nat
  /-- The denominator. -/
  den : Nat
  deriving Repr

namespace Ratio

/-- The number `m · 2 ^ e`. -/
def ofBinary (m : Nat) (e : Int) : Ratio := ⟨m * 2 ^ e.toNat, 2 ^ (-e).toNat⟩

/-- The number `d · 10 ^ k`. -/
def ofDecimal (d : Nat) (k : Int) : Ratio := ⟨d * 10 ^ k.toNat, 10 ^ (-k).toNat⟩

/-- Strict order. -/
def lt (a b : Ratio) : Bool := a.num * b.den < b.num * a.den

/-- Order. -/
def le (a b : Ratio) : Bool := a.num * b.den ≤ b.num * a.den

/-- The number of whole steps of size `10 ^ k` below `a`. -/
def stepsBelow (a : Ratio) (k : Int) : Nat :=
  a.num * 10 ^ (-k).toNat / (a.den * 10 ^ k.toNat)

/-- The order of `a` and the middle of step `d` and the next one, on the grid of `10 ^ k`. -/
def compareToMiddle (a : Ratio) (d : Nat) (k : Int) : Ordering :=
  compare (2 * a.num * 10 ^ (-k).toNat) ((2 * d + 1) * (a.den * 10 ^ k.toNat))

end Ratio

/-- The decimals that read back as one binary number. -/
structure Interval where
  /-- The lower midpoint. -/
  lower : Ratio
  /-- The upper midpoint. -/
  upper : Ratio
  /-- Whether the midpoints belong to it. -/
  closed : Bool

/-- The decimals that read back as `m · 2 ^ e`. Below a power of two the grid is finer, so the
lower midpoint is nearer there. -/
def Format.interval (format : Format) (m : Nat) (e : Int) : Interval where
  lower :=
    if m = format.binade ∧ format.minExponent < e then .ofBinary (4 * m - 1) (e - 2)
    else .ofBinary (2 * m - 1) (e - 1)
  upper := .ofBinary (2 * m + 1) (e - 1)
  closed := m % 2 = 0

/-- Whether the interval holds `d · 10 ^ k`. -/
def Interval.holds (interval : Interval) (d : Nat) (k : Int) : Bool :=
  let x := Ratio.ofDecimal d k
  if interval.closed then interval.lower.le x && x.le interval.upper
  else interval.lower.lt x && x.lt interval.upper

/-- The point of the grid of `10 ^ k` that is in the interval and nearest to the number. -/
def pick? (tie : Tie) (number : Ratio) (interval : Interval) (k : Int) : Option Nat :=
  let below := number.stepsBelow k
  match interval.holds below k && 0 < below, interval.holds (below + 1) k with
  | true, true =>
    match number.compareToMiddle below k with
    | .lt => some below
    | .gt => some (below + 1)
    | .eq => if tie = .even ∧ below % 2 = 0 then some below else some (below + 1)
  | true, false => some below
  | false, true => some (below + 1)
  | false, false => none

/-- Try finer and finer grids, from `10 ^ k` on. -/
def search (tie : Tie) (number : Ratio) (interval : Interval) : Nat → Int → Nat × Int
  | 0, k => (number.stepsBelow k, k)
  | fuel + 1, k =>
    match pick? tie number interval k with
    | some d => (d, k)
    | none => search tie number interval fuel (k - 1)

/-- Drop the zeros at the end of the digits of `d · 10 ^ k`. -/
def dropZeros : Nat → Nat → Int → Nat × Int
  | 0, d, k => (d, k)
  | fuel + 1, d, k => if d ≠ 0 ∧ d % 10 = 0 then dropZeros fuel (d / 10) (k + 1) else (d, k)

/-- The shortest digits `d` and their power of ten `k` for the positive number `m · 2 ^ e`. The
first grid tried is coarser than the number itself, and twenty-five finer ones reach seventeen
digits and more. -/
def Format.shortest (format : Format) (tie : Tie) (m : Nat) (e : Int) : Nat × Int :=
  let number := Ratio.ofBinary m e
  let order : Int := (Decimal.digitCount number.num : Int) - Decimal.digitCount number.den
  let (d, k) := search tie number (format.interval m e) 25 (order + 1)
  dropZeros (Decimal.digitCount d) d k

end TilingConfig.Number
