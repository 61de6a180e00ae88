import TilingConfig.CoreInstances

/-!
# Binary floating-point numbers

Numbers of the binary interchange formats are kept as their bits and are read as
`± m · 2 ^ e` with whole `m` and `e`, so that comparing and rounding are exact
integer arithmetic. The bits of a magnitude, read as a number, grow with the
magnitude; rounding is to the nearest magnitude and to an even one between two.
-/

namespace TilingConfig.Number

open TilingConfig.CoreInstances

/-- A binary interchange format. -/
structure Format where
  /-- The significant bits of a normal number. -/
  precision : Nat
  /-- The bits of the exponent field. -/
  exponentWidth : Nat
  deriving DecidableEq, Repr

namespace Format

/-- The 64-bit format. -/
def double : Format := ⟨53, 11⟩

/-- The 32-bit format. -/
def single : Format := ⟨24, 8⟩

/-- The exponent of the last place of the smallest numbers. -/
def minExponent (format : Format) : Int :=
  3 - 2 ^ (format.exponentWidth - 1) - format.precision

/-- The number of significands that share an exponent. -/
def binade (format : Format) : Nat := 2 ^ (format.precision - 1)

/-- The weight of the sign bit. -/
def signWeight (format : Format) : Nat := 2 ^ (format.precision - 1 + format.exponentWidth)

/-- The bits of positive infinity. -/
def infinityBits (format : Format) : Nat := format.signWeight - format.binade

/-- The bits of the plain quiet NaN. -/
def nanBits (format : Format) : Nat := format.infinityBits + format.binade / 2

end Format

/-- What the bits of a number stand for. -/
inductive Reading where
  /-- Not a number. -/
  | nan
  /-- An infinity. -/
  | infinity (negative : Bool)
  /-- The number `± significand · 2 ^ exponent`. -/
  | finite (negative : Bool) (significand : Nat) (exponent : Int)
  deriving DecidableEq, Repr

/-- Read the bits of a number. -/
def Format.read (format : Format) (bits : Nat) : Reading :=
  let negative := decide (format.signWeight ≤ bits)
  let magnitude := bits % format.signWeight
  if format.infinityBits < magnitude then .nan
  else if magnitude = format.infinityBits then .infinity negative
  else
    let field := magnitude / format.binade
    let fraction := magnitude % format.binade
    if field = 0 then .finite negative fraction format.minExponent
    else .finite negative (format.binade + fraction) (format.minExponent + field - 1)

/-- The whole number nearest to `num / den`, the even one between two. -/
def divideToEven (num den : Nat) : Nat :=
  let quotient := num / den
  let twice := 2 * (num % den)
  if twice < den ∨ (twice = den ∧ quotient % 2 = 0) then quotient else quotient + 1

/-- The nearest whole multiple of `2 ^ exponent` to `num / den`, as the multiplier. -/
def scaleToEven (num den : Nat) (exponent : Int) : Nat :=
  divideToEven (num * 2 ^ (-exponent).toNat) (den * 2 ^ exponent.toNat)

/-- The exponent `k` with `2 ^ k ≤ num / den < 2 ^ (k + 1)`, for positive numbers. -/
def floorLog2 (num den : Nat) : Int :=
  let guess : Int := (num.log2 : Int) - den.log2
  if den * 2 ^ guess.toNat ≤ num * 2 ^ (-guess).toNat then guess else guess - 1

/-- The bits of the magnitude nearest to `num / den`. A significand that rounds up to the next
power of two carries into the exponent field by itself. -/
def Format.roundMagnitude (format : Format) (num den : Nat) : Nat :=
  if num = 0 then 0
  else
    let exponent := max format.minExponent (floorLog2 num den - (format.precision - 1 : Nat))
    let field := (exponent - format.minExponent).toNat
    min format.infinityBits (field * format.binade + scaleToEven num den exponent)

/-- The bits of the number nearest to `± num / den`. -/
def Format.round (format : Format) (negative : Bool) (num den : Nat) : Nat :=
  (if negative then format.signWeight else 0) + format.roundMagnitude num den

/-- The bits of the number nearest to what other bits stand for. -/
def Format.ofReading (format : Format) : Reading → Nat
  | .nan => format.nanBits
  | .infinity negative => (if negative then format.signWeight else 0) + format.infinityBits
  | .finite negative significand exponent =>
    format.round negative (significand * 2 ^ exponent.toNat) (2 ^ (-exponent).toNat)

namespace Reading

/-- Whether the reading is no number. -/
def isNaN : Reading → Bool
  | nan => true
  | _ => false

/-- Whether the reading is a finite number. -/
def isFinite : Reading → Bool
  | finite .. => true
  | _ => false

/-- The signed significand over the power `2 ^ low`, for any `low` below the exponent. -/
private def scaled (negative : Bool) (significand : Nat) (exponent low : Int) : Int :=
  (if negative then -1 else 1) * (significand * 2 ^ (exponent - low).toNat)

/-- The order of numbers; nothing is comparable with NaN. -/
def le : Reading → Reading → Bool
  | nan, _ => false
  | _, nan => false
  | infinity true, _ => true
  | _, infinity false => true
  | infinity false, _ => false
  | _, infinity true => false
  | finite s m e, finite t n f =>
    decide (scaled s m e (min e f) ≤ scaled t n f (min e f))

/-- Equality of numbers, under which the zeros are equal and NaN equals NaN. -/
def same : Reading → Reading → Bool
  | nan, nan => true
  | a, b => le a b && le b a

end Reading

/-- A 64-bit floating-point number. -/
structure Binary64 where
  /-- The interchange bits. -/
  bits : UInt64
  deriving DecidableEq, Repr

/-- A 32-bit floating-point number. -/
structure Binary32 where
  /-- The interchange bits. -/
  bits : UInt32
  deriving DecidableEq, Repr

namespace Binary64

/-- What the number stands for. -/
def reading (x : Binary64) : Reading := Format.double.read x.bits.toNat

/-- The number nearest to `± num / den`. -/
def round (negative : Bool) (num den : Nat) : Binary64 :=
  ⟨UInt64.ofNat (Format.double.round negative num den)⟩

/-- The number nearest to a whole number. -/
def ofInt (i : Int) : Binary64 := round (decide (i < 0)) i.natAbs 1

/-- Positive or negative infinity. -/
def infinity (negative : Bool) : Binary64 :=
  ⟨UInt64.ofNat (Format.double.ofReading (.infinity negative))⟩

/-- The plain NaN. -/
def nan : Binary64 := ⟨UInt64.ofNat Format.double.nanBits⟩

/-- Whether the number is finite. -/
def isFinite (x : Binary64) : Bool := x.reading.isFinite

/-- The order of numbers; nothing is comparable with NaN. -/
def le (x y : Binary64) : Bool := x.reading.le y.reading

end Binary64

namespace Binary32

/-- What the number stands for. -/
def reading (x : Binary32) : Reading := Format.single.read x.bits.toNat

/-- The number nearest to `± num / den`. -/
def round (negative : Bool) (num den : Nat) : Binary32 :=
  ⟨UInt32.ofNat (Format.single.round negative num den)⟩

end Binary32

/-- Narrow a number to the nearest one of the smaller format; large ones become infinite. -/
def Binary64.narrow (x : Binary64) : Binary32 :=
  ⟨UInt32.ofNat (Format.single.ofReading x.reading)⟩

end TilingConfig.Number
