import TilingConfig.Number.Binary
import TilingConfig.Text.Numeral

/-!
# Decimal numerals

Decimal numbers `± digits · 10 ^ exponent` in the form `12.5e-3`: a sign, digits
with an optional point among or around them, and an optional exponent. A numeral
is rounded to the nearest binary number.
-/

namespace TilingConfig.Number

open TilingConfig.CoreInstances TilingConfig.Text

/-- The number `± digits · 10 ^ exponent`. -/
structure Decimal where
  /-- Whether a minus sign is written. -/
  negative : Bool
  /-- All digits, read as one whole number. -/
  digits : Nat
  /-- The power of ten of the last digit. -/
  exponent : Int
  deriving DecidableEq, Repr

namespace Decimal

/-- The exponent part behind a mantissa: nothing, or `e` with a sign and digits. -/
def exponent? : List Char → Option Int
  | [] => some 0
  | c :: cs =>
    if c == 'e' || c == 'E' then
      match cs with
      | '-' :: digits => (natural? 10 digits).map fun n => -(n : Int)
      | '+' :: digits => (natural? 10 digits).map Int.ofNat
      | digits => (natural? 10 digits).map Int.ofNat
    else none

/-- A numeral without its sign. There is a digit before or behind the point. -/
def unsigned? (cs : List Char) : Option (Nat × Int) :=
  let whole := cs.takeWhile Char.isDigit
  let behind := cs.drop whole.length
  let (fraction, rest) := match behind with
    | '.' :: more => (more.takeWhile Char.isDigit, more.dropWhile Char.isDigit)
    | _ => ([], behind)
  match natural? 10 (whole ++ fraction), exponent? rest with
  | some digits, some exponent => some (digits, exponent - fraction.length)
  | _, _ => none

/-- A numeral with an optional sign. -/
def ofChars? (cs : List Char) : Option Decimal :=
  match cs with
  | '-' :: rest => (unsigned? rest).map fun (digits, exponent) => ⟨true, digits, exponent⟩
  | '+' :: rest => (unsigned? rest).map fun (digits, exponent) => ⟨false, digits, exponent⟩
  | _ => (unsigned? cs).map fun (digits, exponent) => ⟨false, digits, exponent⟩

/-- How many decimal digits a number has. -/
def digitCount (n : Nat) : Nat := if n = 0 then 0 else (Nat.toDigits 10 n).length

/-- The order of magnitude above which every numeral overflows the 64-bit format. -/
def largestOrder : Int := 400

/-- The nearest 64-bit number. Numerals far outside the range of the format are told by their
order of magnitude, without forming the power of ten. -/
def toBinary64 (d : Decimal) : Binary64 :=
  let order := d.exponent + digitCount d.digits
  if d.digits = 0 ∨ order < -largestOrder then .round d.negative 0 1
  else if largestOrder < order then .infinity d.negative
  else .round d.negative (d.digits * 10 ^ d.exponent.toNat) (10 ^ (-d.exponent).toNat)

end Decimal

end TilingConfig.Number
