/-!
# Numerals in a positional base

Reading of unsigned and signed whole numbers that have to fit a fixed range. A
numeral has at least one digit; a sign in front is allowed where the function
says so.
-/

namespace TilingConfig.Text

/-- The value of a digit in `base`; letters of either case stand for ten and up. -/
def digitValue? (base : Nat) (c : Char) : Option Nat :=
  let value :=
    if '0' ≤ c ∧ c ≤ '9' then c.toNat - '0'.toNat
    else if 'a' ≤ c ∧ c ≤ 'z' then c.toNat - 'a'.toNat + 10
    else if 'A' ≤ c ∧ c ≤ 'Z' then c.toNat - 'A'.toNat + 10
    else base
  if value < base then some value else none

/-- The value of a run of digits read after `acc`. -/
def foldDigits? (base : Nat) : Nat → List Char → Option Nat
  | acc, [] => some acc
  | acc, c :: cs =>
    match digitValue? base c with
    | some value => foldDigits? base (acc * base + value) cs
    | none => none

/-- A numeral without a sign. -/
def natural? (base : Nat) (cs : List Char) : Option Nat :=
  if cs.isEmpty then none else foldDigits? base 0 cs

/-- A numeral below `bound`, with an optional plus sign. -/
def unsigned? (base bound : Nat) (cs : List Char) : Option Nat :=
  let digits := match cs with
    | '+' :: rest => rest
    | _ => cs
  (natural? base digits).filter (· < bound)

/-- A numeral from `-half` up to but excluding `half`, with an optional sign of either kind. -/
def signed? (base half : Nat) (cs : List Char) : Option Int :=
  match cs with
  | '-' :: rest => ((natural? base rest).filter (· ≤ half)).map fun n => -(n : Int)
  | _ => (unsigned? base half cs).map Int.ofNat

/-- The digits of a number in lower-case hexadecimal. -/
def hexadecimal (n : Nat) : String := String.ofList (Nat.toDigits 16 n)

/-- The digits of a number with zeros in front up to `width` digits. -/
def padded (base width n : Nat) : String :=
  let digits := Nat.toDigits base n
  String.ofList (List.replicate (width - digits.length) '0' ++ digits)

/-- Lower-case hexadecimal with zeros in front up to `width` digits. -/
def hexadecimalPadded (width n : Nat) : String := padded 16 width n

/-- Decimal digits with zeros in front up to `width` digits. -/
def decimalPadded (width n : Nat) : String := padded 10 width n

end TilingConfig.Text
