import TilingConfig.Number.Shortest

/-!
# Written forms of floating-point numbers

Two forms are written: the plain one of messages, always positional, and the one
of stored snapshots, which keeps a fraction part and turns to an exponent for very
large and very small numbers.
-/

namespace TilingConfig.Number

/-- The choices that a written form makes. -/
structure Style where
  /-- Which of two equally near decimals is taken. -/
  tie : Tie
  /-- Whether whole numbers get a fraction part `.0`. -/
  fraction : Bool
  /-- The orders of magnitude that are written positionally, when not all are: the point stands
  behind that many digits, or that many zeros stand behind it. -/
  positional : Option (Int × Int)
  /-- How the infinities are written. -/
  infinity : String
  /-- How NaN is written. -/
  nan : String

namespace Style

/-- Messages: positional always, shortest digits, no fraction part on whole numbers. -/
def message : Style := ⟨.up, false, none, "inf", "NaN"⟩

/-- Stored snapshots: a fraction part always, an exponent from `1e13` on and below `1e-6`. -/
def stored : Style := ⟨.even, true, some (-5, 13), ".inf", ".nan"⟩

/-- Put the point into digits that are followed by `k` more places. -/
def positionalText (style : Style) (digits : List Char) (k : Int) : List Char :=
  let point : Int := digits.length + k
  let zeros (n : Int) := List.replicate n.toNat '0'
  if 0 ≤ k then digits ++ zeros k ++ (if style.fraction then ['.', '0'] else [])
  else if 0 < point then digits.take point.toNat ++ '.' :: digits.drop point.toNat
  else '0' :: '.' :: zeros (-point) ++ digits

/-- One digit before the point, and an exponent. -/
def exponentText (digits : List Char) (k : Int) : List Char :=
  let exponent := ('e' :: (toString (digits.length + k - 1)).toList)
  match digits with
  | d :: rest@(_ :: _) => d :: '.' :: rest ++ exponent
  | _ => digits ++ exponent

/-- The digits `d · 10 ^ k` of a positive number. -/
def digitText (style : Style) (d : Nat) (k : Int) : List Char :=
  let digits := Nat.toDigits 10 d
  let point : Int := digits.length + k
  match style.positional with
  | some (low, high) =>
    if low ≤ point ∧ point ≤ high then style.positionalText digits k else exponentText digits k
  | none => style.positionalText digits k

/-- Write a number of the given format. -/
def render (style : Style) (format : Format) : Reading → String
  | .nan => style.nan
  | .infinity negative => (if negative then "-" else "") ++ style.infinity
  | .finite negative significand exponent =>
    let magnitude :=
      if significand = 0 then style.positionalText ['0'] 0
      else
        let (d, k) := format.shortest style.tie significand exponent
        style.digitText d k
    (if negative then "-" else "") ++ String.ofList magnitude

end Style

/-- Write a 64-bit number. -/
def Binary64.render (style : Style) (x : Binary64) : String :=
  style.render Format.double x.reading

/-- Write a 32-bit number. -/
def Binary32.render (style : Style) (x : Binary32) : String :=
  style.render Format.single x.reading

end TilingConfig.Number
