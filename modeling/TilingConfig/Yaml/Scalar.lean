import TilingConfig.Number.Decimal
import TilingConfig.Yaml.Node

/-!
# What scalars stand for

The spelling of a plain scalar tells what it is: nothing, a truth value, a whole
number, a floating-point number, or else a text. A tag may ask for one of these
kinds; other scalars are texts.
-/

namespace TilingConfig.Yaml

open TilingConfig.CoreInstances TilingConfig.Number TilingConfig.Text

/-- The spellings of nothing. -/
def isNullWord (cs : List Char) : Bool :=
  ["null", "Null", "NULL", "~"].contains (String.ofList cs)

/-- The truth value of a spelling. -/
def truthValue? (cs : List Char) : Option Bool :=
  if ["true", "True", "TRUE"].contains (String.ofList cs) then some true
  else if ["false", "False", "FALSE"].contains (String.ofList cs) then some false
  else none

/-- A sign in front. -/
def startsSigned : List Char → Bool
  | '+' :: _ | '-' :: _ => true
  | _ => false

/-- Drop a plus sign in front. -/
def dropPlus : List Char → List Char
  | '+' :: rest => rest
  | cs => cs

/-- Whether digits follow a leading zero, behind an optional sign. -/
def hasLeadingZero (cs : List Char) : Bool :=
  match (if startsSigned cs then cs.drop 1 else cs) with
  | '0' :: c :: rest => (c :: rest).all Char.isDigit
  | _ => false

/-- The value of digits behind a marker of their base. -/
def basedNatural? : List Char → Option Nat
  | '0' :: 'x' :: digits => natural? 16 digits
  | '0' :: 'o' :: digits => natural? 8 digits
  | '0' :: 'b' :: digits => natural? 2 digits
  | _ => none

/-- The value of a whole number without a leading zero, in decimal or with a marker of its base. -/
def wholeNumber? (cs : List Char) : Option Int :=
  let magnitude? (digits : List Char) : Option Nat :=
    (basedNatural? digits).or (if hasLeadingZero digits then none else natural? 10 digits)
  match cs with
  | '-' :: digits => (magnitude? digits).map fun n => -(n : Int)
  | _ => (magnitude? (dropPlus cs)).map Int.ofNat

/-- Whether a whole number fits 64 bits, with a sign or without. -/
def fitsWord (n : Int) : Bool := -(2 ^ (63 : Nat) : Int) ≤ n && n < 2 ^ (64 : Nat)

/-- Whether a whole number fits 128 bits, with a sign or without. -/
def fitsDoubleWord (n : Int) : Bool := -(2 ^ (127 : Nat) : Int) ≤ n && n < 2 ^ (128 : Nat)

/-- The floating-point number of a spelling. Numerals that overflow are none. -/
def floatNumber? (cs : List Char) : Option Binary64 :=
  let text := String.ofList cs
  if [".nan", ".NaN", ".NAN"].contains text then some .nan
  else if [".inf", ".Inf", ".INF", "+.inf", "+.Inf", "+.INF"].contains text then
    some (.infinity false)
  else if ["-.inf", "-.Inf", "-.INF"].contains text then some (.infinity true)
  else if cs.head? = some '+' && startsSigned (cs.drop 1) then none
  else ((Decimal.ofChars? cs).map Decimal.toBinary64).filter Binary64.isFinite

/-- The whole number of a spelling. One that needs more than 64 bits, but no more than 128, is
refused. -/
def wholeNode? (cs : List Char) : Except String (Option Node) :=
  match wholeNumber? cs with
  | none => .ok none
  | some n =>
    if fitsWord n then .ok (some (.integer n))
    else if fitsDoubleWord n then .error "whole numbers of more than 64 bits are not supported"
    else .ok none

/-- What a plain scalar without a tag stands for. -/
def plainNode (cs : List Char) : Except String Node :=
  if cs.isEmpty || isNullWord cs then .ok .null
  else match truthValue? cs with
    | some b => .ok (.bool b)
    | none => (wholeNode? cs).map fun whole =>
      (whole.or (if hasLeadingZero cs then none else (floatNumber? cs).map .float)).getD
        (.string (String.ofList cs))

/-- What a scalar without a tag stands for. -/
def untaggedNode (plain : Bool) (cs : List Char) : Except String Node :=
  if plain then plainNode cs else .ok (.string (String.ofList cs))

/-- What a scalar stands for that has the tag of a kind. Kinds that are not known here make
texts. -/
def typedNode (type : String) (cs : List Char) : Except String Node :=
  if type = "tag:yaml.org,2002:bool" then
    ((truthValue? cs).map fun b => .ok (.bool b)).getD (.error "expected a boolean")
  else if type = "tag:yaml.org,2002:int" then
    (wholeNode? cs).bind fun whole => (whole.map .ok).getD (.error "expected an integer")
  else if type = "tag:yaml.org,2002:float" then
    ((floatNumber? cs).map fun x => .ok (.float x)).getD (.error "expected a float")
  else if type = "tag:yaml.org,2002:null" then
    if isNullWord cs then .ok .null else .error "expected null"
  else .ok (.string (String.ofList cs))

end TilingConfig.Yaml
