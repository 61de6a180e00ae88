import TilingConfig.Number.Decimal
import TilingConfig.Toml.Datetime
import TilingConfig.Toml.Item
import TilingConfig.Toml.Quoted

/-!
# Keys and scalars

What keys and single values mean. A word without quotes is a truth value, a
number or a date by its spelling; there are no other words.
-/

namespace TilingConfig.Toml

open TilingConfig.Number TilingConfig.Text

/-- The characters of a key without quotes. -/
def isKeyChar (c : Char) : Bool := c.isAlphanum || c == '_' || c == '-'

/-- The name that a key stands for. A key between long quotes is none. -/
def Word.name (word : Word) : Except Fault String :=
  match word.quoting with
  | none =>
    if word.text.isEmpty then .error ⟨"unquoted keys cannot be empty", word.start⟩
    else if word.text.all isKeyChar then .ok (String.ofList word.text)
    else
      .error ⟨"invalid unquoted key", word.start + byteCount (word.text.takeWhile isKeyChar)⟩
  | some quoting =>
    if quoting.isLong then .error ⟨"keys cannot be multi-line strings", word.start⟩
    else (readQuoted quoting word.text word.start).map String.ofList

/-- Digits with single underscores between them, without the underscores. -/
def ungrouped? (base : Nat) : List Char → Option (List Char)
  | [] => none
  | [c] => (digitValue? base c).map fun _ => [c]
  | c :: '_' :: rest =>
    if (digitValue? base c).isSome then (ungrouped? base rest).map (c :: ·) else none
  | c :: rest => if (digitValue? base c).isSome then (ungrouped? base rest).map (c :: ·) else none

/-- A sign in front, and what follows it. -/
def splitSign : List Char → List Char × List Char
  | '+' :: rest => (['+'], rest)
  | '-' :: rest => (['-'], rest)
  | cs => ([], cs)

/-- The digits of a decimal number that has no zero before other digits. -/
def decimalDigits? (cs : List Char) : Option (List Char) :=
  (ungrouped? 10 cs).filter fun digits => digits.length == 1 || digits.head? != some '0'

/-- The whole number of a spelling. -/
def wholeNumber? (cs : List Char) : Option Int :=
  match cs with
  | '0' :: 'x' :: digits => ((ungrouped? 16 digits).bind (natural? 16)).map Int.ofNat
  | '0' :: 'o' :: digits => ((ungrouped? 8 digits).bind (natural? 8)).map Int.ofNat
  | '0' :: 'b' :: digits => ((ungrouped? 2 digits).bind (natural? 2)).map Int.ofNat
  | _ =>
    let (sign, digits) := splitSign cs
    ((decimalDigits? digits).bind (natural? 10)).map fun n =>
      if sign = ['-'] then -(n : Int) else n

/-- The digits of a fraction behind its point; a number may go without one. -/
def fractionPart? : List Char → Option (List Char)
  | [] => some []
  | '.' :: digits => (ungrouped? 10 digits).map ('.' :: ·)
  | _ => none

/-- The sign and digits of an exponent behind its letter; a number may go without one. -/
def exponentPart? : List Char → Option (List Char)
  | [] => some []
  | _ :: rest =>
    let (sign, digits) := splitSign rest
    (ungrouped? 10 digits).map fun digits => 'e' :: (sign ++ digits)

/-- Whether a letter starts an exponent. -/
def isExponentSign (c : Char) : Bool := c == 'e' || c == 'E'

/-- The numeral of a spelling without its underscores. It has a fraction or an exponent. -/
def numeral? (cs : List Char) : Option (List Char) := do
  let (sign, rest) := splitSign cs
  let whole := rest.takeWhile fun c => c != '.' && !isExponentSign c
  let fraction := (rest.drop whole.length).takeWhile fun c => !isExponentSign c
  let exponent := rest.drop (whole.length + fraction.length)
  let digits ← decimalDigits? whole
  let fraction ← fractionPart? fraction
  let exponent ← exponentPart? exponent
  if fraction.isEmpty && exponent.isEmpty then none
  else some (sign ++ digits ++ fraction ++ exponent)

/-- The floating-point number of a spelling. Numerals that overflow are none. -/
def floatNumber? (cs : List Char) : Option Binary64 :=
  let (sign, rest) := splitSign cs
  if rest = "inf".toList then some (.infinity (sign == ['-']))
  else if rest = "nan".toList then some .nan
  else (((numeral? cs).bind Decimal.ofChars?).map Decimal.toBinary64).filter Binary64.isFinite

/-- The item of a whole number that fits a signed word. -/
def wholeItem? (n : Int) : Option Item :=
  if Int64.minValue.toInt ≤ n ∧ n ≤ Int64.maxValue.toInt then some (.integer (.ofInt n)) else none

/-- The item of a word without quotes. -/
def bareItem? (cs : List Char) : Option Item :=
  if cs = "true".toList then some (.boolean true)
  else if cs = "false".toList then some (.boolean false)
  else match wholeNumber? cs with
    | some n => wholeItem? n
    | none => ((floatNumber? cs).map .float).or ((datetime? cs).map .datetime)

/-- The item of a scalar. -/
def Word.item (word : Word) : Except Fault Item :=
  match word.quoting with
  | some quoting => (readQuoted quoting word.text word.start).map fun cs => .string (.ofList cs)
  | none =>
    match bareItem? word.text with
    | some item => .ok item
    | none => .error ⟨"invalid value", word.start⟩

end TilingConfig.Toml
