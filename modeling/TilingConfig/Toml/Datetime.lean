import TilingConfig.Text.Numeral

/-!
# Dates and times

A date, a time of day, or both, with an optional distance from universal time if
both are there. The normal form has the sign `T` between date and time, a capital
`Z`, and a fraction of a second without zeros at the end.
-/

namespace TilingConfig.Toml

open TilingConfig.Text

/-- A calendar day. -/
structure Date where
  /-- The year. -/
  year : Nat
  /-- The month, from one. -/
  month : Nat
  /-- The day of the month, from one. -/
  day : Nat
  deriving DecidableEq, Repr

/-- A time of day. -/
structure Time where
  /-- The hour. -/
  hour : Nat
  /-- The minute. -/
  minute : Nat
  /-- The second, if it is given. -/
  second : Option Nat
  /-- The thousand-millionths of a second, if a fraction is given. -/
  nanosecond : Option Nat
  deriving DecidableEq, Repr

/-- A number of exactly so many decimal digits in front. -/
def fixedNumber? (width : Nat) (cs : List Char) : Option (Nat × List Char) :=
  if (cs.take width).length = width then
    (natural? 10 (cs.take width)).map fun n => (n, cs.drop width)
  else none

/-- A number of exactly so many decimal digits behind a sign. -/
def numberBehind? (sign : Char) (width : Nat) : List Char → Option (Nat × List Char)
  | c :: cs => if c = sign then fixedNumber? width cs else none
  | [] => none

/-- Whether a year has a leap day. -/
def isLeapYear (year : Nat) : Bool := (year % 4 == 0 && year % 100 != 0) || year % 400 == 0

/-- How many days a month has. -/
def monthLength (year month : Nat) : Nat :=
  if month = 2 then (if isLeapYear year then 29 else 28)
  else if month = 4 ∨ month = 6 ∨ month = 9 ∨ month = 11 then 30
  else 31

/-- A date in front. -/
def date? (cs : List Char) : Option (Date × List Char) := do
  let (year, cs) ← fixedNumber? 4 cs
  let (month, cs) ← numberBehind? '-' 2 cs
  let (day, cs) ← numberBehind? '-' 2 cs
  if 1 ≤ month ∧ month ≤ 12 ∧ 1 ≤ day ∧ day ≤ monthLength year month then
    some (⟨year, month, day⟩, cs)
  else none

/-- The thousand-millionths that the digits of a fraction stand for; further digits are cut off. -/
def nanoseconds? (digits : List Char) : Option Nat :=
  natural? 10 ((digits ++ List.replicate 9 '0').take 9)

/-- The fraction of a second in front, if there is one. -/
def fraction? : List Char → Option (Option Nat × List Char)
  | '.' :: cs =>
    let digits := cs.takeWhile Char.isDigit
    if digits.isEmpty then none
    else (nanoseconds? digits).map fun n => (some n, cs.drop digits.length)
  | cs => some (none, cs)

/-- A time of day in front. -/
def time? (cs : List Char) : Option (Time × List Char) := do
  let (hour, cs) ← fixedNumber? 2 cs
  let (minute, cs) ← numberBehind? ':' 2 cs
  if 23 < hour ∨ 59 < minute then none
  else if cs.head? = some ':' then
    let (second, cs) ← numberBehind? ':' 2 cs
    if 60 < second then none
    else
      let (nanosecond, cs) ← fraction? cs
      some (⟨hour, minute, some second, nanosecond⟩, cs)
  else some (⟨hour, minute, none, none⟩, cs)

/-- The normal form of a distance from universal time that takes up the whole text. -/
def zone? : List Char → Option String
  | [] => some ""
  | ['Z'] => some "Z"
  | ['z'] => some "Z"
  | sign :: cs => do
    let (hour, cs) ← fixedNumber? 2 cs
    let (minute, cs) ← numberBehind? ':' 2 cs
    if !cs.isEmpty || 23 < hour || 59 < minute then none
    else if sign = '+' ∨ (sign = '-' ∧ hour + minute = 0) then
      some ("+" ++ decimalPadded 2 hour ++ ":" ++ decimalPadded 2 minute)
    else if sign = '-' then some ("-" ++ decimalPadded 2 hour ++ ":" ++ decimalPadded 2 minute)
    else none

/-- The normal form of a date. -/
def Date.render (date : Date) : String :=
  decimalPadded 4 date.year ++ "-" ++ decimalPadded 2 date.month ++ "-" ++
    decimalPadded 2 date.day

/-- The digits of a fraction without zeros at the end; one digit stays. -/
def fractionDigits (nanosecond : Nat) : String :=
  let digits := ((decimalPadded 9 nanosecond).toList.reverse.dropWhile (· == '0')).reverse
  if digits.isEmpty then "0" else String.ofList digits

/-- The normal form of a time. -/
def Time.render (time : Time) : String :=
  decimalPadded 2 time.hour ++ ":" ++ decimalPadded 2 time.minute ++
    (match time.second with
      | some second => ":" ++ decimalPadded 2 second
      | none => "") ++
    (match time.nanosecond with
      | some nanosecond => "." ++ fractionDigits nanosecond
      | none => "")

/-- The sign between a date and a time. -/
def separatesTime (c : Char) : Bool := c == 'T' || c == 't' || c == ' '

/-- The normal form of a text that is a date, a time or both. -/
def datetime? (cs : List Char) : Option String :=
  match date? cs with
  | some (date, []) => some date.render
  | some (date, c :: rest) =>
    if separatesTime c then do
      let (time, rest) ← time? rest
      let zone ← zone? rest
      some (date.render ++ "T" ++ time.render ++ zone)
    else none
  | none =>
    match time? cs with
    | some (time, []) => some time.render
    | _ => none

end TilingConfig.Toml
