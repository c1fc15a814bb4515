import Whitelist.Text.Numeral

/-!
# Dates and times in TOML

A date, a time of day, or both with or without the distance from universal time. They are kept as
text in one form: capital letters, and fractions of a second with at most nine digits and without
idle zeros.

## What is here

* `number?`, `sign?` — parts of a date or time.
* `date`, `clock`, `offset` — a date, a time of day and a distance.
* `Toml.time?` — the text of any of them.
-/

set_option autoImplicit false
namespace Whitelist.Toml

/-- A number of so many digits within bounds, and what follows it. -/
def number? (width low high : Nat) (cs : List Char) : Option (Nat × List Char) :=
  let ds := cs.take width
  match Text.readNat? ds with
  | some n => if ds.length = width ∧ low ≤ n ∧ n ≤ high then some (n, cs.drop width) else none
  | none => none

/-- What follows a sign. -/
def sign? (sign : Char) : List Char → Option (List Char)
  | [] => none
  | c :: cs => if c = sign then some cs else none

/-- A number in at least so many digits. -/
def padded (width n : Nat) : List Char :=
  let ds := Nat.toDigits 10 n
  List.replicate (width - ds.length) '0' ++ ds

/-! ## Dates -/

/-- Whether a year has a leap day. -/
def isLeapYear (year : Nat) : Bool := year % 4 = 0 && (year % 100 ≠ 0 || year % 400 = 0)

/-- How many days a month has. -/
def daysIn (year month : Nat) : Nat :=
  if month = 2 then (if isLeapYear year then 29 else 28)
  else if month ∈ [4, 6, 9, 11] then 30
  else 31

/-- A date, and what follows it. -/
def date (cs : List Char) : Option (List Char × List Char) := do
  let (year, cs) ← number? 4 0 9999 cs
  let (month, cs) ← number? 2 1 12 (← sign? '-' cs)
  let (day, cs) ← number? 2 1 (daysIn year month) (← sign? '-' cs)
  return (padded 4 year ++ '-' :: padded 2 month ++ '-' :: padded 2 day, cs)

/-! ## Times -/

/-- Fractions of a second: nine digits at most, no zeros behind the last digit that counts, but at
least one digit. -/
def fractionText (ds : List Char) : List Char :=
  let ds := ((ds.take 9).reverse.dropWhile (· = '0')).reverse
  if ds = [] then ['0'] else ds

/-- Fractions of a second after a point, if there are any, and what follows them. -/
def fraction (cs : List Char) : Option (List Char × List Char) :=
  match sign? '.' cs with
  | none => some ([], cs)
  | some cs =>
    let (ds, rest) := Text.digits cs
    if ds = [] then none else some ('.' :: fractionText ds, rest)

/-- A time of day, and what follows it. The seconds may be left out; there may be a leap second. -/
def clock (cs : List Char) : Option (List Char × List Char) := do
  let (hour, cs) ← number? 2 0 23 cs
  let (minute, cs) ← number? 2 0 59 (← sign? ':' cs)
  let start := padded 2 hour ++ ':' :: padded 2 minute
  match sign? ':' cs with
  | none => return (start, cs)
  | some cs =>
    let (second, cs) ← number? 2 0 60 cs
    let (part, cs) ← fraction cs
    return (start ++ ':' :: padded 2 second ++ part, cs)

/-- A distance from universal time that fills the rest of a text. No distance has a plus sign. -/
def offset? (cs : List Char) : Option (List Char) :=
  match cs with
  | [] => some []
  | c :: cs =>
    if c = 'Z' ∨ c = 'z' then (if cs = [] then some ['Z'] else none)
    else if c = '+' ∨ c = '-' then do
      let (hours, cs) ← number? 2 0 23 cs
      let (minutes, cs) ← number? 2 0 59 (← sign? ':' cs)
      let mark := if hours = 0 ∧ minutes = 0 then '+' else c
      if cs = [] then some (mark :: padded 2 hours ++ ':' :: padded 2 minutes) else none
    else none

/-- A time of day behind a date, and the letter or blank between them. -/
def clockBehind? (cs : List Char) : Option (List Char) :=
  match cs with
  | [] => some []
  | c :: cs =>
    if c = 'T' ∨ c = 't' ∨ c = ' ' then do
      let (time, cs) ← clock cs
      return 'T' :: time ++ (← offset? cs)
    else none

/-- The date or time that a text writes. -/
def time? (cs : List Char) : Option (List Char) :=
  match date cs with
  | some (day, cs) => (clockBehind? cs).map (day ++ ·)
  | none => (clock cs).bind fun (time, cs) => if cs = [] then some time else none

end Whitelist.Toml
