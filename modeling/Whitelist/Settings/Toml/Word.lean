import Whitelist.Settings.Toml.Time
import Whitelist.Settings.Value

/-!
# Words without quotes in TOML

Switches, numbers, dates and times stand without quotes.

## What is here

* `grouped?` — digits with underscores between them.
* `int?`, `float?` — whole numbers of 64 bits, and numbers with a point or an exponent.
* `ofWord?` — the value of a word.
-/

set_option autoImplicit false
namespace Whitelist.Toml

/-- Digits, between any two of which an underscore may stand. -/
def grouped? (isDigit : Char → Bool) (cs : List Char) : Option (List Char) :=
  let groups := cs.splitOn '_'
  if groups.all fun group => group ≠ [] && group.all isDigit then some groups.flatten else none

/-- Decimal digits without an idle zero in front. -/
def decimal? (cs : List Char) : Option (List Char) :=
  (grouped? Char.isDigit cs).filter fun ds => !(ds.head? = some '0' && ds.length > 1)

/-- Whether a minus sign stands in front, and the text without its sign. -/
def takeSign : List Char → Bool × List Char
  | '-' :: cs => (true, cs)
  | '+' :: cs => (false, cs)
  | cs => (false, cs)

/-- A whole number in base 16, 8 or 2. -/
def inBase? (base : Nat) (cs : List Char) : Option Int := do
  let ds ← grouped? (fun c => ((Text.hexValue? c).filter (· < base)).isSome) cs
  return (← Text.readBase? base ds)

/-- The whole number that a word writes. Only decimal ones may have a sign. -/
def int? (cs : List Char) : Option Int :=
  match cs with
  | '0' :: 'x' :: cs => inBase? 16 cs
  | '0' :: 'o' :: cs => inBase? 8 cs
  | '0' :: 'b' :: cs => inBase? 2 cs
  | cs => do
    let (negative, cs) := takeSign cs
    let n : Int := Text.numberOf (← decimal? cs)
    return if negative then -n else n

/-- The digits after a point, if there is one; at least one has to follow it. -/
def part? (cs : List Char) : Option (List Char) :=
  match cs with
  | [] => some []
  | c :: cs => if c = '.' then grouped? Char.isDigit cs else none

/-- An exponent with its letter, if there is one. -/
def exponent? (cs : List Char) : Option Int :=
  match cs with
  | [] => some 0
  | _ :: cs => do
    let (negative, cs) := takeSign cs
    let n : Int := Text.numberOf (← grouped? Char.isDigit cs)
    return if negative then -n else n

/-- The number with a point or an exponent that a word writes; one without bound is no number. -/
def float? (cs : List Char) : Option Double := do
  let (negative, cs) := takeSign cs
  if cs = "inf".toList then return .infinite negative
  if cs = "nan".toList then return .nan
  let (digits, exponent) := cs.span fun c => !(c = 'e' || c = 'E')
  let (whole, part) := digits.span (· ≠ '.')
  let whole ← decimal? whole
  let part ← part? part
  match Double.ofDecimal negative (Text.numberOf (whole ++ part))
      ((← exponent? exponent) - part.length) with
  | .infinite _ => none
  | x => some x

/-- The value of a word. Dates and times are kept as text. -/
def ofWord? (cs : List Char) : Option Setting :=
  if cs = "true".toList then some (.bool true)
  else if cs = "false".toList then some (.bool false)
  else
    match time? cs, int? cs with
    | some text, _ => some (.text (.ofList text))
    | none, some n => (int64? n).map fun _ => .int n
    | none, none => (float? cs).map .float

end Whitelist.Toml
