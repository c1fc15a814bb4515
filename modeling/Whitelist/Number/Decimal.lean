import Whitelist.Number.Double
import Whitelist.Text.Ascii
import Whitelist.Text.Numeral

/-!
# Reading decimals

A decimal has digits before or after its point and may have an exponent. Infinity and what is no
number are written as words, in letters of either case.

## What is here

* `Double.ofText?` — the number nearest to what a text writes.
* `Double.toInt64` — the nearest whole number of 64 bits.
-/

set_option autoImplicit false
namespace Whitelist.Double

open Text (digits numberOf readInt?)

/-- A sign in front of a number taken off. -/
def takeSign : List Char → Bool × List Char
  | '-' :: cs => (true, cs)
  | '+' :: cs => (false, cs)
  | cs => (false, cs)

/-- The numbers that are written as words. -/
def ofWord? (negative : Bool) (cs : List Char) : Option Double :=
  let w := cs.map Char.toLower
  if w = "inf".toList ∨ w = "infinity".toList then some (infinite negative)
  else if w = "nan".toList then some nan
  else none

/-- The exponent that the rest of a decimal is; the exponent of a decimal without one is 0. -/
def exponentOf? : List Char → Option Int
  | [] => some 0
  | c :: cs => if c = 'e' ∨ c = 'E' then readInt? cs else none

/-- The digits after a point, if there is a point, and the rest. -/
def takeFraction : List Char → List Char × List Char
  | '.' :: cs => digits cs
  | cs => ([], cs)

/-- The number nearest to a decimal without a sign. -/
def ofDigits? (negative : Bool) (cs : List Char) : Option Double := do
  let (whole, rest) := digits cs
  let (part, rest) := takeFraction rest
  if whole = [] ∧ part = [] then none
  let exponent ← exponentOf? rest
  return ofDecimal negative (numberOf (whole ++ part)) (exponent - part.length)

/-- The number nearest to what the text writes. -/
def ofText? (cs : List Char) : Option Double :=
  let (negative, cs) := takeSign cs
  (ofWord? negative cs).orElse fun () => ofDigits? negative cs

/-- The nearest whole number of 64 bits, a half going away from zero; 0 for what is no number. -/
def toInt64 (x : Double) : Int64 :=
  match x with
  | nan => 0
  | infinite negative => if negative then Int64.minValue else Int64.maxValue
  | finite .. =>
    let n := x.round?.getD 0
    .ofInt (max Int64.minValue.toInt (min n Int64.maxValue.toInt))

end Whitelist.Double
