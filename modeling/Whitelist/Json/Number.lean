import Whitelist.Json.Basic
import Whitelist.Text.Numeral

/-!
# Numbers in JSON

A whole number that fits into 64 bits is exact. Any other number is gathered digit by digit as long
as the digits fit into a word of 64 bits, and then scaled by a power of ten. Both steps may round,
so the result can be a neighbour of the number that is nearest.

## What is here

* `Gathered`, `Gathered.ofDigits` — the leading digits of a number and what they are to be scaled
  by.
* `Gathered.value?` — the scaled number, if it has a bound.
* `Json.ofNumber` — the value with given digits and exponent.
-/

set_option autoImplicit false
namespace Whitelist.Json

/-- The leading digits of a number as a word, and the power of ten that they count. -/
structure Gathered where
  digits : Nat
  exponent : Int
  deriving DecidableEq, Repr

/-- The number with one digit more, if it still fits into 64 bits. -/
def withDigit? (n : Nat) (c : Char) : Option Nat :=
  let longer := 10 * n + Text.digitValue c
  if longer < UInt64.size then some longer else none

/-- Digits before the point. The first one that does not fit and all behind it only count as
places. -/
def gatherWhole (n : Nat) : List Char → Gathered
  | [] => ⟨n, 0⟩
  | c :: cs =>
    match withDigit? n c with
    | some n => gatherWhole n cs
    | none => ⟨n, cs.length + 1⟩

/-- Digits after the point, behind those before it. The first one that does not fit and all behind
it are dropped. -/
def gatherPart (gathered : Gathered) : List Char → Gathered
  | [] => gathered
  | c :: cs =>
    match withDigit? gathered.digits c with
    | some n => gatherPart ⟨n, gathered.exponent - 1⟩ cs
    | none => gathered

namespace Gathered

/-- The digits of a number before and after its point, and its exponent. -/
def ofDigits (whole part : List Char) (exponent : Int) : Gathered :=
  let gathered := gatherPart (gatherWhole 0 whole) part
  ⟨gathered.digits, gathered.exponent + exponent⟩

/-- The largest power of ten that a number is scaled by at once. -/
def maxStep : Nat := 308

/-- A power of ten. -/
def tenTo (n : Nat) : Double := .ofDecimal false 1 n

/-- A number over `10 ^ n`, in steps. Three whole steps leave nothing of a word of 64 bits. -/
def shrunk (x : Double) (n : Nat) : Double :=
  let steps := List.replicate (min (n / maxStep) 3) (tenTo maxStep)
  (steps.foldl Double.dividedBy x).dividedBy (tenTo (n % maxStep))

/-- The number without a sign, unless it has no bound. -/
def value? (gathered : Gathered) : Option Double :=
  let x := Double.ofDecimal false gathered.digits 0
  let e := gathered.exponent
  if x.isZero then some x
  else if e < 0 then some (shrunk x (-e).toNat)
  else if maxStep < e then none
  else
    match x.times (tenTo e.toNat) with
    | .infinite _ => none
    | y => some y

end Gathered

/-- The value of a number with a point or an exponent, or with too many digits. -/
def ofGathered (negative : Bool) (gathered : Gathered) : Json :=
  match gathered.value? with
  | some x => float (if negative then x.negate else x)
  | none => unreadable

/-- The value of a number with these parts. Zero with a minus sign is no whole number. -/
def ofNumber (negative : Bool) (whole : List Char) (part : Option (List Char))
    (exponent : Option Int) : Json :=
  let n := Text.numberOf whole
  let gathered := Gathered.ofDigits whole (part.getD []) (exponent.getD 0)
  if part.isSome ∨ exponent.isSome then ofGathered negative gathered
  else if negative then
    if 0 < n ∧ n ≤ Int64.minValue.toInt.natAbs then int (-n) else ofGathered negative gathered
  else if n < UInt64.size then int n
  else ofGathered negative gathered

end Whitelist.Json
