/-!
# Binary floating-point numbers

A number with a point or an exponent is taken as the nearest binary floating-point number of 64
bits, and written again with the fewest digits that read back as the same number. All of it is
arithmetic on natural numbers.

## What is here

* `Double` — a number `m · 2 ^ e` with its sign, an infinity, or no number.
* `Double.ofDecimal` — the number nearest to a decimal; of two equally near, the one with even `m`.
* `Double.times`, `Double.dividedBy` — the numbers nearest to a product and to a quotient.
* `Double.shortest` — the fewest decimal digits that lie within reach of the number.
* `Double.text` — those digits with a point and no exponent.
* `Double.round` — the nearest whole number, a half going away from zero.
-/

set_option autoImplicit false
namespace Whitelist

/-- A binary floating-point number of 64 bits. -/
inductive Double where
  | nan
  | infinite (negative : Bool)
  /-- The number `mantissa · 2 ^ exponent`; the mantissa has at most 53 bits, and all of them unless
  the exponent is the smallest, -1074. -/
  | finite (negative : Bool) (mantissa : Nat) (exponent : Int)
  deriving DecidableEq, Repr

namespace Double

/-- The whole number nearest to a quotient, the even one of two equally near. -/
def roundDiv (num den : Nat) : Nat :=
  let q := num / den
  let twice := 2 * (num % den)
  if twice < den ∨ (twice = den ∧ q % 2 = 0) then q else q + 1

/-- The factor of the numerator in `base ^ e`. -/
def up (base : Nat) (e : Int) : Nat := Nat.pow base e.toNat

/-- The factor of the denominator in `base ^ e`. -/
def down (base : Nat) (e : Int) : Nat := Nat.pow base (-e).toNat

/-- The first number with more bits than a mantissa has. -/
def mantissaBound : Nat := 0x20000000000000

/-- The smallest mantissa of 53 bits. -/
def leastFull : Nat := 0x10000000000000

/-- The smallest exponent of two. -/
def minExponent : Int := -1074

/-- The largest exponent of two. -/
def maxExponent : Int := 971

/-- The number nearest to the quotient of two positive numbers. -/
def ofRatio (negative : Bool) (num den : Nat) : Double :=
  let guess : Int := (Nat.log2 num : Int) - Nat.log2 den - 53
  let tooBig : Bool := mantissaBound * (den * up 2 guess) ≤ num * down 2 guess
  let e := max (if tooBig then guess + 1 else guess) minExponent
  let m := roundDiv (num * down 2 e) (den * up 2 e)
  let (m, e) := if m = mantissaBound then (leastFull, e + 1) else (m, e)
  if e > maxExponent then infinite negative else finite negative m e

/-- The number nearest to `digits · 10 ^ exponent`. -/
def ofDecimal (negative : Bool) (digits : Nat) (exponent : Int) : Double :=
  let size : Int := (Nat.toDigits 10 digits).length + exponent
  if digits = 0 ∨ size < -400 then finite negative 0 minExponent
  else if size > 400 then infinite negative
  else ofRatio negative (digits * up 10 exponent) (down 10 exponent)

/-- Whether the number is zero, of either sign. -/
def isZero : Double → Bool
  | finite _ 0 _ => true
  | _ => false

/-- The number with the other sign. -/
def negate : Double → Double
  | nan => nan
  | infinite negative => infinite !negative
  | finite negative m e => finite (!negative) m e

/-- The number nearest to `num / den · 2 ^ e`. -/
def ofScaled (negative : Bool) (num den : Nat) (e : Int) : Double :=
  if num = 0 then finite negative 0 minExponent
  else ofRatio negative (num * up 2 e) (den * down 2 e)

/-- The number nearest to the product of two finite ones. -/
def times : Double → Double → Double
  | finite s m e, finite s' m' e' => ofScaled (s != s') (m * m') 1 (e + e')
  | _, _ => nan

/-- The number nearest to the quotient of two finite ones, the second of which is not zero. -/
def dividedBy : Double → Double → Double
  | finite s m e, finite s' m' e' => ofScaled (s != s') m m' (e - e')
  | _, _ => nan

/-! ## Shortest digits -/

/-- The exponent of ten of the first digit of `m · 2 ^ e`, for `m` above zero. -/
def leadingExponent (m : Nat) (e : Int) : Int :=
  ((Nat.toDigits 10 (m * up 2 e * up 10 400 / down 2 e)).length : Int) - 401

/-- The multiple of `10 ^ k` that reads back as `m · 2 ^ e`, if one of the two next to it does; the
nearer of them where both do, and the larger where they are equally near. The numbers that read back
lie between the midpoints to the two neighbours, the midpoints included where `m` is even. -/
def gridPoint? (m : Nat) (e k : Int) : Option Nat :=
  let a := up 10 k * down 2 (e - 2)
  let b := up 2 (e - 2) * down 10 k
  let value := 4 * m * b
  let low := if m = leastFull ∧ e > minExponent then value - b else value - 2 * b
  let high := value + 2 * b
  let reads (c : Nat) : Bool :=
    if m % 2 = 0 then low ≤ c * a && c * a ≤ high else low < c * a && c * a < high
  let c := value / a
  let lowerNearer : Bool := value - c * a < (c + 1) * a - value
  if reads c && (lowerNearer || !reads (c + 1)) then some c
  else if reads (c + 1) then some (c + 1)
  else none

/-- The fewest decimal digits, with their exponent of ten, that read back as `m · 2 ^ e`: the first
hit on the grids of 1, 2, … 17 digits. -/
def shortest (m : Nat) (e : Int) : Nat × Int :=
  let lead := leadingExponent m e
  let hits := (List.range 17).filterMap fun (i : Nat) =>
    let k := lead - i
    (gridPoint? m e k).map fun c => (c, k)
  hits.head?.getD (m, e)

/-! ## Text and whole numbers -/

/-- Digits with the point `places` from their right end, zeros put in where digits are missing. -/
def withPoint (digits : List Char) (places : Nat) : List Char :=
  let digits := List.replicate (places + 1 - digits.length) '0' ++ digits
  let (whole, part) := digits.splitAt (digits.length - places)
  whole ++ '.' :: part

/-- `digits · 10 ^ exponent` without an exponent, and without zeros after the last digit that
counts. -/
def positional (digits : Nat) (exponent : Int) : List Char :=
  let ds := Nat.toDigits 10 digits
  let trailing := min (ds.reverse.takeWhile (· = '0')).length (-exponent).toNat
  let ds := ds.take (ds.length - trailing)
  let exponent := exponent + trailing
  if 0 ≤ exponent then ds ++ List.replicate exponent.toNat '0'
  else withPoint ds (-exponent).toNat

/-- The sign in front of a number. -/
def signText (negative : Bool) : List Char := if negative then ['-'] else []

/-- The number in decimal digits without an exponent. -/
def text : Double → String
  | nan => "NaN"
  | infinite negative => .ofList (signText negative ++ "inf".toList)
  | finite negative m e =>
    if m = 0 then .ofList (signText negative ++ ['0'])
    else
      let (digits, k) := shortest m e
      .ofList (signText negative ++ positional digits k)

/-- The nearest whole number, a half going away from zero; nothing for what is no finite number. -/
def round? : Double → Option Int
  | finite negative m e =>
    let n : Int := (2 * m * up 2 e + down 2 e) / (2 * down 2 e)
    some (if negative then -n else n)
  | _ => none

end Double
end Whitelist
