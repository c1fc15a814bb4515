import Whitelist.Number.Word

/-!
# Decimal numerals

Whole numbers are read from ASCII digits only, at least one of them, leading zeros allowed.

## What is here

* `digits` — the run of digits that a text starts with.
* `readNat?` — digits alone.
* `readUnsigned?` — digits after an optional plus sign.
* `readInt?` — digits after an optional plus or minus sign.
* `readBelow?`, `readInt64?`, `readUInt64?` — the same within a range of values.
* `hexValue?`, `readBase?` — digits of other bases than ten.
-/

set_option autoImplicit false
namespace Whitelist.Text

/-- The value of a digit character. -/
def digitValue (c : Char) : Nat := c.toNat - '0'.toNat

/-- The number written by a run of digits, most significant first. -/
def numberOf (digits : List Char) : Nat := digits.foldl (fun n c => 10 * n + digitValue c) 0

/-- The longest run of digits at the start of the text, and what follows it. -/
def digits (cs : List Char) : List Char × List Char :=
  (cs.takeWhile Char.isDigit, cs.dropWhile Char.isDigit)

/-- The number that the text writes, if it is a non-empty run of ASCII digits. -/
def readNat? (cs : List Char) : Option Nat :=
  if cs ≠ [] ∧ cs.all Char.isDigit then some (numberOf cs) else none

/-- A number without a minus sign; one plus sign may stand in front. -/
def readUnsigned? : List Char → Option Nat
  | '+' :: cs => readNat? cs
  | cs => readNat? cs

/-- A number with at most one sign in front. -/
def readInt? : List Char → Option Int
  | '-' :: cs => (readNat? cs).map fun n => -(n : Int)
  | cs => (readUnsigned? cs).map fun n => (n : Int)

/-- An unsigned number below `bound`. -/
def readBelow? (bound : Nat) (cs : List Char) : Option Nat :=
  (readUnsigned? cs).filter (· < bound)

/-- A signed number of 64 bits. -/
def readInt64? (cs : List Char) : Option Int64 := (readInt? cs).bind int64?

/-- An unsigned number of 64 bits. -/
def readUInt64? (cs : List Char) : Option UInt64 :=
  (readBelow? UInt64.size cs).map .ofNat

/-! ## Other bases -/

/-- The value of a hexadecimal digit. -/
def hexValue? (c : Char) : Option Nat :=
  if c.isDigit then some (digitValue c)
  else if 'a' ≤ c ∧ c ≤ 'f' then some (c.toNat - 'a'.toNat + 10)
  else if 'A' ≤ c ∧ c ≤ 'F' then some (c.toNat - 'A'.toNat + 10)
  else none

/-- The number that a non-empty run of digits writes in a base of at most sixteen. -/
def readBase? (base : Nat) (cs : List Char) : Option Nat := do
  let values ← cs.mapM fun c => (hexValue? c).filter (· < base)
  if values = [] then none else return values.foldl (fun n v => base * n + v) 0

end Whitelist.Text
