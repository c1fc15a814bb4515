import Whitelist.Rest

/-!
# Names in ASCII

A text with characters beyond ASCII can be written in ASCII: its ASCII characters, a dash, and for
each other character, in ascending order, how much further on it comes, counting up the characters
and for each of them the places in the text. The counts are numbers of variable length whose digits
change their weight with what has been written before.

## What is here

* `Punycode.threshold`, `Punycode.adapt` — the weights of digits.
* `Punycode.encode` — a text in ASCII.
* `Punycode.decode?` — a text that is written in ASCII.
-/

set_option autoImplicit false
namespace Whitelist.Punycode

/-! ## Weights -/

/-- The number of digits. -/
def base : Nat := 36

/-- The least threshold. -/
def minThreshold : Nat := 1

/-- The greatest threshold. -/
def maxThreshold : Nat := 26

/-- The digit at a place from which on a number goes on at the next place. Places count in steps of
the base. -/
def threshold (place bias : Nat) : Nat :=
  if place ≤ bias then minThreshold
  else if bias + maxThreshold ≤ place then maxThreshold
  else place - bias

theorem threshold_pos (place bias : Nat) : 0 < threshold place bias := by
  unfold threshold minThreshold maxThreshold
  split
  · omega
  · split <;> omega

/-- The greatest count that is not made smaller. -/
def maxCount : Nat := 455

/-- A count made smaller, and the places that it lost. -/
def shrink (count places : Nat) : Nat × Nat :=
  if maxCount < count then shrink (count / (base - minThreshold)) (places + base)
  else (count, places)
termination_by count
decreasing_by exact Nat.div_lt_self (by unfold maxCount at *; omega) (by decide)

/-- The bias after a count was written for one of so many characters. -/
def adapt (count length : Nat) (isFirst : Bool) : Nat :=
  let count := if isFirst then count / 700 else count / 2
  let (count, places) := shrink (count + count / length) 0
  places + base * count / (count + 38)

/-- The bias at the start. -/
def firstBias : Nat := 72

/-- The number of the first character beyond ASCII. -/
def firstBeyond : Nat := 0x80

/-- Whether a character is in ASCII. -/
def isAscii (c : Char) : Bool := c.toNat < firstBeyond

/-! ## Writing -/

/-- A digit: a letter for those below 26, and for the others a digit from 0 on. -/
def digit (n : Nat) : Char :=
  if n < 26 then .ofNat ('a'.toNat + n) else .ofNat ('0'.toNat + (n - 26))

theorem rest_lt (n t : Nat) (ht : 0 < t) (h : ¬n < t) : (n - t) / (base - t) < n := by
  have := Nat.div_le_self (n - t) (base - t)
  omega

/-- A number from a place on. -/
def number (bias place n : Nat) : List Char :=
  if n < threshold place bias then [digit n]
  else
    let t := threshold place bias
    digit (t + (n - t) % (base - t)) :: number bias (place + base) ((n - t) / (base - t))
termination_by n
decreasing_by exact rest_lt n _ (threshold_pos place bias) (by assumption)

/-- What is known in the course of writing. -/
structure Writer where
  /-- The count since the last character. -/
  count : Nat := 0
  bias : Nat := firstBias
  /-- How many characters are written. -/
  written : Nat
  /-- The text so far. -/
  output : List Char

/-- One place of the text passed while characters of a number are written. -/
def Writer.pass (basic point : Nat) (writer : Writer) (c : Char) : Writer :=
  if c.toNat < point then { writer with count := writer.count + 1 }
  else if c.toNat = point then
    { count := 0
      bias := adapt writer.count (writer.written + 1) (writer.written = basic)
      written := writer.written + 1
      output := writer.output ++ number writer.bias base writer.count }
  else writer

/-- All characters of a number written, coming from another number. -/
def Writer.write (basic : Nat) (text : List Char) (step : Writer × Nat) (point : Nat) :
    Writer × Nat :=
  let (writer, from') := step
  let writer := { writer with count := writer.count + (point - from') * (writer.written + 1) }
  let writer := text.foldl (pass basic point) writer
  ({ writer with count := writer.count + 1 }, point + 1)

/-- A text in ASCII. -/
def encode (text : List Char) : List Char :=
  let basic := text.filter isAscii
  let points := ((text.filter (!isAscii ·)).map Char.toNat).mergeSort.eraseDups
  let start : Writer :=
    { written := basic.length, output := if basic = [] then [] else basic ++ ['-'] }
  (points.foldl (Writer.write basic.length text) (start, firstBeyond)).1.output

/-! ## Reading -/

/-- The value of a digit. -/
def digitValue? (c : Char) : Option Nat :=
  if 'a' ≤ c ∧ c ≤ 'z' then some (c.toNat - 'a'.toNat)
  else if 'A' ≤ c ∧ c ≤ 'Z' then some (c.toNat - 'A'.toNat)
  else if c.isDigit then some (c.toNat - '0'.toNat + 26)
  else none

/-- A number from a place on whose digits have a weight, added to what is there, and what
follows. -/
def readNumber? (bias place weight n : Nat) : List Char → Option (Nat × List Char)
  | [] => none
  | c :: rest => do
    let value ← digitValue? c
    let t := threshold place bias
    let n := n + value * weight
    if value < t then return (n, rest)
    else readNumber? bias (place + base) (weight * (base - t)) n rest

/-- The character of a number, if there is one. -/
def char? (n : Nat) : Option Char :=
  let c := Char.ofNat n
  if c.toNat = n then some c else none

/-- A text with the characters put in that counts tell: the next one comes at a place or later and
has a number or a greater one. -/
def insertAll (text : List Char) (point place bias : Nat) (counts : List Char) :
    Option (List Char) :=
  if counts = [] then some text
  else do
    let (count, rest) ← readNumber? bias base 1 0 counts
    let ⟨rest, _h⟩ ← Rest.of? rest counts
    let length := text.length + 1
    let point := point + (place + count) / length
    let at' := (place + count) % length
    let text := text.insertIdx at' (← char? point)
    insertAll text point (at' + 1) (adapt count length (place = 0)) rest
termination_by counts.length

/-- A text that is written in ASCII. Before the last dash stand its ASCII characters, if there are
any. -/
def decode? (written : List Char) : Option (List Char) :=
  let counts := (written.reverse.takeWhile (· ≠ '-')).reverse
  let basic := written.take (written.length - counts.length - 1)
  if basic = [] then insertAll [] firstBeyond 0 firstBias written
  else insertAll basic firstBeyond 0 firstBias counts

end Whitelist.Punycode
