import Whitelist.Text.Numeral

/-!
# Tables of characters

What is known of characters is kept in tables. A table is a text of words; each word tells something
of a run of characters, which is written with the hexadecimal numbers of the first and the last one.

## What is here

* `Entry`, `Entry.ofWord?` — a word of a table.
* `Entry.ofText` — a whole table.
* `Entry.of?`, `Entry.find?`, `Entry.has` — what a table tells of a character.
-/

set_option autoImplicit false
namespace Whitelist

/-- How the characters of a run are counted. -/
inductive Stride where
  /-- All of them, after the sign `-`. -/
  | each
  /-- Every second one, after the sign `/`. -/
  | second
  /-- All of them with one meaning in common, after the sign `=`. -/
  | together
  deriving DecidableEq, Repr

/-- What a table tells of a run of characters. -/
structure Entry where
  first : Nat
  last : Nat
  stride : Stride := .each
  /-- The numbers behind the sign `>`, with points between them. -/
  values : List Nat := []
  deriving DecidableEq, Repr

namespace Entry

/-- A hexadecimal number. -/
def number? (cs : List Char) : Option Nat := Text.readBase? 16 cs

/-- The stride that a sign stands for. -/
def stride? (sign : Char) : Option Stride :=
  [('-', Stride.each), ('/', .second), ('=', .together)].lookup sign

/-- The numbers behind the sign. -/
def valuesOf? (cs : List Char) : Option (List Nat) :=
  if cs = [] then some [] else (cs.splitOn '.').mapM number?

/-- A word of a table. -/
def ofWord? (word : List Char) : Option Entry := do
  let (run, values) := word.span (· ≠ '>')
  let (first, rest) := run.span Char.isAlphanum
  let first ← number? first
  let values ← valuesOf? (values.drop 1)
  match rest with
  | [] => return ⟨first, first, .each, values⟩
  | sign :: last => return ⟨first, ← number? last, ← stride? sign, values⟩

/-- A table. -/
def ofText (text : String) : List Entry :=
  ((text.toList.map fun c => if c = '\n' then ' ' else c).splitOn ' ').filterMap ofWord?

/-- Whether an entry tells something of a character. -/
def covers (entry : Entry) (n : Nat) : Bool :=
  entry.first ≤ n && n ≤ entry.last && (entry.stride ≠ .second || (n - entry.first) % 2 = 0)

/-- What an entry tells of one of its characters. Numbers count on in step with the characters. -/
def valuesAt (entry : Entry) (n : Nat) : List Nat :=
  match entry.stride with
  | .together => entry.values
  | _ => entry.values.map (· + (n - entry.first))

/-- The entry of a table that tells something of a number. The runs of a table start in ascending
order. -/
def of? (n : Nat) : List Entry → Option Entry
  | [] => none
  | entry :: rest =>
    if n < entry.first then none
    else if entry.covers n then some entry
    else of? n rest

/-- What a table tells of a character. -/
def find? (table : List Entry) (c : Char) : Option (List Nat) :=
  (of? c.toNat table).map (·.valuesAt c.toNat)

/-- Whether a table tells of a character. -/
def has (table : List Entry) (c : Char) : Bool := (of? c.toNat table).isSome

end Entry
end Whitelist
