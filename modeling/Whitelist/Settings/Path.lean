import Whitelist.Number.Word
import Whitelist.Text.Numeral

/-!
# Names of settings

A setting is named by the way that leads to it. A dot leads to an entry of a table, and a number in
brackets to a place in a list, counted from the end where it is negative: `console.mode`,
`console.remote.server_addrs[0]`, `console.remote.server_addrs[-1]`.

## What is here

* `Step`, `Path` — steps into tables and lists.
* `Path.ofName?` — the path that a name writes.
* `Path.ofKey` — the same for any text; one that is no such name is a single step.
-/

set_option autoImplicit false
namespace Whitelist

/-- A step from a value to a part of it. -/
inductive Step where
  /-- The entry of a table. -/
  | entry (name : String)
  /-- The place in a list; -1 is the last one. -/
  | place (index : Int)
  deriving DecidableEq, Repr

/-- The steps that lead to a value. -/
abbrev Path : Type := List Step

namespace Path

/-- Whether a character may stand in a name without quotes. -/
def isNameChar (c : Char) : Bool := c.isAlphanum || c = '_' || c = '-'

/-- The step that a text without points and brackets is. -/
def entry? (name : List Char) : Option Step :=
  if name ≠ [] ∧ name.all isNameChar then some (.entry (.ofList name)) else none

/-- Whether a character is a blank between brackets. -/
def isBlank (c : Char) : Bool := c = ' ' || c = '\t'

/-- The place that a text between brackets is: a number of 64 bits without a plus sign, blanks
around it. -/
def place? (number : List Char) : Option Step :=
  let digits := ((number.dropWhile isBlank).reverse.dropWhile isBlank).reverse
  if digits.head? = some '+' then none
  else (Text.readInt64? digits).map fun index => .place index.toInt

/-- The places that a text of numbers in brackets leads to, one after the other. -/
def places? (numbers : List (List Char)) : Option Path :=
  match numbers with
  | [] => some []
  | number :: rest =>
    match number.getLast? with
    | some ']' => do return (← place? number.dropLast) :: (← places? rest)
    | _ => none

/-- The steps that the text between two points is. -/
def steps? (text : List Char) : Option Path :=
  match text.splitOn '[' with
  | [] => none
  | name :: numbers => do return (← entry? name) :: (← places? numbers)

/-- The path that a name writes. -/
def ofName? (name : String) : Option Path :=
  ((name.toList.splitOn '.').mapM steps?).map List.flatten

/-- The path that a text is, which is a single step unless the text is a name. -/
def ofKey (key : String) : Path := (ofName? key).getD [.entry key]

end Path
end Whitelist
