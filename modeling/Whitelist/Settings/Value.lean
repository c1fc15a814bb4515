import Whitelist.Number.Decimal
import Whitelist.Text.Ascii

/-!
# Values of settings

Settings come from files, from the environment and from the command line, which write the same thing
in different ways: a number may come as text, and a switch as a number. A value is therefore kept as
it was written, and read as what is wanted when it is wanted.

## What is here

* `Setting` — a value, or a table of values.
* `Setting.text?`, `Setting.int?`, `Setting.flag?`, `Setting.items?` — the value as something; none
  where it cannot be read as that.
-/

set_option autoImplicit false
namespace Whitelist

/-- The value of a setting. -/
inductive Setting where
  | null
  | bool (b : Bool)
  | int (n : Int)
  | float (x : Double)
  | text (s : String)
  | list (items : List Setting)
  | table (entries : List (String × Setting))
  deriving Repr, Inhabited, BEq

namespace Setting

/-- A single value as text. -/
def text? : Setting → Option String
  | text s => some s
  | bool b => some (if b then "true" else "false")
  | int n => some (toString n)
  | float x => some x.text
  | _ => none

/-- The words for yes. -/
def yesWords : List String := ["true", "on", "yes"]

/-- The words for no. -/
def noWords : List String := ["false", "off", "no"]

/-- The number that a text stands for: yes is 1 and no is 0, in letters of either case. -/
def intOfText? (s : String) : Option Int64 :=
  let word := Text.lower s
  if word ∈ yesWords then some 1
  else if word ∈ noWords then some 0
  else Text.readInt64? s.toList

/-- A single value as a whole number of 64 bits. -/
def int? : Setting → Option Int64
  | int n => int64? n
  | bool b => some (if b then 1 else 0)
  | float x => some x.toInt64
  | text s => intOfText? s
  | _ => none

/-- The switch that a text stands for. -/
def flagOfText? (s : String) : Option Bool :=
  let word := Text.lower s
  if word = "1" ∨ word ∈ yesWords then some true
  else if word = "0" ∨ word ∈ noWords then some false
  else none

/-- A single value as a switch; every number but zero is on. -/
def flag? : Setting → Option Bool
  | bool b => some b
  | int n => some (n ≠ 0)
  | float x => some (!x.isZero)
  | text s => flagOfText? s
  | _ => none

/-- The items of a list. -/
def items? : Setting → Option (List Setting)
  | list items => some items
  | _ => none

end Setting
end Whitelist
