import Whitelist.Number.Double

/-!
# JSON values

A value keeps the members of an object in the order in which they are written and keeps repeated
names, because whether a name is repeated decides whether a record can be read.

## What is here

* `Json` — a value. Whole numbers of at most 64 bits are exact; all other numbers are binary
  floating-point numbers.
* `Json.readable` — the value and all its parts can be read.
* `Json.collapse` — the value with the last of several members of one name in place of all.
-/

set_option autoImplicit false
namespace Whitelist

/-- A JSON value. -/
inductive Json where
  | null
  | bool (b : Bool)
  | int (n : Int)
  | float (x : Double)
  | str (s : String)
  | arr (items : List Json)
  | obj (members : List (String × Json))
  /-- What is written correctly but stands for no value: half of a surrogate pair, a number without
  bound, or an array or object at too great a depth. It may be passed over but not read. -/
  | unreadable
  deriving Repr, Inhabited, BEq

namespace Json

mutual

/-- Whether the value and all its parts can be read. -/
def readable : Json → Bool
  | unreadable => false
  | arr items => readableItems items
  | obj ms => readableMembers ms
  | _ => true

/-- Whether all items can be read. -/
def readableItems : List Json → Bool
  | [] => true
  | item :: rest => item.readable && readableItems rest

/-- Whether the values of all members can be read. -/
def readableMembers : List (String × Json) → Bool
  | [] => true
  | (_, value) :: rest => value.readable && readableMembers rest

end

mutual

/-- The value in which each object keeps the last of several members of one name. -/
def collapse : Json → Json
  | arr items => arr (collapseItems items)
  | obj ms => obj (collapseMembers ms)
  | value => value

/-- The items, each collapsed. -/
def collapseItems : List Json → List Json
  | [] => []
  | item :: rest => item.collapse :: collapseItems rest

/-- The members, each collapsed, without those that a later one of the same name replaces. -/
def collapseMembers : List (String × Json) → List (String × Json)
  | [] => []
  | (name, value) :: rest =>
    if rest.any (·.1 = name) then collapseMembers rest
    else (name, value.collapse) :: collapseMembers rest

end

end Json
end Whitelist
