import Whitelist.Json.Basic
import Whitelist.Number.Word

/-!
# Reading JSON objects as records

A record is read from an object whose members may stand in any order, among others that are not
known. A field may be required, have a default, or be optional. A known field that is given twice,
under one name or under two, makes the object unreadable as that record. Most records may also be
written as an array of their fields in order; then a field can be missing only at the end, and
being optional does not excuse it.

## What is here

* `Slot` — what an object or array holds for one field.
* `slots` — the slots of a record that may be an object or an array.
* `memberSlots` — the slots of a record that may be an object only. The members of such an object
  are all read before the record is made of them, so every one has to be readable.
* `required`, `withDefault`, `optional`, `optionalOrNone` — the value of a field from its slot.
* `asString`, `asBool`, `asInt`, `asList`, `nullable`, `asName` — values of single fields.
-/

set_option autoImplicit false
namespace Whitelist.Wire

/-! ## Slots -/

/-- What is there for one field. -/
inductive Slot where
  /-- An object has no member of the field's names. -/
  | absent
  /-- An array ends before the field. -/
  | cut
  | given (value : Json)
  deriving Repr

/-- The names under which a field may be given, the first being the one that is written. -/
abbrev FieldNames : Type := List String

/-- The slot of a field in an object, unless the object gives the field twice. -/
def slot (members : List (String × Json)) (names : FieldNames) : Option Slot :=
  match members.filter fun m => m.1 ∈ names with
  | [] => some .absent
  | [m] => some (.given m.2)
  | _ => none

/-- The slots of the fields in an object or an array. -/
def slots (layout : List FieldNames) : Json → Option (List Slot)
  | .obj members => layout.mapM (slot members)
  | .arr items =>
    if items.length ≤ layout.length then
      some (items.map .given ++ List.replicate (layout.length - items.length) .cut)
    else none
  | _ => none

/-- The slots of the fields in an object all of whose other members are readable. -/
def memberSlots (layout : List FieldNames) : Json → Option (List Slot)
  | .obj members =>
    let others := members.filter fun m => layout.all fun names => m.1 ∉ names
    if Json.readableMembers others then layout.mapM (slot members) else none
  | _ => none

variable {α : Type}

/-- A field that has to be given. -/
def required (read : Json → Option α) : Slot → Option α
  | .given value => read value
  | _ => none

/-- A field that takes a default where it is missing. -/
def withDefault (fallback : α) (read : Json → Option α) : Slot → Option α
  | .given value => read value
  | _ => some fallback

/-- A value, or null for none. -/
def nullable (read : Json → Option α) : Json → Option (Option α)
  | .null => some none
  | value => (read value).map some

/-- A field that an object may leave out. -/
def optional (read : Json → Option α) : Slot → Option (Option α)
  | .given value => nullable read value
  | .absent => some none
  | .cut => none

/-- A field that an object or an array may leave out. -/
def optionalOrNone (read : Json → Option α) : Slot → Option (Option α) :=
  withDefault none (nullable read)

/-! ## Values of fields -/

/-- A string. -/
def asString : Json → Option String
  | .str s => some s
  | _ => none

/-- A truth value. -/
def asBool : Json → Option Bool
  | .bool b => some b
  | _ => none

/-- A whole number. -/
def asInt : Json → Option Int
  | .int n => some n
  | _ => none

/-- A signed number of 64 bits. -/
def asInt64 (value : Json) : Option Int64 := (asInt value).bind int64?

/-- A signed number of 32 bits. -/
def asInt32 (value : Json) : Option Int32 := (asInt value).bind int32?

/-- An unsigned number of 64 bits. -/
def asUInt64 (value : Json) : Option UInt64 := (asInt value).bind uint64?

/-- An unsigned number of 32 bits. -/
def asUInt32 (value : Json) : Option UInt32 := (asInt value).bind uint32?

/-- An array whose items can all be read. -/
def asList (read : Json → Option α) : Json → Option (List α)
  | .arr items => items.mapM read
  | _ => none

/-- One of a list of named values: its name, or an object whose one member has that name and the
value null. -/
def asName (all : List α) (name : α → String) : Json → Option α
  | .str s => all.find? (name · = s)
  | .obj [(s, .null)] => all.find? (name · = s)
  | _ => none

/-- The same where the value has been read before: the one member may also be an empty object. -/
def asNameLoosely (all : List α) (name : α → String) : Json → Option α
  | .obj [(s, .obj [])] => all.find? (name · = s)
  | value => asName all name value

/-! ## Writing -/

/-- A string, or null for none. -/
def ofOptional (write : α → Json) : Option α → Json
  | some a => write a
  | none => .null

/-- A member that is written only where there is a value. -/
def memberIf (name : String) (write : α → Json) : Option α → List (String × Json)
  | some a => [(name, write a)]
  | none => []

/-- A member that is written only where the list has items. -/
def memberOfList (name : String) (write : α → Json) : List α → List (String × Json)
  | [] => []
  | items => [(name, .arr (items.map write))]

/-- A signed number of 64 bits. -/
def ofInt64 (n : Int64) : Json := .int n.toInt

/-- A signed number of 32 bits. -/
def ofInt32 (n : Int32) : Json := .int n.toInt

/-- An unsigned number of 64 bits. -/
def ofUInt64 (n : UInt64) : Json := .int n.toNat

/-- An unsigned number of 32 bits. -/
def ofUInt32 (n : UInt32) : Json := .int n.toNat

end Whitelist.Wire
