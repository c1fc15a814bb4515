import Whitelist.Settings.Value

/-!
# Tables in TOML

A table comes to be in one of three ways: its header stands in the file, it lies on the way of
another header, or it lies on the way of a dotted name. Each way has rules of its own for what may
still be put into it. A value in braces is a table that nothing can be put into.

## What is here

* `Origin`, `Node` — how a table came to be, and what can stand under a name.
* `Node.setting` — what stands under a name as a setting.
* `within` — a change to the table at a path.
* `addEntry`, `openTable`, `openItem` — what an entry, a header and the header of a list item do.
-/

set_option autoImplicit false
namespace Whitelist.Toml

/-- How a table came to be. -/
inductive Origin where
  /-- By its header. -/
  | header
  /-- On the way of a header. -/
  | passed
  /-- On the way of a dotted name. -/
  | dotted
  deriving DecidableEq, Repr

/-- What stands under a name. -/
inductive Node where
  | value (setting : Setting)
  | table (origin : Origin) (entries : List (String × Node))
  /-- A list of tables; only the last one can still change. -/
  | items (done : List Setting) (last : List (String × Node))
  deriving Inhabited

/-- The entries of a table. -/
abbrev Entries : Type := List (String × Node)

namespace Node

mutual

/-- What stands under a name as a setting. -/
def setting : Node → Setting
  | value setting => setting
  | table _ entries => .table (settingEntries entries)
  | items done last => .list (done ++ [.table (settingEntries last)])

/-- The entries of a table as settings. -/
def settingEntries : List (String × Node) → List (String × Setting)
  | [] => []
  | (name, node) :: rest => (name, node.setting) :: settingEntries rest

end

end Node

namespace Entries

/-- The entries with one of them set. -/
def set (entries : Entries) (name : String) (node : Node) : Entries :=
  match entries with
  | [] => [(name, node)]
  | entry :: rest =>
    if entry.1 = name then (name, node) :: rest else entry :: set rest name node

/-- A change to the table at a path. What is not there becomes a table of the given origin. A dotted
name does not lead through a table that has a header, and nothing leads through a value. -/
def within (fresh : Origin) (change : Origin → Entries → Option Entries)
    (origin : Origin) (entries : Entries) : List String → Option Entries
  | [] => change origin entries
  | name :: path => do
    let node ← match List.lookup name entries with
      | none => (within fresh change fresh [] path).map (.table fresh)
      | some (.table origin below) =>
        if fresh = .dotted ∧ origin = .header then none
        else (within fresh change origin below path).map (.table origin)
      | some (.items done last) => (within fresh change .header last path).map (.items done)
      | some (.value _) => none
    return entries.set name node

/-- A new entry, if the name is still free. -/
def addValue (name : String) (value : Setting) (entries : Entries) : Option Entries :=
  if (List.lookup name entries).isSome then none else some (entries.set name (.value value))

/-- The entries with one more at the path of a dotted name. A table that a dotted name leads to has
to owe itself to dotted names alone. -/
def addEntry (entries : Entries) (path : List String) (name : String) (value : Setting) :
    Option Entries :=
  within .dotted
    (fun origin below => if path ≠ [] ∧ origin ≠ .dotted then none else addValue name value below)
    .header entries path

/-- The entries after a header. A table can have one header, and none where it owes itself to dotted
names. -/
def openTable (entries : Entries) (path : List String) (name : String) : Option Entries :=
  within .passed
    (fun _ below =>
      match List.lookup name below with
      | none => some (below.set name (.table .header []))
      | some (.table .passed inner) => some (below.set name (.table .header inner))
      | some _ => none)
    .header entries path

/-- The entries after the header of one more item in a list of tables. -/
def openItem (entries : Entries) (path : List String) (name : String) : Option Entries :=
  within .passed
    (fun _ below =>
      match List.lookup name below with
      | none => some (below.set name (.items [] []))
      | some (.items done last) =>
        some (below.set name (.items (done ++ [.table (Node.settingEntries last)]) []))
      | some _ => none)
    .header entries path

/-- The entries with one more in the table of the last header, whose path is given. -/
def addBelow (entries : Entries) (header : List String) (path : List String) (name : String)
    (value : Setting) : Option Entries :=
  within .passed (fun _ below => below.addEntry path name value) .header entries header

end Entries
end Whitelist.Toml
