import Whitelist.Settings.Path
import Whitelist.Settings.Value

/-!
# Trees of settings

All settings form one tree of tables and lists, and a path leads through them to a value. Settings
from several sources are laid over each other: a later value replaces an earlier one, but tables
grow together.

## What is here

* `Setting.at?` — the value at a path.
* `Setting.merge`, `Setting.put` — a value laid over another, and over the value at a path.
* `Setting.find?` — the value of a name.
* `Layer`, `Layer.onto`, `Layer.stack` — the settings of one source, and of several.
-/

set_option autoImplicit false
namespace Whitelist
namespace Setting

/-! ## Parts -/

/-- The entries of a table; every other value has none. -/
def entriesOf : Setting → List (String × Setting)
  | table entries => entries
  | _ => []

/-- The items of a list; every other value has none. -/
def itemsOf : Setting → List Setting
  | list items => items
  | _ => []

/-- The entries with one of them set. -/
def setEntry (entries : List (String × Setting)) (name : String) (value : Setting) :
    List (String × Setting) :=
  match entries with
  | [] => [(name, value)]
  | entry :: rest =>
    if entry.1 = name then (name, value) :: rest else entry :: setEntry rest name value

/-- The items of a list that has a place, made longer with empty items at either end where it has
not, and the place as a count from the front. -/
def reaching (items : List Setting) (index : Int) : List Setting × Nat :=
  let empty (n : Nat) : List Setting := List.replicate n null
  let fromEnd := index.natAbs
  if 0 ≤ index then (items ++ empty (index.toNat + 1 - items.length), index.toNat)
  else (empty (fromEnd - items.length) ++ items, items.length - fromEnd)

/-- The part that a step leads to. -/
def child? (setting : Setting) : Step → Option Setting
  | .entry name => setting.entriesOf.lookup name
  | .place index =>
    let items := setting.itemsOf
    if 0 ≤ index then items[index.toNat]?
    else if index.natAbs ≤ items.length then items[items.length - index.natAbs]?
    else none

/-- The value at a path. -/
def at? (setting : Setting) : Path → Option Setting
  | [] => some setting
  | step :: path => (setting.child? step).bind fun child => child.at? path

/-! ## Laying over -/

mutual

/-- What a value makes of the one under it, which is null where there is none. A table without
entries leaves what is there as it is. -/
def merge (under : Setting) : Setting → Setting
  | table [] => if under == null then table [] else under
  | table (entry :: rest) => table (mergeEntries under.entriesOf (entry :: rest))
  | value => value

/-- Entries laid over others, one after the other. -/
def mergeEntries (under : List (String × Setting)) : List (String × Setting) →
    List (String × Setting)
  | [] => under
  | (name, value) :: rest =>
    mergeEntries (setEntry under name (merge ((under.lookup name).getD null) value)) rest

end

/-- A value laid over the one at a path. What stands in the way becomes a table or a list. -/
def put (value : Setting) : Path → Setting → Setting
  | [], under => merge under value
  | .entry name :: path, under =>
    let entries := under.entriesOf
    table (setEntry entries name (put value path ((entries.lookup name).getD null)))
  | .place index :: path, under =>
    let (items, place) := reaching under.itemsOf index
    list (items.modify place fun item => put value path item)

/-- The value of a name. -/
def find? (tree : Setting) (name : String) : Option Setting :=
  (Path.ofName? name).bind fun path => tree.at? path

end Setting

/-! ## Layers -/

/-- The settings of one source: values with their names. -/
abbrev Layer : Type := List (String × Setting)

namespace Layer

/-- Whether every value has a name that leads to it. -/
def isNamed (layer : Layer) : Bool := layer.all fun (name, _) => (Path.ofName? name).isSome

/-- The tree with a layer laid over it. -/
def onto (layer : Layer) (tree : Setting) : Setting :=
  layer.foldl (fun tree (name, value) => .put value (Path.ofKey name) tree) tree

/-- The tree of several layers, the first at the bottom. -/
def stack (layers : List Layer) : Setting :=
  layers.foldl (fun tree layer => layer.onto tree) (.table [])

end Layer
end Whitelist
