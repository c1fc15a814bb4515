import Whitelist.Settings.Toml.Value
import Whitelist.Settings.Tree

/-!
# Settings in TOML

A file is made of statements, each on lines of its own: headers, and entries that belong to the
table of the last header.

## What is here

* `Statement`, `statements` — the headers and entries of a file, in order.
* `Progress`, `Progress.step` — what has been read of a file.
* `Layer.ofToml?` — the settings that a text holds.
-/

set_option autoImplicit false
namespace Whitelist.Toml

/-- A part of a file. Names are split into the parts before the last, and the last one. -/
inductive Statement where
  /-- The entries that follow belong to this table. -/
  | header (path : List String) (name : String)
  /-- The entries that follow belong to one more table in this list. -/
  | itemHeader (path : List String) (name : String)
  | entry (path : List String) (name : String) (value : Setting)

/-- The text after the second bracket of a header, if there is one. -/
def secondBracket? (sign : Char) (cs : List Char) : Option (RestLe cs) :=
  match cs with
  | [] => none
  | c :: cs => if c = sign then some (Rest.tail c cs).atMost else none

/-- The statement that starts with this character, and what follows it. -/
def statement (c : Char) (cs : List Char) : Option (Statement × RestLe cs) := do
  if c = '[' then
    match secondBracket? '[' cs with
    | some ⟨inner, h⟩ =>
      let (p, n, ⟨afterFirst, h'⟩) ← path ']' inner
      let ⟨rest, h''⟩ ← secondBracket? ']' afterFirst
      return (.itemHeader p n, ⟨rest, Nat.le_trans h'' (Nat.le_trans (Nat.le_of_lt h') h)⟩)
    | none =>
      let (p, n, rest) ← path ']' cs
      return (.header p n, rest.atMost)
  else
    let (p, n, ⟨afterPath, h⟩) ← path '=' (c :: cs)
    let (v, ⟨rest, h'⟩) ← value 0 afterPath
    return (.entry p n v,
      ⟨rest, Nat.le_trans (Nat.le_of_lt h') (length_le_of_lt_cons h)⟩)

/-- The statements of a file, each with the end of its line. -/
def statements (cs : List Char) : Option (List Statement) :=
  match nextBelow cs with
  | none => some []
  | some (c, ⟨inner, hc⟩) => do
    let (s, ⟨afterStatement, hs⟩) ← statement c inner
    let ⟨rest, hr⟩ ← endOfLine afterStatement
    have _h := length_lt_of_le_of_lt (Nat.le_trans hr hs) hc
    return s :: (← statements rest)
termination_by cs.length

/-- What has been read of a file: the entries so far, and the path of the table that the next ones
belong to. -/
structure Progress where
  entries : Entries := []
  current : List String := []

/-- What has been read after one more statement. -/
def Progress.step (progress : Progress) : Statement → Option Progress
  | .header path name =>
    (progress.entries.openTable path name).map fun entries => ⟨entries, path ++ [name]⟩
  | .itemHeader path name =>
    (progress.entries.openItem path name).map fun entries => ⟨entries, path ++ [name]⟩
  | .entry path name value =>
    (progress.entries.addBelow progress.current path name value).map fun entries =>
      { progress with entries }

/-- The mark that a text may start with and that is no part of it. -/
def withoutMark : List Char → List Char
  | '\ufeff' :: cs => cs
  | cs => cs

end Whitelist.Toml

/-- The settings that a text in TOML holds, if it can be read. -/
def Whitelist.Layer.ofToml? (text : String) : Option Whitelist.Layer := do
  let statements ← Whitelist.Toml.statements (Whitelist.Toml.withoutMark text.toList)
  let progress ← statements.foldlM Whitelist.Toml.Progress.step {}
  return Whitelist.Toml.Node.settingEntries progress.entries
