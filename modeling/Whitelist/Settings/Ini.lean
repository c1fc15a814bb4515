import Whitelist.Rest
import Whitelist.Settings.Tree
import Whitelist.Text.Blank
import Whitelist.Text.Escape

/-!
# Settings in INI

A text holds names with texts, behind an equals sign or a colon, and the names of sections in
brackets. What stands before the first section belongs to none.

## What is here

* `Ini.upTo?` — the text up to a sign.
* `Ini.valueText?` — the text behind a name.
* `Ini.Section`, `Ini.sections?` — the sections of a text.
* `Layer.ofIni?` — the settings that a text holds.
-/

set_option autoImplicit false
namespace Whitelist.Ini

/-! ## Texts -/

/-- The escapes in a text; any other character behind a backslash stands for itself. -/
def escapes : Text.Escapes where
  letters := [('0', '\x00'), ('a', '\x07'), ('b', '\x08'), ('t', '\t'), ('r', '\r'), ('n', '\n')]
  numbers := [('x', 4)]

/-- The text up to the first of some signs, with escapes, and what follows from the sign on. -/
def upTo? (ends : Char → Bool) (cs : List Char) : Option (List Char × List Char) :=
  match cs with
  | [] => none
  | '\\' :: c :: rest => do
    let (d, ⟨rest, _h⟩) ←
      if c = 'x' then escapes.read (c :: rest)
      else some ((escapes.letters.lookup c).getD c, Rest.tail c rest)
    let (text, rest) ← upTo? ends rest
    return (d :: text, rest)
  | c :: rest =>
    if ends c then some ([], c :: rest)
    else if c = '\\' then none
    else do
      let (text, rest) ← upTo? ends rest
      return (c :: text, rest)
termination_by cs.length
decreasing_by all_goals (simp only [List.length_cons] at *; omega)

/-- The text up to the end of the line or of everything, with escapes, and what follows. -/
def lineText? (cs : List Char) : Option (List Char × List Char) :=
  let (line, rest) := cs.span (· ≠ '\n')
  (upTo? (· = '\n') (line ++ ['\n'])).map fun (text, left) => (text, left.drop 1 ++ rest)

/-- The text behind a name: quoted texts, and what follows them on the line without the blanks at
its ends. -/
def valueText? (isFirst : Bool) (cs : List Char) : Option (List Char × List Char) :=
  match cs with
  | [] => some ([], [])
  | c :: inner =>
    if c = '"' ∨ c = '\'' then do
      let (text, rest) ← upTo? (· = c) inner
      let ⟨rest, _h⟩ ← Rest.of? (rest.drop 1) (c :: inner)
      let (more, rest) ← valueText? false rest
      return (text ++ more, rest)
    else do
      let (text, rest) ← lineText? (c :: inner)
      return (if isFirst then Text.trim text else Text.trimEnd text, rest)
termination_by cs.length
decreasing_by all_goals (simp only [List.length_cons] at *; omega)

/-! ## Sections -/

/-- A section by its name, with names and texts in the order in which they stand. -/
structure Section where
  name : Option String := none
  entries : List (String × String) := []
  deriving DecidableEq, Repr

/-- A text as a name. -/
def nameOf (cs : List Char) : String := .ofList (Text.trim cs)

/-- Whether a sign stands between a name and its text. -/
def isBetween (c : Char) : Bool := c = '=' || c = ':'

/-- The sections of a text, behind the one that it starts in. -/
def sections? (current : Section) (cs : List Char) : Option (List Section) :=
  match Text.trimStart cs with
  | [] => some [current]
  | c :: inner =>
    if c = ';' ∨ c = '#' then do
      let ⟨rest, _h⟩ ← Rest.of? (inner.dropWhile (· ≠ '\n')) cs
      sections? current rest
    else if c = '[' then do
      let (name, rest) ← upTo? (· = ']') inner
      let ⟨rest, _h⟩ ← Rest.of? (rest.drop 1) cs
      let more ← sections? { name := some (nameOf name) } rest
      return current :: more
    else do
      let (name, rest) ← upTo? isBetween (c :: inner)
      if nameOf name = "" then none
      let (text, rest) ← valueText? true ((rest.drop 1).dropWhile fun c => c = ' ' || c = '\t')
      let ⟨rest, _h⟩ ← Rest.of? rest cs
      let entry := (nameOf name, String.ofList text)
      sections? { current with entries := current.entries ++ [entry] } rest
termination_by cs.length

/-- The last of the entries of each name. -/
def lastOf {α : Type} : List (String × α) → List (String × α)
  | [] => []
  | (name, value) :: rest =>
    if rest.any (·.1 = name) then lastOf rest else (name, value) :: lastOf rest

/-- The entries of a section as settings. -/
def Section.settings (part : Section) : List (String × Setting) :=
  (lastOf part.entries).map fun (name, text) => (name, .text text)

/-- A section as settings: of a section with a name a table. -/
def Section.layer (part : Section) : Layer :=
  match part.name with
  | some name => [(name, .table part.settings)]
  | none => part.settings

end Whitelist.Ini

namespace Whitelist

/-- The settings that a text in INI holds, if it can be read. Of sections with one name the last
counts. -/
def Layer.ofIni? (text : String) : Option Layer :=
  (Ini.sections? {} text.toList).map fun parts => Ini.lastOf (parts.flatMap Ini.Section.layer)

end Whitelist
