import Whitelist.Settings.Path
import Whitelist.Settings.Toml.Quoted
import Whitelist.Settings.Toml.Table
import Whitelist.Settings.Toml.Word

/-!
# Names and values in TOML

A name is dotted, and each part stands with or without quotes. A value is a word, a quoted text, a
list in brackets or a table in braces; lists and tables may go on over several lines.

## What is here

* `next`, `nextBelow` — the next character on the line, and on any line.
* `name`, `path` — names.
* `value`, `items`, `entries` — values.
-/

set_option autoImplicit false
namespace Whitelist.Toml

open Whitelist.Path (isNameChar)
open Text (next)

/-! ## Between the parts -/

/-- The next character, on whatever line, that is no blank and stands in no comment. -/
def nextBelow : (cs : List Char) → Option (Char × Rest cs)
  | [] => none
  | c :: cs =>
    if Text.isGap c || c = '\n' || (c = '\r' && cs.head? = some '\n') then
      (nextBelow cs).map fun (d, rest) => (d, rest.cons c)
    else if c = '#' then
      have h := length_lt_of_le_of_lt (length_dropWhile_le isTextChar cs) (length_lt_cons c cs)
      (nextBelow (cs.dropWhile isTextChar)).map fun (d, rest) => (d, rest.after h)
    else some (c, .tail c cs)
termination_by cs => cs.length
decreasing_by
  · exact length_lt_cons c cs
  · exact h

/-- What follows the end of the line, if nothing but blanks and a comment stands before it. The end
of the text ends its last line. -/
def endOfLine (cs : List Char) : Option (RestLe cs) :=
  let ⟨afterGap, h⟩ := RestLe.dropWhile Text.isGap cs
  let comment : List Char → Bool := fun cs => cs.head? = some '#'
  let ⟨atEnd, h'⟩ :=
    if comment afterGap then RestLe.dropWhile isTextChar afterGap else .all afterGap
  have h := Nat.le_trans h' h
  if atEnd = [] then some ⟨atEnd, h⟩
  else (lineEnd atEnd).map fun rest => ⟨rest.1, Nat.le_trans (Nat.le_of_lt rest.2) h⟩

/-! ## Names -/

/-- A part of a name that starts with this character, and what follows it. -/
def name (c : Char) (cs : List Char) : Option (String × RestLe cs) :=
  if c = '"' then (basic cs).map fun (s, rest) => (.ofList s, rest.atMost)
  else if c = '\'' then (literal cs).map fun (s, rest) => (.ofList s, rest.atMost)
  else if isNameChar c then some (.ofList (c :: cs.takeWhile isNameChar), .dropWhile isNameChar cs)
  else none

/-- A name up to the sign that ends it: the parts before the last, the last one, and what follows
the sign. -/
def path (sign : Char) (cs : List Char) : Option (List String × String × Rest cs) := do
  let (c, ⟨inner, h⟩) ← next cs
  let (n, ⟨afterName, hn⟩) ← name c inner
  have hn := length_lt_of_le_of_lt hn h
  let (d, ⟨afterSign, hd⟩) ← next afterName
  have hd := length_lt_trans hd hn
  if d = sign then return ([], n, ⟨afterSign, hd⟩)
  if d ≠ '.' then none
  let (more, last, rest) ← path sign afterSign
  return (n :: more, last, rest.after hd)
termination_by cs.length

/-! ## Words -/

/-- Whether a character may stand in a word. -/
def isWordChar (c : Char) : Bool := isNameChar c || c = '+' || c = '.' || c = ':'

/-- Whether a word is a date, behind which a time may follow after a blank. -/
def isDate (cs : List Char) : Bool := (date cs).any fun (_, rest) => rest = []

/-- The word that starts with this character, and what follows it. -/
def word (c : Char) (cs : List Char) : List Char × RestLe cs :=
  let first := c :: cs.takeWhile isWordChar
  let ⟨rest, h⟩ := RestLe.dropWhile isWordChar cs
  match rest with
  | [] => (first, ⟨[], h⟩)
  | d :: more =>
    if d = ' ' ∧ isDate first ∧ more.head?.any Char.isDigit then
      (first ++ d :: more.takeWhile isWordChar,
        ⟨more.dropWhile isWordChar,
          Nat.le_trans (length_dropWhile_le isWordChar more) (Nat.le_of_succ_le h)⟩)
    else (first, ⟨d :: more, h⟩)

/-! ## Values -/

/-- How deep lists and tables may stand in each other. -/
def maxDepth : Nat := 80

mutual

/-- One value in so many lists and tables, and what follows it. -/
def value (depth : Nat) (cs : List Char) : Option (Setting × Rest cs) := do
  let (c, ⟨inner, h⟩) ← next cs
  if c = '"' ∨ c = '\'' then
    let (s, rest) ← quoted? c inner
    return (.text (.ofList s), rest.after h)
  if c = '[' then
    if depth ≥ maxDepth then none
    let (xs, rest) ← items (depth + 1) inner
    return (.list xs, rest.after h)
  if c = '\x7b' then
    if depth ≥ maxDepth then none
    let (es, rest) ← entries (depth + 1) [] inner
    return (.table (Node.settingEntries es), rest.after h)
  let (w, rest) := word c inner
  let v ← ofWord? w
  return (v, rest.after h)
termination_by (cs.length, 0)

/-- The items of a list up to its closing bracket. A comma may stand after the last one. -/
def items (depth : Nat) (cs : List Char) : Option (List Setting × Rest cs) := do
  let (c, ⟨inner, hc⟩) ← nextBelow cs
  if c = ']' then return ([], ⟨inner, hc⟩)
  let (x, ⟨afterItem, hi⟩) ← value depth (c :: inner)
  have hi := length_le_of_lt_cons hi
  have hi := length_lt_of_le_of_lt hi hc
  let (d, ⟨afterSign, hs⟩) ← nextBelow afterItem
  have hs := length_lt_trans hs hi
  if d = ']' then return ([x], ⟨afterSign, hs⟩)
  if d ≠ ',' then none
  let (xs, rest) ← items depth afterSign
  return (x :: xs, rest.after hs)
termination_by (cs.length, 1)
decreasing_by
  · simp only [List.length_cons, Prod.lex_def]; omega
  · simp only [Prod.lex_def]; omega

/-- The entries of a table up to its closing brace, put to those before them. A comma may stand
after the last one. -/
def entries (depth : Nat) (before : Entries) (cs : List Char) : Option (Entries × Rest cs) := do
  let (c, ⟨inner, hc⟩) ← nextBelow cs
  if c = '\x7d' then return (before, ⟨inner, hc⟩)
  let (p, n, ⟨afterPath, hp⟩) ← path '=' (c :: inner)
  have hp := length_lt_of_le_of_lt (length_le_of_lt_cons hp) hc
  let (v, ⟨afterValue, hv⟩) ← value depth afterPath
  have hv := length_lt_trans hv hp
  let es ← before.addEntry p n v
  let (d, ⟨afterSign, hd⟩) ← nextBelow afterValue
  have hd := length_lt_trans hd hv
  if d = '\x7d' then return (es, ⟨afterSign, hd⟩)
  if d ≠ ',' then none
  let (es, rest) ← entries depth es afterSign
  return (es, rest.after hd)
termination_by (cs.length, 0)

end

end Whitelist.Toml
