import Whitelist.Settings.Yaml.Cursor
import Whitelist.Text.Escape

/-!
# Texts in YAML

A text stands without quotes, between quotes, or as a block of indented lines. Where it goes on over
several lines, the end of a line counts as a blank, and empty lines count as ends of lines; only
literal blocks keep their lines as they are.

## What is here

* `Gap` — blanks and ends of lines between two words, and what they count as.
* `plain?` — a text without quotes.
* `quoted?` — a text between quotes.
* `Chomp`, `BlockHeader`, `block?` — a block of lines.
-/

set_option autoImplicit false
namespace Whitelist.Yaml

open Text (Escapes)

/-! ## Gaps -/

/-- What stands between two words. -/
structure Gap where
  /-- The blanks before the first end of a line. -/
  blanks : List Char := []
  /-- How many lines end. -/
  breaks : Nat := 0
  /-- Whether a backslash takes away the first end of a line. -/
  escaped : Bool := false
  deriving DecidableEq, Repr

namespace Gap

/-- Whether the words stand on different lines. -/
def isBroken (gap : Gap) : Bool := gap.escaped || gap.breaks > 0

/-- What a gap counts as. -/
def text (gap : Gap) : List Char :=
  if gap.escaped then List.replicate gap.breaks '\n'
  else
    match gap.breaks with
    | 0 => gap.blanks
    | 1 => [' ']
    | n + 2 => List.replicate (n + 1) '\n'

/-- The gap with one more blank; those behind the end of a line do not count. -/
def addBlank (gap : Gap) (c : Char) : Gap :=
  if gap.isBroken then gap else { gap with blanks := gap.blanks ++ [c] }

/-- The gap with one more end of a line. -/
def addBreak (gap : Gap) : Gap := { gap with breaks := gap.breaks + 1 }

end Gap

/-- A gap from here on, and the place behind it. A tab before the column that a line has to reach is
taken only where `allowed` says so, and then with the rest of its line. -/
def gapFrom (indent : Int) (allowed : Cursor → Bool) (gap : Gap) (c : Cursor) :
    Option (Gap × Cursor) :=
  let goOn (gap : Gap) (d : Cursor) : Option (Gap × Cursor) :=
    if _h : c.IsBefore d then gapFrom indent allowed gap d else some (gap, c)
  if c.head = '\t' ∧ gap.isBroken ∧ c.column < indent then
    if allowed c then goOn gap c.restOfLine else none
  else if isBlank c.head then goOn (gap.addBlank c.head) (c.advance 1)
  else if isBreak c.head then goOn gap.addBreak c.newLine
  else some (gap, c)
termination_by c.text.length

/-! ## Without quotes -/

/-- Whether a text without quotes ends before this character and the one behind it. -/
def endsPlain (inFlow : Bool) (c d : Char) : Bool :=
  endsWord c || (c = ':' && (endsWord d || (inFlow && isFlow d))) || (inFlow && isFlow c)

/-- The characters of a text without quotes up to the next gap. -/
def plainWord (inFlow : Bool) : List Char → List Char
  | [] => []
  | c :: cs => if endsPlain inFlow c (cs.headD endMark) then [] else c :: plainWord inFlow cs

/-- A text without quotes from a word on, the place behind it, and whether a line ended last. -/
def plainFrom (inFlow : Bool) (indent : Int) (c : Cursor) (broken : Bool) :
    Option (List Char × Cursor × Bool) := do
  if c.atDocument || c.head = '#' then return ([], c, broken)
  if inFlow && c.head = '-' && isFlow (c.ahead 1) then none
  let word := plainWord inFlow c.text
  if word = [] then return ([], c, broken)
  let d := c.advance word.length
  if !isBlank d.head && !isBreak d.head then return (word, d, false)
  let (gap, e) ← gapFrom indent (fun place => endsLine place.restOfLine.head) {} d
  if !inFlow && e.column < indent then return (word, e, gap.isBroken)
  if _h : c.IsBefore e then
    let (more, place, broken) ← plainFrom inFlow indent e gap.isBroken
    return (word ++ (if more = [] then [] else gap.text ++ more), place, broken)
  else none
termination_by c.text.length

/-- A text without quotes, the place behind it, and whether a line ended last. Its lines have to
reach a column. -/
def plain? (inFlow : Bool) (indent : Int) (c : Cursor) : Option (List Char × Cursor × Bool) :=
  if inFlow ∧ c.column < indent then none else plainFrom inFlow indent c false

/-! ## Between quotes -/

/-- The escapes between double quotes. -/
def escapes : Escapes where
  letters := [('0', '\x00'), ('a', '\x07'), ('b', '\x08'), ('t', '\t'), ('\t', '\t'), ('n', '\n'),
    ('v', '\x0b'), ('f', '\x0c'), ('r', '\r'), ('e', '\x1b'), (' ', ' '), ('"', '"'), ('/', '/'),
    ('\\', '\\'), ('N', '\u0085'), ('_', '\u00a0'), ('L', '\u2028'), ('P', '\u2029')]
  numbers := [('x', 2), ('u', 4), ('U', 8)]

/-- The characters between quotes up to the next gap, whether a backslash stands before that, and
what follows. A single quote that is written twice stands for itself. -/
def quotedWord (quote : Char) : (cs : List Char) → Option (List Char × Bool × RestLe cs)
  | [] => some ([], false, .all [])
  | c :: cs =>
    if endsWord c then some ([], false, .all (c :: cs))
    else if c = quote then
      match quote, cs with
      | '\'', '\'' :: cs => do
        let (more, escaped, ⟨rest, h⟩) ← quotedWord quote cs
        return (c :: more, escaped, ⟨rest, Nat.le_succ_of_le (Nat.le_succ_of_le h)⟩)
      | _, cs => some ([], false, .all (c :: cs))
    else if c = '\\' ∧ quote = '"' then
      if isBreak (cs.headD endMark) then
        some ([], true, ((RestLe.all cs).after (length_lt_cons c cs)).atMost)
      else do
        let (d, ⟨afterEscape, h⟩) ← escapes.read cs
        let (more, escaped, rest) ← quotedWord quote afterEscape
        return (d :: more, escaped, (rest.after (length_lt_cons_of_lt c h)).atMost)
    else do
      let (more, escaped, rest) ← quotedWord quote cs
      return (c :: more, escaped, (rest.after (length_lt_cons c cs)).atMost)
termination_by cs => cs.length
decreasing_by
  · exact Nat.lt_succ_of_lt (Nat.lt_succ_self _)
  · exact length_lt_cons_of_lt c h
  · exact length_lt_cons c cs

/-- A text between quotes from here on, and the place of its closing quote. -/
def quotedFrom (quote : Char) (indent : Int) (c : Cursor) : Option (List Char × Cursor) := do
  if c.atDocument || c.text.isEmpty || c.column < indent then none
  let (word, escaped, ⟨rest, _⟩) ← quotedWord quote c.text
  let d := c.advance (c.text.length - rest.length)
  if !escaped && d.head = quote then return (word, d)
  let start := if escaped then d.newLine else d
  let (gap, e) ← gapFrom indent (fun _ => false) { escaped } start
  if _h : c.IsBefore e then
    let (more, place) ← quotedFrom quote indent e
    return (word ++ gap.text ++ more, place)
  else none
termination_by c.text.length

/-- Whether this may follow a text between quotes: the end of the line, a separator in brackets, or
a colon. Outside of brackets no colon may follow a text over several lines. -/
def mayFollowQuoted (inFlow oneLine : Bool) (c : Char) : Bool :=
  endsLine c || (inFlow && c ∈ [',', '\x7d', ']']) || (c = ':' && (inFlow || oneLine))

/-- A text between quotes from its opening quote on, and the place behind it. -/
def quoted? (inFlow : Bool) (indent : Int) (c : Cursor) : Option (List Char × Cursor) := do
  let (text, place) ← quotedFrom c.head indent (c.advance 1)
  let d ← (place.advance 1).behindPart?
  if mayFollowQuoted inFlow (c.line = d.line) d.head then return (text, d) else none

/-! ## Blocks of lines -/

/-- What becomes of the ends of lines that a block ends with. -/
inductive Chomp where
  /-- One of them is kept. -/
  | clip
  /-- None is kept. -/
  | strip
  /-- All are kept. -/
  | keep
  deriving DecidableEq, Repr

/-- How the lines of a block are to be read. -/
structure BlockHeader where
  chomp : Chomp := .clip
  /-- How much deeper than its surroundings the block is indented, if that is given. -/
  deeper : Option Nat := none
  deriving DecidableEq, Repr

/-- What a sign says of the last ends of lines. -/
def chompOf? (c : Char) : Option Chomp :=
  if c = '+' then some .keep else if c = '-' then some .strip else none

/-- The depth that a digit gives; no block has depth 0. -/
def depthOf? (c : Char) : Option (Option Nat) :=
  if c.isDigit then (if c = '0' then none else some (some (Text.digitValue c))) else some none

/-- The header of a block and the place behind it: a sign and a digit in either order, each of which
may be left out. -/
def blockHeader? (c : Cursor) : Option (BlockHeader × Cursor) :=
  match chompOf? c.head with
  | some chomp => do
    let deeper ← depthOf? (c.ahead 1)
    return ({ chomp, deeper }, c.advance (if deeper.isSome then 2 else 1))
  | none => do
    let deeper ← depthOf? c.head
    if deeper.isNone then return ({}, c)
    match chompOf? (c.ahead 1) with
    | some chomp => return ({ chomp, deeper }, c.advance 2)
    | none => return ({ deeper }, c.advance 1)

/-- The place behind blanks up to a column. -/
def towards (indent : Nat) (c : Cursor) : Cursor :=
  c.advance (min (indent - c.column) (c.text.takeWhile (· = ' ')).length)

/-- How many empty lines follow, and the place behind them and behind the blanks up to a column. -/
def emptyLines (indent : Nat) (c : Cursor) : Nat × Cursor :=
  let d := towards indent c
  if isBreak d.head then
    if _h : c.IsBefore d.newLine then
      let (n, place) := emptyLines indent d.newLine
      (n + 1, place)
    else (0, d)
  else (0, d)
termination_by c.text.length

/-- The same where the column is that of the first line with something on it; the greatest column
seen is part of the answer. -/
def firstColumn (greatest : Nat) (c : Cursor) : Nat × Nat × Cursor :=
  let d := c.advance (c.text.takeWhile (· = ' ')).length
  let greatest := max greatest d.column
  if isBreak d.head then
    if _h : c.IsBefore d.newLine then
      let (column, n, place) := firstColumn greatest d.newLine
      (column, n + 1, place)
    else (greatest, 0, d)
  else (greatest, 0, d)
termination_by c.text.length

/-- The lines of a block that have been read. -/
structure Lines where
  text : List Char := []
  /-- Whether the last line has an end. -/
  ended : Bool := false
  /-- How many empty lines follow it. -/
  empty : Nat := 0
  deriving DecidableEq, Repr

/-- What stands between two lines of a block. Where lines are folded, the end of a line counts as a
blank unless one of the two lines starts with a blank. -/
def joint (folded : Bool) (lines : Lines) (blankBefore blankAfter : Bool) : List Char :=
  if folded && lines.ended && !blankBefore && !blankAfter then
    if lines.empty = 0 then [' '] else List.replicate lines.empty '\n'
  else (if lines.ended then ['\n'] else []) ++ List.replicate lines.empty '\n'

/-- The lines of a block from here on, behind those before, and the place behind them. -/
def blockLines (folded : Bool) (indent : Nat) (lines : Lines) (blankBefore : Bool) (c : Cursor) :
    Lines × Cursor :=
  if c.column ≠ indent || c.text.isEmpty then (lines, c)
  else
    let blank := isBlank c.head
    let line := c.text.takeWhile fun d => !endsLine d
    let text := lines.text ++ joint folded lines blankBefore blank ++ line
    let d := c.advance line.length
    if d.text.isEmpty then ({ text }, d)
    else
      let (empty, e) := emptyLines indent d.newLine
      if _h : c.IsBefore e then blockLines folded indent { text, ended := true, empty } blank e
      else ({ text }, d)
termination_by c.text.length

/-- The ends of lines that a block ends with. A last line without an end gets one where its text
reaches the column of the block. -/
def tail (chomp : Chomp) (indent : Nat) (lines : Lines) (c : Cursor) : List Char :=
  let first : List Char := if lines.ended then ['\n'] else []
  let missing : List Char := if c.text.isEmpty ∧ max indent 1 ≤ c.column then ['\n'] else []
  match chomp with
  | .strip => []
  | .clip => first ++ missing
  | .keep => first ++ missing ++ List.replicate lines.empty '\n'

/-- What a block without lines stands for at the end of the text. -/
def emptyBlock (chomp : Chomp) (broken : Bool) (empty : Nat) : List Char :=
  match chomp with
  | .strip => []
  | .clip => if broken then ['\n'] else []
  | .keep => if broken then List.replicate (max empty 1) '\n' else []

/-- A block from behind its sign on, and the place behind it. The column of what surrounds it is
given; -1 is that of the whole text. -/
def block? (folded : Bool) (surrounding : Int) (c : Cursor) : Option (List Char × Cursor) := do
  let (header, place) ← blockHeader? c
  let d ← place.behindPart?
  if !endsLine d.head then none
  let e := if isBreak d.head then d.newLine else d
  if e.head = '\t' then none
  let (indent, empty, start) : Nat × Nat × Cursor :=
    match header.deeper with
    | some n =>
      let indent := (max surrounding 0).toNat + n
      let (empty, start) := emptyLines indent e
      (indent, empty, start)
    | none =>
      let (column, empty, start) := firstColumn 0 e
      let least : Nat := if 0 < surrounding then 1 else 0
      (max (max column (surrounding + 1).toNat) least, empty, start)
  if start.text.isEmpty then return (emptyBlock header.chomp (start.line ≠ c.line) empty, start)
  if start.column < indent ∧ surrounding < start.column then none
  let (lines, stop) := blockLines folded indent { empty } false start
  return (lines.text ++ tail header.chomp indent lines stop, stop)

end Whitelist.Yaml
