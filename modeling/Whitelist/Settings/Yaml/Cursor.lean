/-!
# Places in a YAML text

How a line is indented decides what it belongs to, so a place in a text knows its line and column.

## What is here

* `isBlank`, `isBreak`, `endsWord`, `isFlow`, `isWordChar` — kinds of characters.
* `Cursor` — the text ahead, with its line and column.
* `Cursor.advance`, `Cursor.newLine` — going on.
* `Cursor.restOfLine`, `Cursor.atNext`, `Cursor.overSpaces` — past what is left of a line, and past
  all that is no part of a value.
* `Cursor.atDocument` — where a document starts or ends.
-/

set_option autoImplicit false
namespace Whitelist.Yaml

/-! ## Characters -/

/-- The character that stands for the end of a text. -/
def endMark : Char := '\x00'

/-- A blank within a line. -/
def isBlank (c : Char) : Bool := c = ' ' || c = '\t'

/-- An end of a line, or the first part of one. -/
def isBreak (c : Char) : Bool := c = '\n' || c = '\r'

/-- Whether a line ends here. -/
def endsLine (c : Char) : Bool := isBreak c || c = endMark

/-- Whether a word ends here. -/
def endsWord (c : Char) : Bool := isBlank c || endsLine c

/-- The characters that lay out values in brackets. -/
def isFlow (c : Char) : Bool := c ∈ [',', '[', ']', '\x7b', '\x7d']

/-- A letter, a digit, or one of the two signs that may stand in a plain name. -/
def isWordChar (c : Char) : Bool := c.isAlphanum || c = '_' || c = '-'

/-! ## Places -/

/-- A place in a text. -/
structure Cursor where
  /-- The text ahead. -/
  text : List Char
  /-- How many characters lie behind. -/
  index : Nat := 0
  line : Nat := 0
  column : Nat := 0
  /-- Whether nothing but blanks stands before the place on its line. -/
  fresh : Bool := true
  deriving DecidableEq, Repr

namespace Cursor

/-- The character so many places ahead. -/
def ahead (c : Cursor) (n : Nat) : Char := c.text.getD n endMark

/-- The next character. -/
def head (c : Cursor) : Char := c.ahead 0

/-- The place so many characters further on the same line. -/
def advance (c : Cursor) (n : Nat) : Cursor where
  text := c.text.drop n
  index := c.index + n
  line := c.line
  column := c.column + n
  fresh := c.fresh && (c.text.take n).all isBlank

/-- The start of the next line, from the end of this one. -/
def newLine (c : Cursor) : Cursor :=
  let width := if c.head = '\r' ∧ c.ahead 1 = '\n' then 2 else 1
  { text := c.text.drop width, index := c.index + width, line := c.line + 1, column := 0 }

/-- Whether the place `d` is further on than `c`. -/
def IsBefore (c d : Cursor) : Prop := d.text.length < c.text.length

instance (c d : Cursor) : Decidable (c.IsBefore d) := inferInstanceAs (Decidable (_ < _))

/-- The place after the blanks and the comment that a line may end with. -/
def restOfLine (c : Cursor) : Cursor :=
  let c := c.advance (c.text.takeWhile isBlank).length
  if c.head = '#' then c.advance (c.text.takeWhile fun d => !endsLine d).length else c

/-- The same behind a part of a value, where a blank has to stand before a comment. -/
def behindPart? (c : Cursor) : Option Cursor := if c.head = '#' then none else some c.restOfLine

/-- The blanks that come next. -/
def blanks (c : Cursor) : List Char := c.text.takeWhile isBlank

/-- The next place where a part of a value starts, and whether a line ended on the way. Where lines
are indented by blocks, no tab may stand before the column of the block, unless nothing follows it
on its line. -/
def atNext (inBlock : Bool) (indent : Int) (c : Cursor) (broken : Bool) : Option (Cursor × Bool) :=
  let goOn (d : Cursor) (broken : Bool) : Option (Cursor × Bool) :=
    if _h : c.IsBefore d then atNext inBlock indent d broken else some (c, broken)
  if c.head = '\t' ∧ inBlock ∧ c.fresh ∧ c.column < indent ∧ !endsLine c.restOfLine.head then none
  else if isBlank c.head then goOn (c.advance 1) broken
  else if isBreak c.head then goOn c.newLine true
  else if c.head = '#' then goOn c.restOfLine broken
  else some (c, broken)
termination_by c.text.length

/-- The next place that is no space, end of a line or comment. -/
def overSpaces (c : Cursor) : Cursor :=
  let goOn (d : Cursor) : Cursor := if _h : c.IsBefore d then overSpaces d else c
  if c.head = ' ' then goOn (c.advance 1)
  else if isBreak c.head then goOn c.newLine
  else if c.head = '#' then goOn c.restOfLine
  else c
termination_by c.text.length

/-- Whether three signs and the end of a word come next at the start of a line. -/
def startsWith (c : Cursor) (sign : Char) : Bool :=
  c.column = 0 && c.head = sign && c.ahead 1 = sign && c.ahead 2 = sign && endsWord (c.ahead 3)

/-- Whether a document starts or ends here. -/
def atDocument (c : Cursor) : Bool := c.startsWith '-' || c.startsWith '.'

end Cursor
end Whitelist.Yaml
