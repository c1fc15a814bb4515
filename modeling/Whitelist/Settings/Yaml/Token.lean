import Whitelist.Settings.Yaml.Scalar
import Whitelist.Settings.Yaml.Tag

/-!
# The tokens of a YAML text

A text is a row of tokens: marks of what starts, goes on and ends, and the texts between them. Some
marks stand for signs, others only for a change of indentation; and that a text is a name shows only
in the colon behind it, so the marks for a name are put in afterwards.

## What is here

* `Token` — the tokens.
* `Level`, `Candidate`, `Scan` — the depth of indentation, a place where a name may start, and what
  is known at a place in the text.
* `Scan.enter`, `Scan.leave` — deeper and less deep indentation.
* `Scan.saveCandidate`, `Scan.dropCandidate` — what may be a name.
* `Scan.fetch?` — one more token.
* `tokens?` — all of them.
-/

set_option autoImplicit false
namespace Whitelist.Yaml

/-! ## Tokens -/

/-- A mark or a text. -/
inductive Token where
  | directive (directive : Directive)
  | documentStart
  | documentEnd
  | listStart
  | mappingStart
  /-- The end of a block. -/
  | blockEnd
  | flowListStart
  | flowListEnd
  | flowMappingStart
  | flowMappingEnd
  /-- The dash of an item. -/
  | item
  /-- The comma between values in brackets. -/
  | comma
  /-- A name comes next. -/
  | key
  /-- The value of the name comes next. -/
  | value
  | alias (name : String)
  /-- An anchor, and the column in which it stands. -/
  | anchor (name : String) (column : Nat)
  /-- A tag, and the column in which it stands. -/
  | tag (tag : Tag) (column : Nat)
  | text (isPlain : Bool) (text : String)
  deriving DecidableEq, Repr

/-! ## What is known at a place -/

/-- A depth of indentation under another one. -/
structure Level where
  /-- The column of the one around it. -/
  outer : Int
  /-- Whether it is the depth of a block. Otherwise it only keeps a value right of its name. -/
  isBlock : Bool
  deriving DecidableEq, Repr

/-- A place where a name may start. -/
structure Candidate where
  /-- The number of the token that starts there. -/
  number : Nat
  index : Nat
  line : Nat
  column : Nat
  /-- Whether it has to be a name. -/
  required : Bool
  deriving DecidableEq, Repr

/-- What is known at a place in the text. -/
structure Scan where
  cursor : Cursor
  /-- The tokens so far, last first. -/
  tokens : List Token := []
  /-- The column of the innermost depth; -1 where there is none. -/
  indent : Int := -1
  levels : List Level := []
  /-- For the block and each bracket around the place, innermost first, where a name may start. -/
  candidates : List (Option Candidate) := [none]
  /-- Whether a name may start here. -/
  mayStartName : Bool := true
  /-- Where a value may follow its colon without a blank. -/
  valueAt : Nat := 0
  /-- Whether a mapping in brackets has been started by its own sign. -/
  mappingStarted : Bool := false
  /-- For each list in brackets, whether a mapping without brackets has been started in it. -/
  openPairs : List Bool := []

namespace Scan

/-- How many brackets stand around the place. -/
def flowDepth (s : Scan) : Nat := s.candidates.length - 1

/-- Whether the place is in brackets. -/
def inFlow (s : Scan) : Bool := 0 < s.flowDepth

/-- One more token. -/
def push (s : Scan) (token : Token) : Scan := { s with tokens := token :: s.tokens }

/-- A token put in as the one of this number. -/
def putIn (s : Scan) (number : Nat) (token : Token) : Scan :=
  { s with tokens := s.tokens.insertIdx (s.tokens.length - number) token }

/-- The place so many characters further on. -/
def skip (s : Scan) (n : Nat) : Scan := { s with cursor := s.cursor.advance n }

/-- The place behind the rest of a line, where a comment needs a blank in front. -/
def skipBehindPart? (s : Scan) : Option Scan :=
  s.cursor.behindPart?.map fun cursor => { s with cursor }

/-! ## Indentation -/

/-- Without the innermost depth where that is no block and not deeper than a column. -/
def withoutSpare (s : Scan) (column : Nat) : Scan :=
  match s.levels with
  | level :: rest =>
    if s.indent ≤ column ∧ !level.isBlock then { s with indent := level.outer, levels := rest }
    else s
  | [] => s

/-- A block at a column, started by a token, if that is deeper than what is around it. The token
is put in before the one of a number, if one is given. -/
def enter (s : Scan) (column : Nat) (token : Token) (number : Option Nat) : Scan :=
  if s.inFlow then s
  else
    let s := s.withoutSpare column
    if s.indent < column then
      let s := { s with indent := column, levels := ⟨s.indent, true⟩ :: s.levels }
      match number with
      | some n => s.putIn n token
      | none => s.push token
    else s

/-- Less deep indentation: blocks deeper than a column end. -/
def leaveLevels (column : Int) (indent : Int) (tokens : List Token) :
    List Level → Int × List Token × List Level
  | [] => (indent, tokens, [])
  | level :: rest =>
    if column < indent then
      leaveLevels column level.outer (if level.isBlock then .blockEnd :: tokens else tokens) rest
    else (indent, tokens, level :: rest)

/-- The place with the blocks left that are deeper than a column. -/
def leave (s : Scan) (column : Int) : Scan :=
  if s.inFlow then s
  else
    let (indent, tokens, levels) := leaveLevels column s.indent s.tokens s.levels
    { s with indent, tokens, levels }

/-- One column deeper than the block around the place, which starts no block. -/
def deepen (s : Scan) : Scan :=
  if !s.inFlow ∧ (s.levels.head?.any (·.isBlock)) then
    { s with indent := s.indent + 1, levels := ⟨s.indent, false⟩ :: s.levels }
  else s

/-- The indentation without the depths inside the innermost block. -/
def toBlock (indent : Int) : List Level → Int × List Level
  | [] => (indent, [])
  | level :: rest => if level.isBlock then (indent, level :: rest) else toBlock level.outer rest

/-- The place seen from the innermost block. -/
def atBlock (s : Scan) : Scan :=
  let (indent, levels) := toBlock s.indent s.levels
  { s with indent, levels }

/-! ## Names -/

/-- What may be a name has to be one on its own line and within so many characters. -/
def maxNameLength : Nat := 1024

/-- The innermost place where a name may start. -/
def candidate? (s : Scan) : Option Candidate := s.candidates.head?.join

/-- The place with another innermost candidate. -/
def setCandidate (s : Scan) (candidate : Option Candidate) : Scan :=
  { s with candidates := candidate :: s.candidates.tail }

/-- Note that a name may start here. At the column of a block it has to be one. -/
def saveCandidate (s : Scan) : Scan :=
  if s.mayStartName then
    let c := s.cursor
    let required := !s.inFlow && s.indent = c.column && s.levels.head?.any (·.isBlock)
    s.setCandidate (some ⟨s.tokens.length, c.index, c.line, c.column, required⟩)
  else s

/-- What might have been a name is none; if it has to be one, the text is wrong. -/
def dropCandidate? (s : Scan) : Option Scan :=
  if s.candidate?.any (·.required) then none else some (s.setCandidate none)

/-- Whether a candidate lies too far back to be a name. -/
def isStale (c : Cursor) (candidate : Candidate) : Bool :=
  candidate.line < c.line || candidate.index + maxNameLength < c.index

/-- The place without the candidates that lie too far back. Values in brackets may go on over
several lines. -/
def dropStale? (s : Scan) : Option Scan :=
  if s.inFlow then some s
  else
    match s.candidate? with
    | none => some s
    | some candidate => if isStale s.cursor candidate then s.dropCandidate? else some s

/-- The place with a token for a value that may turn out to be a name. -/
def startValue (s : Scan) : Scan := { s.saveCandidate with mayStartName := false }

/-! ## Documents -/

/-- The place with all blocks left and no name begun. -/
def outermost? (s : Scan) : Option Scan :=
  (s.leave (-1)).dropCandidate?.map fun s => { s with mayStartName := false }

/-- A sign for the start or the end of a document. -/
def document? (s : Scan) (token : Token) : Option Scan :=
  s.outermost?.map fun s => (s.skip 3).push token

/-- The sign for the end of a document; nothing may follow it on its line. -/
def documentEnd? (s : Scan) : Option Scan := do
  let s ← (← s.document? .documentEnd).skipBehindPart?
  if endsLine s.cursor.head then return s else none

/-- A directive. -/
def directiveToken? (s : Scan) : Option Scan := do
  let s ← s.outermost?
  let (directive, cursor) ← directive? s.cursor
  return { s with cursor }.push (.directive directive)

/-! ## Brackets -/

/-- The greatest number of brackets around a place. -/
def maxFlowDepth : Nat := 255

/-- An opening bracket. -/
def flowStart? (s : Scan) (token : Token) : Option Scan := do
  let s := s.saveCandidate.deepen
  if s.flowDepth ≥ maxFlowDepth then none
  let s := { s with candidates := none :: s.candidates, mayStartName := true }
  let s := if token = .flowMappingStart then { s with mappingStarted := true }
    else { s with openPairs := false :: s.openPairs }
  return (← (s.skip 1).skipBehindPart?).push token

/-- A mapping without brackets ends where its list goes on or ends. -/
def endPair (s : Scan) : Scan :=
  match s.openPairs with
  | true :: rest =>
    { s with mappingStarted := false, openPairs := false :: rest }.push .flowMappingEnd
  | _ => s

/-- A closing bracket. -/
def flowEnd? (s : Scan) (token : Token) : Option Scan := do
  let s ← s.dropCandidate?
  let s := if s.inFlow then { s with candidates := s.candidates.tail } else s
  let s := { s with mayStartName := false }
  let s := if token = .flowListEnd then
      let s := s.endPair
      { s with openPairs := s.openPairs.tail }
    else s
  let s ← (s.skip 1).skipBehindPart?
  let s := if s.inFlow then { s with valueAt := s.cursor.index } else s
  return s.push token

/-- A comma. -/
def comma? (s : Scan) : Option Scan := do
  let s ← s.dropCandidate?
  let s := { s with mayStartName := true }.endPair
  return (← (s.skip 1).skipBehindPart?).push .comma

/-! ## Items, names and values -/

/-- Whether an anchor or a tag in the first column stands last, where a dash in the first column may
not follow it. -/
def hasStrayProperty (s : Scan) : Bool :=
  match s.tokens.head? with
  | some (.anchor _ column) | some (.tag _ column) =>
    column = 0 && s.cursor.column = 0 && -1 < s.indent
  | _ => false

/-- The dash of an item. -/
def item? (s : Scan) : Option Scan := do
  if s.inFlow || !s.mayStartName || s.hasStrayProperty then none
  let column := s.cursor.column
  let s := (s.skip 1).enter column .listStart none
  let tabbed := '\t' ∈ s.cursor.blanks
  let s ← s.skipBehindPart?
  if tabbed ∧ s.cursor.head = '-' ∧ endsWord (s.cursor.ahead 1) then none
  let s := if isBreak s.cursor.head ∨ isFlow s.cursor.head then s.deepen else s
  let s ← s.dropCandidate?
  return { s with mayStartName := true }.push .item

/-- The sign of a name that is not shown by its colon alone. -/
def key? (s : Scan) : Option Scan := do
  if !s.inFlow && !s.mayStartName then none
  let s := if s.inFlow then { s with mappingStarted := true }
    else s.enter s.cursor.column .mappingStart none
  let s ← s.dropCandidate?
  let cursor := (s.cursor.advance 1).overSpaces
  if cursor.head = '\t' then none
  return { s with cursor, mayStartName := !s.inFlow }.push .key

/-- Whether a value follows its colon behind a tab alone although it looks like a name. -/
def isTabbedWord (c : Cursor) : Bool :=
  c.head = '\t' && ' ' ∉ c.blanks &&
    (c.restOfLine.head = '-' || isWordChar c.restOfLine.head)

/-- The colon between a name and its value. The marks for the name and for the mapping that it
belongs to are put in before the name. -/
def value? (s : Scan) : Option Scan := do
  let start := s.cursor
  let isPair := !s.openPairs.isEmpty && !s.mappingStarted
  let s := if isPair then { s with openPairs := true :: s.openPairs.tail } else s
  let s := s.skip 1
  if isTabbedWord s.cursor then none
  let s := if s.cursor.head = '\t' then { s with cursor := s.cursor.restOfLine } else s
  match s.candidate? with
  | some name =>
    let s := s.putIn name.number .key
    if isPair ∧ name.line < start.line then none
    let s := if isPair then s.putIn name.number .flowMappingStart else s
    let s := (s.enter name.column .mappingStart (some name.number)).deepen
    return { s.setCandidate none with mayStartName := false }.push .value
  | none =>
    let s := if isPair then s.push .flowMappingStart else s
    if !s.inFlow && !s.mayStartName then none
    let s := (s.enter start.column .mappingStart none).deepen
    return { s with mayStartName := !s.inFlow }.push .value

/-- A colon in brackets without a blank behind it. -/
def flowValue? (s : Scan) : Option Scan :=
  let next := s.cursor.ahead 1
  if s.cursor.index ≠ s.valueAt ∧ (next = '[' ∨ next = '\x7b') then none else s.value?

/-! ## Texts -/

/-- A text without quotes. A name may start behind the end of its line. -/
def plainText? (s : Scan) : Option Scan := do
  let s := s.startValue.atBlock
  let (text, cursor, broken) ← plain? s.inFlow (s.indent + 1) s.cursor
  let s := if broken then { s with mayStartName := true } else s
  return { s with cursor }.push (.text true (.ofList text))

/-- A text between quotes. -/
def quotedText? (s : Scan) : Option Scan := do
  let s := s.startValue
  let (text, cursor) ← quoted? s.inFlow s.indent s.cursor
  let (cursor, broken) ← cursor.atNext (!s.levels.isEmpty) s.indent false
  let s := if broken ∧ !s.inFlow then { s with mayStartName := true } else s
  return { s with cursor, valueAt := cursor.index }.push (.text false (.ofList text))

/-- A block of lines. -/
def blockText? (s : Scan) (folded : Bool) : Option Scan := do
  let s := { s.saveCandidate with mayStartName := true }.atBlock
  let (text, cursor) ← block? folded s.indent (s.cursor.advance 1)
  return { s with cursor }.push (.text false (.ofList text))

/-- An anchor or an alias. -/
def anchorToken? (s : Scan) (isAlias : Bool) : Option Scan := do
  let column := s.cursor.column
  let s := s.startValue
  let (name, cursor) ← anchorName? s.cursor
  return { s with cursor }.push (if isAlias then .alias name else .anchor name column)

/-- A tag. -/
def tagToken? (s : Scan) : Option Scan := do
  let column := s.cursor.column
  let s := s.startValue
  let (tag, cursor) ← tag? s.inFlow s.cursor
  return { s with cursor }.push (.tag tag column)

/-! ## The next token -/

/-- The token that starts at a place. -/
def dispatch? (s : Scan) : Option Scan :=
  let c := s.cursor.head
  let d := s.cursor.ahead 1
  if c = '[' then s.flowStart? .flowListStart
  else if c = '\x7b' then s.flowStart? .flowMappingStart
  else if c = ']' then s.flowEnd? .flowListEnd
  else if c = '\x7d' then s.flowEnd? .flowMappingEnd
  else if c = ',' then s.comma?
  else if c = '-' ∧ endsWord d then s.item?
  else if c = '?' ∧ endsWord d then s.key?
  else if c = ':' ∧ endsWord d then s.value?
  else if c = ':' ∧ s.inFlow ∧ (isFlow d ∨ s.cursor.index = s.valueAt) then s.flowValue?
  else if c = '*' then s.anchorToken? true
  else if c = '&' then s.anchorToken? false
  else if c = '!' then s.tagToken?
  else if (c = '|' ∨ c = '>') ∧ !s.inFlow then s.blockText? (c = '>')
  else if c = '\'' ∨ c = '"' then s.quotedText?
  else if c ∈ ['%', '@', '\x60'] then none
  else s.plainText?

/-- The place of the next token, with the blocks left that it ends. -/
def settle? (s : Scan) : Option Scan := do
  let (cursor, broken) ← s.cursor.atNext (!s.levels.isEmpty) s.indent false
  let s := { s with cursor, mayStartName := s.mayStartName || (broken && !s.inFlow) }
  return (← s.dropStale?).leave cursor.column

/-- One more token, or several where that ends blocks or shows a name. -/
def fetch? (s : Scan) : Option Scan :=
  let c := s.cursor
  if c.column = 0 ∧ c.head = '%' then s.directiveToken?
  else if c.startsWith '-' then s.document? .documentStart
  else if c.startsWith '.' then s.documentEnd?
  else if c.column < s.indent then none
  else s.dispatch?

/-- The place at the end of the text. What has to be a name has not become one, and brackets that
are open are not closed. -/
def finish? (s : Scan) : Option (List Token) :=
  if s.candidates.any fun candidate => candidate.any (·.required) then none
  else some (s.leave (-1)).tokens.reverse

/-- All tokens from a place on. -/
def run? (s : Scan) : Option (List Token) := do
  let settled ← s.settle?
  if settled.cursor.text.isEmpty then settled.finish?
  else
    let next ← settled.fetch?
    if _h : s.cursor.IsBefore next.cursor then run? next else none
termination_by s.cursor.text.length

end Scan

/-- The tokens of a text. A character of number zero ends it. -/
def tokens? (text : List Char) : Option (List Token) :=
  Scan.run? { cursor := { text := text.takeWhile (· ≠ endMark) } }

end Whitelist.Yaml
