import Whitelist.Text.Escape
import Whitelist.Text.Next

/-!
# Quoted text in TOML

A text stands between double quotes, where a backslash starts an escape, or between single quotes,
where every character stands for itself. Between three quotes it may go on over several lines.
Control characters may only be written as escapes.

## What is here

* `escapes`, `isTextChar` — the escapes, and the characters that stand for themselves.
* `basic`, `literal` — the text after one quote.
* `longBasic`, `longLiteral` — the text after three quotes.
* `quoted?` — any of the four.
-/

set_option autoImplicit false
namespace Whitelist.Toml

open Text (Escapes isGap)

/-- The escapes between double quotes. -/
def escapes : Escapes where
  letters := [('b', '\x08'), ('t', '\t'), ('n', '\n'), ('f', '\x0c'), ('r', '\r'), ('e', '\x1b'),
    ('"', '"'), ('\\', '\\')]
  numbers := [('x', 2), ('u', 4), ('U', 8)]

/-- Whether a character may stand for itself on a line. -/
def isTextChar (c : Char) : Bool := c = '\t' || (0x20 ≤ c.toNat && c.toNat ≠ 0x7F)

/-! ## On one line -/

/-- The text up to the closing double quote, and what follows the quote. -/
def basic : (cs : List Char) → Option (List Char × Rest cs)
  | [] => none
  | c :: cs =>
    if c = '"' then some ([], .tail c cs)
    else if c = '\\' then do
      let (d, ⟨afterEscape, h⟩) ← escapes.read cs
      let (more, rest) ← basic afterEscape
      return (d :: more, (rest.after h).cons c)
    else if isTextChar c then do
      let (more, rest) ← basic cs
      return (c :: more, rest.cons c)
    else none
termination_by cs => cs.length
decreasing_by
  · exact length_lt_cons_of_lt c h
  · exact length_lt_cons c cs

/-- The text up to the closing single quote, and what follows the quote. -/
def literal : (cs : List Char) → Option (List Char × Rest cs)
  | [] => none
  | c :: cs =>
    if c = '\'' then some ([], .tail c cs)
    else if isTextChar c then do
      let (more, rest) ← literal cs
      return (c :: more, rest.cons c)
    else none

/-! ## Over several lines -/

/-- The quotes of the text itself and what follows the three that close it, if there are three. At
most two quotes in front of those belong to the text. -/
def closing (quote : Char) (cs : List Char) : Option (List Char × RestLe cs) :=
  let run := (cs.takeWhile (· = quote)).length
  if run < 3 then none
  else some (List.replicate (min (run - 3) 2) quote, .drop (min run 5) cs)

/-- What follows the end of a line. -/
def lineEnd : (cs : List Char) → Option (Rest cs)
  | '\n' :: cs => some (.tail '\n' cs)
  | '\r' :: '\n' :: cs => some ((Rest.tail '\n' cs).cons '\r')
  | _ => none

/-- The text after the blanks and line ends in front. -/
def skipLines (cs : List Char) : RestLe cs :=
  match cs with
  | [] => .all []
  | c :: cs =>
    if isGap c || c = '\n' || (c = '\r' && cs.head? = some '\n') then
      ((skipLines cs).after (length_lt_cons c cs)).atMost
    else .all (c :: cs)

/-- What a backslash at the end of a line leads to: the next character that is no blank. -/
def continued (cs : List Char) : Option (Rest cs) :=
  let ⟨atEnd, h⟩ := RestLe.dropWhile isGap cs
  (lineEnd atEnd).map fun ⟨below, h'⟩ =>
    (skipLines below).after (Nat.lt_of_lt_of_le h' h)

/-- The character that a text over several lines goes on with, which may be a part of the end of a
line. -/
def isLongChar (c : Char) (cs : List Char) : Bool :=
  isTextChar c || c = '\n' || (c = '\r' && cs.head? = some '\n')

/-- The text up to three closing double quotes, and what follows them. -/
def longBasic : (cs : List Char) → Option (List Char × RestLe cs)
  | [] => none
  | c :: cs =>
    match closing '"' (c :: cs) with
    | some (quotes, rest) => some (quotes, rest)
    | none =>
      if c = '\\' then
        match continued cs with
        | some ⟨below, h⟩ => do
          let (more, rest) ← longBasic below
          return (more, (rest.after (length_lt_cons_of_lt c h)).atMost)
        | none => do
          let (d, ⟨afterEscape, h⟩) ← escapes.read cs
          let (more, rest) ← longBasic afterEscape
          return (d :: more, (rest.after (length_lt_cons_of_lt c h)).atMost)
      else if isLongChar c cs then do
        let (more, rest) ← longBasic cs
        return (c :: more, (rest.after (length_lt_cons c cs)).atMost)
      else none
termination_by cs => cs.length
decreasing_by
  · exact length_lt_cons_of_lt c h
  · exact length_lt_cons_of_lt c h
  · exact length_lt_cons c cs

/-- The text up to three closing single quotes, and what follows them. -/
def longLiteral : (cs : List Char) → Option (List Char × RestLe cs)
  | [] => none
  | c :: cs =>
    match closing '\'' (c :: cs) with
    | some (quotes, rest) => some (quotes, rest)
    | none =>
      if isLongChar c cs then do
        let (more, rest) ← longLiteral cs
        return (c :: more, (rest.after (length_lt_cons c cs)).atMost)
      else none

/-- The text after three opening quotes without the end of their line. -/
def belowOpening (cs : List Char) : RestLe cs :=
  match lineEnd cs with
  | some rest => rest.atMost
  | none => .all cs

/-! ## All four -/

/-- The text after an opening quote of either kind, and what follows its closing quotes. -/
def quoted? (quote : Char) (cs : List Char) : Option (List Char × RestLe cs) :=
  match cs with
  | a :: b :: cs =>
    if a = quote ∧ b = quote then
      let ⟨inner, h⟩ := belowOpening cs
      let long := if quote = '"' then longBasic inner else longLiteral inner
      long.map fun (text, ⟨rest, h'⟩) =>
        (text, ⟨rest, Nat.le_succ_of_le (Nat.le_succ_of_le (Nat.le_trans h' h))⟩)
    else
      let short := if quote = '"' then basic (a :: b :: cs) else literal (a :: b :: cs)
      short.map fun (text, rest) => (text, rest.atMost)
  | cs =>
    let short := if quote = '"' then basic cs else literal cs
    short.map fun (text, rest) => (text, rest.atMost)

end Whitelist.Toml
