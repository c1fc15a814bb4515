import Whitelist.Json.Number
import Whitelist.Text.Next

/-!
# Reading JSON

The whole text has to be one value; space may stand around it.

## What is here

* `next` — the next character that is no space.
* `pieces`, `joinPieces`, `stringTail` — strings. Two `\u` forms may make up one character.
* `number` — numbers, taken apart into their digits.
* `value`, `items`, `members` — values.
* `Json.ofText?` — the value that a text is.
-/

set_option autoImplicit false
namespace Whitelist.Json.Reader

open Text (word digits hexValue?)

/-- The space that may stand between the parts of a value. -/
def isSpace (c : Char) : Bool := c = ' ' || c = '\t' || c = '\n' || c = '\r'

/-- The first character that is no space, and what follows it. -/
def next : (cs : List Char) → Option (Char × Rest cs)
  | [] => none
  | c :: cs =>
    if isSpace c then
      (next cs).map fun (d, rest) => (d, rest.cons c)
    else some (c, .tail c cs)

/-! ## Strings -/

/-- A part of a string: a character, or a number written with `\u`. -/
inductive Piece where
  | char (c : Char)
  | unit (n : Nat)
  deriving DecidableEq, Repr

/-- The number that four hexadecimal digits write. -/
def hexNumber? (a b c d : Char) : Option Nat := do
  return ((← hexValue? a) * 16 + (← hexValue? b)) * 256 + ((← hexValue? c) * 16 + (← hexValue? d))

/-- The character that a letter after a backslash stands for. -/
def unescape? (c : Char) : Option Char :=
  match c with
  | '"' => some '"'
  | '\\' => some '\\'
  | '/' => some '/'
  | 'b' => some '\x08'
  | 'f' => some '\x0c'
  | 'n' => some '\n'
  | 'r' => some '\r'
  | 't' => some '\t'
  | _ => none

/-- The parts of a string up to its closing quote. A control character may not stand in it. -/
def pieces : (cs : List Char) → Option (List Piece × Rest cs)
  | [] => none
  | '"' :: cs => some ([], .tail '"' cs)
  | '\\' :: 'u' :: a :: b :: c :: d :: cs => do
    let n ← hexNumber? a b c d
    let (more, rest) ← pieces cs
    return (.unit n :: more, (((((rest.cons d).cons c).cons b).cons a).cons 'u').cons '\\')
  | '\\' :: c :: cs => do
    let d ← unescape? c
    let (more, rest) ← pieces cs
    return (.char d :: more, (rest.cons c).cons '\\')
  | c :: cs =>
    if c.toNat < 0x20 then none
    else do
      let (more, rest) ← pieces cs
      return (.char c :: more, rest.cons c)

/-- Whether the number is the first half of a surrogate pair. -/
def isHighHalf (n : Nat) : Bool := 0xD800 ≤ n && n < 0xDC00

/-- Whether the number is the second half of a surrogate pair. -/
def isLowHalf (n : Nat) : Bool := 0xDC00 ≤ n && n < 0xE000

/-- The characters of a string, if no half of a surrogate pair stands alone. -/
def joinPieces : List Piece → Option (List Char)
  | [] => some []
  | .char c :: more => (joinPieces more).map (c :: ·)
  | .unit high :: .unit low :: more =>
    if isHighHalf high then
      if isLowHalf low then
        (joinPieces more).map (.ofNat (0x10000 + (high - 0xD800) * 0x400 + (low - 0xDC00)) :: ·)
      else none
    else if isLowHalf high then none
    else (joinPieces (.unit low :: more)).map (.ofNat high :: ·)
  | .unit n :: more =>
    if isHighHalf n || isLowHalf n then none else (joinPieces more).map (.ofNat n :: ·)

/-- A string after its opening quote; no text where it cannot be read. -/
def stringTail (cs : List Char) : Option (Option String × Rest cs) :=
  (pieces cs).map fun (ps, rest) => ((joinPieces ps).map .ofList, rest)

/-! ## Numbers -/

/-- The digits after a point; nothing where there is no point, and no reading where no digit follows
it. -/
def fraction (cs : List Char) : Option (Option (List Char) × List Char) :=
  match cs with
  | '.' :: cs =>
    let (ds, rest) := digits cs
    if ds = [] then none else some (some ds, rest)
  | cs => some (none, cs)

/-- The digits of an exponent with its sign. -/
def exponentDigits (negative : Bool) (cs : List Char) : Option (Option Int × List Char) :=
  let (ds, rest) := digits cs
  let n : Int := Text.numberOf ds
  if ds = [] then none else some (some (if negative then -n else n), rest)

/-- The exponent after an `e`; nothing where there is no `e`. -/
def exponent (cs : List Char) : Option (Option Int × List Char) :=
  match cs with
  | 'e' :: '-' :: cs | 'E' :: '-' :: cs => exponentDigits true cs
  | 'e' :: '+' :: cs | 'E' :: '+' :: cs => exponentDigits false cs
  | 'e' :: cs | 'E' :: cs => exponentDigits false cs
  | cs => some (none, cs)

/-- A number: an optional minus sign, digits without a zero in front of others, and an optional
fraction and exponent. -/
def number (cs : List Char) : Option (Json × Rest cs) := do
  let (negative, afterSign) := match cs with
    | '-' :: cs => (true, cs)
    | cs => (false, cs)
  let (whole, afterWhole) := digits afterSign
  if whole = [] ∨ (whole.head? = some '0' ∧ whole.length > 1) then none
  let (part, afterPart) ← fraction afterWhole
  let (exp, rest) ← exponent afterPart
  if h : rest.length < cs.length then some (ofNumber negative whole part exp, ⟨rest, h⟩)
  else none

/-! ## Values -/

/-- The deepest level of nesting at which an array or object can be read. -/
def maxDepth : Nat := 127

/-- An array or object at a depth, the outermost being at depth 1. -/
def atDepth (depth : Nat) (container : Json) : Json :=
  if depth > maxDepth then unreadable else container

/-- An object whose names can all be read. -/
def ofMembers (ms : List (Option String × Json)) : Json :=
  match ms.mapM fun (name, value) => name.map fun name => (name, value) with
  | some ms => obj ms
  | none => unreadable

mutual

/-- One value at the start of the text. -/
def value (depth : Nat) (cs : List Char) : Option (Json × Rest cs) := do
  let (c, ⟨inner, h⟩) ← next cs
  match c with
  | '\x7b' =>
    let (d, rest) ← next inner
    if d = '\x7d' then return (atDepth (depth + 1) (obj []), rest.after h)
    let (ms, rest) ← members (depth + 1) inner
    return (atDepth (depth + 1) (ofMembers ms), rest.after h)
  | '[' =>
    let (d, rest) ← next inner
    if d = ']' then return (atDepth (depth + 1) (arr []), rest.after h)
    let (xs, rest) ← items (depth + 1) inner
    return (atDepth (depth + 1) (arr xs), rest.after h)
  | '"' =>
    let (s, rest) ← stringTail inner
    return (s.elim unreadable str, rest.after h)
  | 'n' => return (null, (← word "ull".toList inner).after h)
  | 't' => return (bool true, (← word "rue".toList inner).after h)
  | 'f' => return (bool false, (← word "alse".toList inner).after h)
  | c =>
    let (n, ⟨rest, hr⟩) ← number (c :: inner)
    have hr := length_le_of_lt_cons hr
    return (n, ⟨rest, length_lt_of_le_of_lt hr h⟩)
termination_by (cs.length, 0)

/-- The items of an array after its opening bracket, at least one of them, and the closing
bracket. -/
def items (depth : Nat) (cs : List Char) : Option (List Json × Rest cs) := do
  let (x, ⟨afterItem, h⟩) ← value depth cs
  let (c, ⟨afterSign, hs⟩) ← next afterItem
  have hs := length_lt_trans hs h
  if c = ']' then return ([x], ⟨afterSign, hs⟩)
  if c ≠ ',' then none
  let (xs, rest) ← items depth afterSign
  return (x :: xs, rest.after hs)
termination_by (cs.length, 1)

/-- The members of an object after its opening brace, at least one of them, and the closing
brace. -/
def members (depth : Nat) (cs : List Char) :
    Option (List (Option String × Json) × Rest cs) := do
  let (quote, ⟨afterQuote, hq⟩) ← next cs
  if quote ≠ '"' then none
  let (name, ⟨afterName, hn⟩) ← stringTail afterQuote
  have hn := length_lt_trans hn hq
  let (colon, ⟨afterColon, hc⟩) ← next afterName
  have hc := length_lt_trans hc hn
  if colon ≠ ':' then none
  let (v, ⟨afterValue, hv⟩) ← value depth afterColon
  have hv := length_lt_trans hv hc
  let (c, ⟨afterSign, hs⟩) ← next afterValue
  have hs := length_lt_trans hs hv
  if c = '\x7d' then return ([(name, v)], ⟨afterSign, hs⟩)
  if c ≠ ',' then none
  let (ms, rest) ← members depth afterSign
  return ((name, v) :: ms, rest.after hs)
termination_by (cs.length, 0)

end

/-- Whether the text is nothing but space. -/
def isSpaceOnly (cs : List Char) : Bool := cs.all isSpace

end Whitelist.Json.Reader

/-- The value that the whole text is, if it is one. -/
def Whitelist.Json.ofText? (text : String) : Option Whitelist.Json := do
  let (v, ⟨rest, _⟩) ← Whitelist.Json.Reader.value 0 text.toList
  if Whitelist.Json.Reader.isSpaceOnly rest then some v else none
