import Whitelist.Settings.Tree
import Whitelist.Text.Blank
import Whitelist.Text.Escape
import Whitelist.Text.Remark

/-!
# Settings in JSON5

JSON5 is JSON made easier to write by hand: names without quotes, texts between either kind of
quotes, more ways of writing numbers, remarks, and commas at the end.

## What is here

* `Json5.word`, `Json5.quoted?`, `Json5.number?` — the parts of a text.
* `Json5.value`, `Json5.items`, `Json5.members` — values.
* `Layer.ofJson5?` — the settings that a text holds.
-/

set_option autoImplicit false
namespace Whitelist.Json5

/-! ## Parts -/

/-- Whether a character ends a line. -/
def endsLine (c : Char) : Bool := c ∈ ['\n', '\r', '\u2028', '\u2029']

/-- What may stand between the parts. -/
def remarks : Text.Remarks where
  isBlank c := (Text.isBlankChar c && c ≠ '\x85') || c = '\ufeff'
  endsLine := endsLine
  nested := false

/-- Whether a character may stand in a word. -/
def isWordChar (c : Char) : Bool :=
  c.isAlphanum || c = '_' || c = '$' || (0x80 ≤ c.toNat && !remarks.isBlank c)

/-- The word that a text starts with, and what follows it. -/
def word (cs : List Char) : List Char × List Char := cs.span isWordChar

/-- The escapes in a text. -/
def escapes : Text.Escapes where
  letters := [('\'', '\''), ('"', '"'), ('\\', '\\'), ('b', '\x08'), ('f', '\x0c'), ('n', '\n'),
    ('r', '\r'), ('t', '\t'), ('v', '\x0b'), ('0', '\x00')]
  numbers := [('x', 2), ('u', 4)]

/-- The text up to a closing quote, and what follows the quote. Behind a backslash the end of a line
is left out, and a character that is no escape stands for itself. -/
def quoted? (quote : Char) (cs : List Char) : Option (List Char × List Char) :=
  match cs with
  | [] => none
  | '\\' :: '\r' :: '\n' :: rest => quoted? quote rest
  | '\\' :: c :: rest =>
    if endsLine c then quoted? quote rest
    else do
      let (d, ⟨rest, _h⟩) ← (escapes.read (c :: rest)).orElse fun () =>
        if c.isDigit ∨ c = 'x' ∨ c = 'u' then none else some (c, Rest.tail c rest)
      let (text, rest) ← quoted? quote rest
      return (d :: text, rest)
  | c :: rest =>
    if c = quote then some ([], rest)
    else if endsLine c then none
    else do
      let (text, rest) ← quoted? quote rest
      return (c :: text, rest)
termination_by cs.length
decreasing_by all_goals (simp only [List.length_cons] at *; omega)

/-- Whether a character may stand in a number. -/
def isNumberChar (c : Char) : Bool := c.isAlphanum || c = '.' || c = '+' || c = '-'

/-- A hexadecimal number of 32 bits. -/
def hex? (cs : List Char) : Option Setting :=
  ((Text.readBase? 16 cs).filter (· < UInt32.size)).map fun n => .int n

/-- The exponent with its letter behind a number. -/
def exponent? (cs : List Char) : Option Int :=
  match cs with
  | [] => some 0
  | _ :: '-' :: digits => (Text.readNat? digits).map fun n => -(n : Int)
  | _ :: '+' :: digits => (Text.readNat? digits).map fun n => (n : Int)
  | _ :: digits => (Text.readNat? digits).map fun n => (n : Int)

/-- A decimal number without its sign: digits without an idle zero in front, and digits behind a
point, one of which may be missing. -/
def decimal? (negative : Bool) (cs : List Char) : Option Setting := do
  let (digits, exponent) := cs.span fun c => !(c = 'e' || c = 'E')
  let (whole, part) := digits.span (· ≠ '.')
  if !(whole ++ part.drop 1).all Char.isDigit ∨ whole ++ part.drop 1 = [] then none
  if whole.head? = some '0' ∧ whole.length > 1 then none
  let n : Int := Text.numberOf whole
  if part = [] ∧ exponent = [] then
    return .int (← int64? (if negative then -n else n)).toInt
  let places : Int := (part.drop 1).length
  match Double.ofDecimal negative (Text.numberOf (whole ++ part.drop 1))
      ((← exponent? exponent) - places) with
  | .infinite _ => none
  | x => return .float x

/-- The number that a word is. -/
def number? (cs : List Char) : Option Setting :=
  let (negative, digits) := match cs with
    | '-' :: cs => (true, cs)
    | '+' :: cs => (false, cs)
    | cs => (false, cs)
  if digits = "Infinity".toList then some (.float (.infinite negative))
  else if digits = "NaN".toList then some (.float .nan)
  else
    match cs with
    | '0' :: 'x' :: cs | '0' :: 'X' :: cs => hex? cs
    | _ => decimal? negative digits

/-- The value of a word or a number. -/
def ofWord? (cs : List Char) : Option Setting :=
  if cs = "null".toList then some .null
  else if cs = "true".toList then some (.bool true)
  else if cs = "false".toList then some (.bool false)
  else number? cs

/-- A name, with or without quotes, and what follows it. -/
def name? (cs : List Char) : Option (List Char × List Char) :=
  match cs with
  | '"' :: rest => quoted? '"' rest
  | '\'' :: rest => quoted? '\'' rest
  | c :: rest => if c.isDigit ∨ !isWordChar c then none else some (word (c :: rest))
  | [] => none

/-! ## Values -/

mutual

/-- A value, and what follows it. -/
def value (cs : List Char) : Option (Setting × List Char) := do
  match ← remarks.skip? cs with
  | '[' :: inner =>
    let ⟨inner, _h⟩ ← Rest.of? inner cs
    let (xs, rest) ← items inner
    return (.list xs, rest)
  | '\x7b' :: inner =>
    let ⟨inner, _h⟩ ← Rest.of? inner cs
    let (ms, rest) ← members inner
    return (.table ms, rest)
  | '"' :: inner =>
    let (text, rest) ← quoted? '"' inner
    return (.text (.ofList text), rest)
  | '\'' :: inner =>
    let (text, rest) ← quoted? '\'' inner
    return (.text (.ofList text), rest)
  | inner =>
    let (text, rest) := inner.span isNumberChar
    return (← ofWord? text, rest)
termination_by 2 * cs.length

/-- The items of a list up to its closing bracket. A comma may stand after the last one. -/
def items (cs : List Char) : Option (List Setting × List Char) := do
  match ← remarks.skip? cs with
  | ']' :: rest => return ([], rest)
  | _ =>
    let (x, rest) ← value cs
    match ← remarks.skip? rest with
    | ']' :: rest => return ([x], rest)
    | ',' :: rest =>
      let ⟨rest, _h⟩ ← Rest.of? rest cs
      let (xs, rest) ← items rest
      return (x :: xs, rest)
    | _ => none
termination_by 2 * cs.length + 1

/-- The members of a table up to its closing brace. A comma may stand after the last one. -/
def members (cs : List Char) :
    Option (List (String × Setting) × List Char) := do
  match ← remarks.skip? cs with
  | '\x7d' :: rest => return ([], rest)
  | inner =>
    let (name, rest) ← name? inner
    match ← remarks.skip? rest with
    | ':' :: rest =>
      let ⟨rest, _h⟩ ← Rest.of? rest cs
      let (v, rest) ← value rest
      match ← remarks.skip? rest with
      | '\x7d' :: rest => return ([(.ofList name, v)], rest)
      | ',' :: rest =>
        let ⟨rest, _h⟩ ← Rest.of? rest cs
        let (ms, rest) ← members rest
        return ((.ofList name, v) :: ms, rest)
      | _ => none
    | _ => none
termination_by 2 * cs.length + 1

end

end Whitelist.Json5

namespace Whitelist

/-- The settings that a text in JSON5 holds, if it is one table that can be read. -/
def Layer.ofJson5? (text : String) : Option Layer := do
  match ← Json5.value text.toList with
  | (.table entries, rest) => if (← Json5.remarks.skip? rest) = [] then return entries else none
  | _ => none

end Whitelist
