import Whitelist.Settings.Tree
import Whitelist.Text.Blank
import Whitelist.Text.Escape
import Whitelist.Text.Remark

/-!
# Settings in RON

RON is a notation for values with names: a table stands in parentheses, with or without a name in
front, or in braces, where its names are texts.

## What is here

* `Ron.quoted?`, `Ron.raw?`, `Ron.number?` — the parts of a text.
* `Ron.value`, `Ron.items`, `Ron.members`, `Ron.fields` — values.
* `Layer.ofRon?` — the settings that a text holds.
-/

set_option autoImplicit false
namespace Whitelist.Ron

/-! ## Parts -/

/-- What may stand between the parts. -/
def remarks : Text.Remarks where
  isBlank := Text.isBlankChar
  endsLine := (· = '\n')
  nested := true

/-- Whether a character may stand in a word. -/
def isWordChar (c : Char) : Bool := c.isAlphanum || c = '_'

/-- The escapes in a text. -/
def escapes : Text.Escapes where
  letters := [('\'', '\''), ('"', '"'), ('\\', '\\'), ('n', '\n'), ('r', '\r'), ('t', '\t'),
    ('0', '\x00')]
  numbers := [('x', 2)]

/-- The character whose number stands in braces behind a `u`, and what follows. -/
def numbered? (cs : List Char) : Option (Char × List Char) :=
  match cs with
  | 'u' :: '\x7b' :: rest => do
    let (digits, rest) := rest.span (· ≠ '\x7d')
    let c ← (Text.readBase? 16 digits).bind Text.charOf?
    return (c, rest.drop 1)
  | _ => none

/-- The text up to a closing quote, and what follows the quote. -/
def quoted? (quote : Char) (cs : List Char) : Option (List Char × List Char) :=
  match cs with
  | [] => none
  | c :: inner =>
    if c = quote then some ([], inner)
    else if c = '\\' then do
      let (d, rest) ← ((escapes.read inner).map fun (d, rest) => (d, rest.1)).orElse fun () =>
        numbered? inner
      let ⟨rest, _h⟩ ← Rest.of? rest (c :: inner)
      let (text, rest) ← quoted? quote rest
      return (d :: text, rest)
    else do
      let (text, rest) ← quoted? quote inner
      return (c :: text, rest)
termination_by cs.length
decreasing_by all_goals (simp only [List.length_cons] at *; omega)

/-- The text up to a mark, in which every character stands for itself, and what follows the mark. -/
def upTo? (mark : List Char) : List Char → Option (List Char × List Char)
  | [] => none
  | c :: rest =>
    if mark.isPrefixOf (c :: rest) then some ([], (c :: rest).drop mark.length)
    else (upTo? mark rest).map fun (text, rest) => (c :: text, rest)

/-- A text between signs behind an `r`: as many of them follow its closing quote as stand before the
opening one. -/
def raw? (cs : List Char) : Option (List Char × List Char) :=
  let (signs, rest) := cs.span (· = '#')
  match rest with
  | '"' :: rest => upTo? ('"' :: signs) rest
  | _ => none

/-- The whole number that digits write in a base, with underscores between them. -/
def inBase? (base : Nat) (negative : Bool) (cs : List Char) : Option Setting := do
  let n : Int := (← Text.readBase? base (cs.filter (· ≠ '_')))
  return .int (if negative then -n else n)

/-- The exponent with its letter behind a number. -/
def exponent? (cs : List Char) : Option Int :=
  match cs with
  | [] => some 0
  | _ :: digits => Text.readInt? digits

/-- The number with a point or an exponent that a word writes. -/
def float? (negative : Bool) (cs : List Char) : Option Setting := do
  let (digits, exponent) := cs.span fun c => !(c = 'e' || c = 'E')
  let (whole, part) := digits.span (· ≠ '.')
  let all := whole ++ part.drop 1
  if !all.all Char.isDigit ∨ all = [] then none
  let places : Int := (part.drop 1).length
  return .float (.ofDecimal negative (Text.numberOf all) ((← exponent? exponent) - places))

/-- The number that a word is. -/
def number? (cs : List Char) : Option Setting :=
  let (negative, digits) := match cs with
    | '-' :: cs => (true, cs)
    | '+' :: cs => (false, cs)
    | cs => (false, cs)
  match digits with
  | '0' :: 'x' :: digits => inBase? 16 negative digits
  | '0' :: 'o' :: digits => inBase? 8 negative digits
  | '0' :: 'b' :: digits => inBase? 2 negative digits
  | digits =>
    if digits = "inf".toList then some (.float (.infinite negative))
    else if digits = "NaN".toList then some (.float .nan)
    else if digits.head?.any (· = '_') then none
    else
      let digits := digits.filter (· ≠ '_')
      (inBase? 10 negative digits).orElse fun () => float? negative digits

/-- Whether a character may stand in a number. -/
def isNumberChar (c : Char) : Bool := isWordChar c || c = '.' || c = '+' || c = '-'

/-- The value of a word that stands alone. One that is only a name has none. -/
def ofWord? (cs : List Char) : Option Setting :=
  if cs = "true".toList then some (.bool true)
  else if cs = "false".toList then some (.bool false)
  else if cs.head?.any fun c => c.isAlpha || c = '_' then
    if cs = "inf".toList ∨ cs = "NaN".toList then number? cs else some .null
  else number? cs

/-- Whether the name of a field stands in front. -/
def startsField (cs : List Char) : Bool :=
  let (word, rest) := cs.span isWordChar
  word ≠ [] && ((remarks.skip? rest).getD []).head? = some ':'

/-- The text of a name that is a text. -/
def nameOf? : Setting → Option String
  | .text s => some s
  | _ => none

/-- The only item of a list, or else the value itself. -/
def only : Setting → Setting
  | .list [x] => x
  | v => v

/-! ## Values -/

mutual

/-- A value, and what follows it. -/
def value (cs : List Char) : Option (Setting × List Char) := do
  match ← remarks.skip? cs with
  | '[' :: inner =>
    let ⟨inner, _h⟩ ← Rest.of? inner cs
    let (xs, rest) ← items ']' inner
    return (.list xs, rest)
  | '\x7b' :: inner =>
    let ⟨inner, _h⟩ ← Rest.of? inner cs
    let (ms, rest) ← members inner
    return (.table ms, rest)
  | '(' :: inner =>
    let ⟨inner, _h⟩ ← Rest.of? inner cs
    group inner
  | '"' :: inner =>
    let (text, rest) ← quoted? '"' inner
    return (.text (.ofList text), rest)
  | '\'' :: inner =>
    let (text, rest) ← quoted? '\'' inner
    if text.length = 1 then return (.text (.ofList text), rest) else none
  | 'r' :: '"' :: inner =>
    let (text, rest) ← raw? ('"' :: inner)
    return (.text (.ofList text), rest)
  | 'r' :: '#' :: inner =>
    let (text, rest) ← raw? ('#' :: inner)
    return (.text (.ofList text), rest)
  | inner =>
    let (text, rest) := inner.span isNumberChar
    match ← remarks.skip? rest with
    | '(' :: inner =>
      let ⟨inner, _h⟩ ← Rest.of? inner cs
      let (v, rest) ← group inner
      return (if text = "Some".toList then only v else v, rest)
    | _ => return (← ofWord? text, rest)
termination_by 3 * cs.length

/-- What stands in parentheses, up to the closing one: nothing, a table or a list. -/
def group (cs : List Char) : Option (Setting × List Char) := do
  match ← remarks.skip? cs with
  | ')' :: rest => return (.null, rest)
  | inner =>
    if startsField inner then
      let (ms, rest) ← fields cs
      return (.table ms, rest)
    else
      let (xs, rest) ← items ')' cs
      return (.list xs, rest)
termination_by 3 * cs.length + 2

/-- The items of a list up to a closing sign. A comma may stand after the last one. -/
def items (close : Char) (cs : List Char) : Option (List Setting × List Char) := do
  let inner ← remarks.skip? cs
  if inner.head? = some close then return ([], inner.drop 1)
  let (x, rest) ← value cs
  let rest ← remarks.skip? rest
  if rest.head? = some close then return ([x], rest.drop 1)
  if rest.head? ≠ some ',' then none
  let ⟨rest, _h⟩ ← Rest.of? (rest.drop 1) cs
  let (xs, rest) ← items close rest
  return (x :: xs, rest)
termination_by 3 * cs.length + 1

/-- The members of a table up to its closing brace. Those whose names are no texts do not count. -/
def members (cs : List Char) : Option (List (String × Setting) × List Char) := do
  match ← remarks.skip? cs with
  | '\x7d' :: rest => return ([], rest)
  | _ =>
    let (name, rest) ← value cs
    let rest ← remarks.skip? rest
    if rest.head? ≠ some ':' then none
    let ⟨rest, _h⟩ ← Rest.of? (rest.drop 1) cs
    let (v, rest) ← value rest
    let member := ((nameOf? name).map fun name => (name, v)).toList
    match ← remarks.skip? rest with
    | '\x7d' :: rest => return (member, rest)
    | ',' :: rest =>
      let ⟨rest, _h⟩ ← Rest.of? rest cs
      let (ms, rest) ← members rest
      return (member ++ ms, rest)
    | _ => none
termination_by 3 * cs.length + 1

/-- The fields of a table up to its closing parenthesis. -/
def fields (cs : List Char) : Option (List (String × Setting) × List Char) := do
  match ← remarks.skip? cs with
  | ')' :: rest => return ([], rest)
  | inner =>
    let (name, rest) := inner.span isWordChar
    let rest ← remarks.skip? rest
    if name = [] ∨ rest.head? ≠ some ':' then none
    let ⟨rest, _h⟩ ← Rest.of? (rest.drop 1) cs
    let (v, rest) ← value rest
    match ← remarks.skip? rest with
    | ')' :: rest => return ([(.ofList name, v)], rest)
    | ',' :: rest =>
      let ⟨rest, _h⟩ ← Rest.of? rest cs
      let (fs, rest) ← fields rest
      return ((.ofList name, v) :: fs, rest)
    | _ => none
termination_by 3 * cs.length + 1

end

end Whitelist.Ron

namespace Whitelist

/-- The settings that a text in RON holds, if it is one table that can be read. -/
def Layer.ofRon? (text : String) : Option Layer := do
  match ← Ron.value text.toList with
  | (.table entries, rest) => if (← Ron.remarks.skip? rest) = [] then return entries else none
  | _ => none

end Whitelist
