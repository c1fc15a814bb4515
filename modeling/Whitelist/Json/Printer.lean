import Whitelist.Json.Basic
import Whitelist.Text.Quoted

/-!
# Writing JSON

Requests carry JSON without any space; on the screen it is laid out over lines, two spaces to a
level. Characters beyond ASCII stand for themselves in both.

## What is here

* `Json.quote` — a string with its quotes.
* `Json.compact` — a value on one line without spaces.
* `Json.pretty` — a value over lines.
-/

set_option autoImplicit false
namespace Whitelist.Json

/-- The characters with a form of their own, and the sign that stands for each behind a
backslash. -/
def shortForms : List (Char × Char) :=
  [('"', '"'), ('\\', '\\'), ('\x08', 'b'), ('\t', 't'), ('\n', 'n'), ('\x0c', 'f'), ('\r', 'r')]

/-- One character as it stands between the quotes of a JSON string: only the quote, the backslash
and the control characters below U+0020 are not written as themselves. -/
def escapeChar (c : Char) : List Char :=
  match shortForms.lookup c with
  | some sign => ['\\', sign]
  | none =>
    if c.toNat < 0x20 then
      ['\\', 'u', '0', '0', Nat.digitChar (c.toNat / 16), Nat.digitChar (c.toNat % 16)]
    else [c]

/-- A string between its quotes. -/
def quote (s : String) : List Char := '"' :: s.toList.flatMap escapeChar ++ ['"']

/-- A whole number in decimal digits. -/
def intText (n : Int) : List Char :=
  match n with
  | .ofNat n => Nat.toDigits 10 n
  | .negSucc n => '-' :: Nat.toDigits 10 (n + 1)

/-- A floating-point number, with a point even where it is whole. What is no number is null. -/
def floatText (x : Double) : List Char :=
  match x with
  | .finite .. =>
    let digits := x.text.toList
    if '.' ∈ digits then digits else digits ++ ['.', '0']
  | _ => "null".toList

mutual

/-- The value on one line without spaces. -/
def compact : Json → List Char
  | null => "null".toList
  | bool b => (if b then "true" else "false").toList
  | int n => intText n
  | float x => floatText x
  | str s => quote s
  | arr items => '[' :: compactItems items
  | obj ms => '\x7b' :: compactMembers ms
  | unreadable => "null".toList

/-- The items of an array and its closing bracket. -/
def compactItems : List Json → List Char
  | [] => [']']
  | [item] => item.compact ++ [']']
  | item :: rest => item.compact ++ ',' :: compactItems rest

/-- The members of an object and its closing brace. -/
def compactMembers : List (String × Json) → List Char
  | [] => ['\x7d']
  | [(name, value)] => quote name ++ ':' :: value.compact ++ ['\x7d']
  | (name, value) :: rest => quote name ++ ':' :: value.compact ++ ',' :: compactMembers rest

end

/-- The start of a line at a level. -/
def indent (level : Nat) : List Char := '\n' :: List.replicate (2 * level) ' '

mutual

/-- The value over lines, its own lines at the level. -/
def prettyAt (level : Nat) : Json → List Char
  | arr (item :: rest) =>
    '[' :: indent (level + 1) ++ item.prettyAt (level + 1) ++ prettyItems level rest
  | obj ((name, value) :: rest) =>
    '\x7b' :: indent (level + 1) ++ quote name ++ ':' :: ' ' :: value.prettyAt (level + 1)
      ++ prettyMembers level rest
  | value => value.compact

/-- The items after the first, and the closing bracket. -/
def prettyItems (level : Nat) : List Json → List Char
  | [] => indent level ++ [']']
  | item :: rest =>
    ',' :: indent (level + 1) ++ item.prettyAt (level + 1) ++ prettyItems level rest

/-- The members after the first, and the closing brace. -/
def prettyMembers (level : Nat) : List (String × Json) → List Char
  | [] => indent level ++ ['\x7d']
  | (name, value) :: rest =>
    ',' :: indent (level + 1) ++ quote name ++ ':' :: ' ' :: value.prettyAt (level + 1)
      ++ prettyMembers level rest

end

/-- The value on one line without spaces. -/
def toText (value : Json) : String := .ofList value.compact

/-- The value over lines, two spaces to a level. -/
def pretty (value : Json) : String := .ofList (value.prettyAt 0)

end Whitelist.Json
