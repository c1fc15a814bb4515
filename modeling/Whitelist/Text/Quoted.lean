import Whitelist.Text.Hidden

/-!
# Text in double quotes

Reports show a rejected value between double quotes, written so that no character of it is lost
on the reader.

## What is here

* `hexDigits` — a number in lower-case hexadecimal, without leading zeros.
* `shortForms`, `escape` — one character as it stands between the quotes.
* `quoted` — a whole text between its quotes.
-/

set_option autoImplicit false
namespace Whitelist.Text

/-- The number in lower-case hexadecimal digits, without leading zeros. -/
def hexDigits (n : Nat) : List Char := Nat.toDigits 16 n

/-- The characters with a form of their own, and the sign that stands for each behind a
backslash. -/
def shortForms : List (Char × Char) :=
  [('"', '"'), ('\\', '\\'), ('\n', 'n'), ('\r', 'r'), ('\t', 't'), ('\x00', '0')]

/-- One character between quotes: a backslash form where there is one, the code point in braces
where the character would not be seen, and otherwise the character itself. -/
def escape (c : Char) : List Char :=
  match shortForms.lookup c with
  | some sign => ['\\', sign]
  | none => if isHidden c then ['\\', 'u', '\x7b'] ++ hexDigits c.toNat ++ ['\x7d'] else [c]

/-- The text between double quotes. -/
def quoted (s : String) : String :=
  .ofList ('"' :: s.toList.flatMap escape ++ ['"'])

end Whitelist.Text
