import Whitelist.Rest
import Whitelist.Text.Numeral

/-!
# Escapes in quoted text

Between double quotes a backslash starts an escape. Which escapes there are depends on the format of
the file.

## What is here

* `Escapes` — the escapes of a format.
* `Escapes.read` — the character that an escape stands for.
-/

set_option autoImplicit false
namespace Whitelist.Text

/-- The escapes of a format. -/
structure Escapes where
  /-- Letters that stand for a character. -/
  letters : List (Char × Char)
  /-- Letters before the number of a character, with the count of its hexadecimal digits. -/
  numbers : List (Char × Nat)

/-- The character of a number, unless there is none. -/
def charOf? (n : Nat) : Option Char := if n.isValidChar then some (.ofNat n) else none

/-- The character that an escape stands for after its backslash, and the text after it. -/
def Escapes.read (escapes : Escapes) : (cs : List Char) → Option (Char × Rest cs)
  | [] => none
  | c :: cs =>
    match escapes.letters.lookup c with
    | some d => some (d, .tail c cs)
    | none => do
      let width ← escapes.numbers.lookup c
      let ds := cs.take width
      if ds.length ≠ width then none
      let d ← (readBase? 16 ds).bind charOf?
      return (d, (RestLe.drop width cs).after (length_lt_cons c cs))

end Whitelist.Text
