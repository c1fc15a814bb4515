import Whitelist.Rest
import Whitelist.Text.Blank
import Whitelist.Text.Numeral

/-!
# Tokens of a condition

A condition such as `1 && (2 || !3)` combines config items by their ids. It is read as a list of
tokens first. Blank characters separate tokens and are otherwise skipped; `&&` and `||` are written
without a gap; a number is a longest run of ASCII digits.

## What is here

* `Token` — the six kinds of token.
* `Token.scan` — the tokens of a text, or nothing where some character starts no token.
-/

set_option autoImplicit false
namespace Whitelist.Condition

/-- A token of a condition. -/
inductive Token where
  | id (n : UInt32)
  | and
  | or
  | not
  | openParen
  | closeParen
  deriving DecidableEq, Repr

namespace Token

/-- The number that a run of digits writes, if a config item can have it as its id. -/
def readId? (digits : List Char) : Option UInt32 :=
  (Text.readBelow? UInt32.size digits).map .ofNat

/-- The tokens of a text, or nothing where a character starts no token, a `&` or `|` stands alone,
or a number is too large for an id. -/
def scan : List Char → Option (List Token)
  | [] => some []
  | '(' :: cs => (scan cs).map (openParen :: ·)
  | ')' :: cs => (scan cs).map (closeParen :: ·)
  | '!' :: cs => (scan cs).map (not :: ·)
  | '&' :: '&' :: cs => (scan cs).map (and :: ·)
  | '|' :: '|' :: cs => (scan cs).map (or :: ·)
  | c :: cs =>
    if c.isDigit then do
      let n ← readId? (c :: cs.takeWhile Char.isDigit)
      (scan (cs.dropWhile Char.isDigit)).map (id n :: ·)
    else if Text.isBlankChar c then scan cs
    else none
termination_by cs => cs.length
decreasing_by
  all_goals simp only [List.length_cons]
  all_goals first | omega | exact Nat.lt_succ_of_le (length_dropWhile_le _ _)

end Token
end Whitelist.Condition
