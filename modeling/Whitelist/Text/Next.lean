import Whitelist.Rest

/-!
# The next character

Blanks may stand between the parts of a text.

## What is here

* `word` — the text after a given word.
* `isGap`, `next` — the next character that is no blank.
-/

set_option autoImplicit false
namespace Whitelist.Text

/-- What follows a word that the text starts with. -/
def word (w cs : List Char) : Option (RestLe cs) :=
  if w.isPrefixOf cs then some (.drop w.length cs) else none

/-- Whether a character is a blank within a line. -/
def isGap (c : Char) : Bool := c = ' ' || c = '\t'

/-- The next character on the line that is no blank. -/
def next : (cs : List Char) → Option (Char × Rest cs)
  | [] => none
  | c :: cs =>
    if isGap c then (next cs).map fun (d, rest) => (d, rest.cons c)
    else some (c, .tail c cs)

end Whitelist.Text
