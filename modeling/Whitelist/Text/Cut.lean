import Whitelist.Text.Blank

/-!
# Cutting and searching text

Everything here works on the list of a text's characters.

## What is here

* `cut` — the text before and after the first separator.
* `pieces` — the comma-separated pieces of a text, trimmed, without the blank ones.
* `dropLeading`, `dropTrailing` — the text without the given character at one end.
* `contains` — whether one text occurs in another.
-/

set_option autoImplicit false
namespace Whitelist.Text

/-- The text before and after the first `sep`, or nothing where there is no `sep`. -/
def cut (sep : Char) : List Char → Option (List Char × List Char)
  | [] => none
  | c :: cs =>
    if c = sep then some ([], cs)
    else (cut sep cs).map fun (before, after) => (c :: before, after)

/-- The texts between the separators, each trimmed; `n` separators make `n + 1` of them. -/
def trimmedPieces (sep : Char) (cs : List Char) : List (List Char) :=
  (cs.splitOn sep).map trim

/-- The comma-separated pieces of a text, trimmed, without those that are blank. -/
def pieces (s : String) : List String :=
  ((trimmedPieces ',' s.toList).filter (· ≠ [])).map .ofList

/-- The text without the run of `c` that it starts with. -/
def dropLeading (c : Char) (cs : List Char) : List Char := cs.dropWhile (· = c)

/-- The text without the run of `c` that it ends with. -/
def dropTrailing (c : Char) (cs : List Char) : List Char := (cs.reverse.dropWhile (· = c)).reverse

/-- Whether `needle` occurs in the text as a run of consecutive characters. -/
def containsChars (needle : List Char) : List Char → Bool
  | [] => needle.isEmpty
  | c :: cs => needle.isPrefixOf (c :: cs) || containsChars needle cs

/-- Whether `needle` occurs in `s`; the empty text occurs everywhere. -/
def contains (s needle : String) : Bool := containsChars needle.toList s.toList

/-- The text after `start`, where it starts so. -/
def after? (start : List Char) (cs : List Char) : Option (List Char) :=
  if start.isPrefixOf cs then some (cs.drop start.length) else none

end Whitelist.Text
