/-!
# ASCII letters

Operator names and lock policies are read without regard to the case of ASCII letters; every other
character stands for itself, so `ı` is no `i` and `Ａ` no `A`.

## What is here

* `lower` — the text with its ASCII capitals in lower case.
* `sameIgnoringCase` — equality up to the case of ASCII letters.
-/

set_option autoImplicit false
namespace Whitelist.Text

/-- The text with the ASCII capitals in lower case and all else unchanged. -/
def lower (s : String) : String := .ofList (s.toList.map Char.toLower)

/-- Equality up to the case of ASCII letters. -/
def sameIgnoringCase (s t : String) : Bool :=
  s.toList.map Char.toLower == t.toList.map Char.toLower

end Whitelist.Text
