import Whitelist.Host.Composition
import Whitelist.Host.Joining
import Whitelist.Host.Mapping
import Whitelist.Host.Punycode

/-!
# Names of hosts

A name has labels with points between them. It is looked up in ASCII: a label with other characters
is written with ASCII ones behind four that tell so.

## What is here

* `Host.shown?` — a label as it is shown, if it may be one.
* `Host.lookedUp?` — a label as it is looked up.
* `Host.nameOf?` — a name as it is looked up.
-/

set_option autoImplicit false
namespace Whitelist.Host

/-- What tells that a label is written with ASCII characters for others. -/
def asciiMark : List Char := ['x', 'n', '-', '-']

/-- The greatest length of a label with other characters. -/
def maxShown : Nat := 1000

/-- The greatest length of such a label as it is written in ASCII, without the mark. -/
def maxWritten : Nat := 2000

/-- Whether a label that was written in ASCII had to be, and is in its normal form. -/
def isNormal (label : List Char) : Bool :=
  !label.all Punycode.isAscii && label.all isPlain && composed label = label
    && !asciiMark.isPrefixOf label

/-- Whether a label may stand in a name. -/
def isLabel (label : List Char) : Bool := !label.head?.any isMark && placesJoiners label

/-- A label as it is shown, if it may be one. -/
def shown? (label : List Char) : Option (List Char) :=
  let label :=
    if asciiMark.isPrefixOf label then
      let written := label.drop asciiMark.length
      if maxWritten < written.length then none else (Punycode.decode? written).filter isNormal
    else some label
  label.filter isLabel

/-- A label as it is looked up, if it is not too long for that. -/
def lookedUp? (label : List Char) : Option (List Char) :=
  if label.all Punycode.isAscii then some label
  else if maxShown < label.length then none
  else some (asciiMark ++ Punycode.encode label)

/-- Signs that may not stand in a name. -/
def refusedSigns : List Char := ['%', '#', '/', ':', '<', '>', '?', '@', '[', '\\', ']', '^', '|']

/-- Whether a character of ASCII may stand in a name. -/
def isNameChar (c : Char) : Bool := 0x20 < c.toNat && c.toNat < 0x7F && c ∉ refusedSigns

/-- A name as it is looked up, if it is one. -/
def nameOf? (cs : List Char) : Option (List Char) := do
  let text ← cs.mapM mapped?
  let labels ← ((composed text.flatten).splitOn '.').mapM shown?
  if !keepDirections labels then none
  let labels ← labels.mapM lookedUp?
  let name := ['.'].intercalate labels
  if name ≠ [] ∧ name.all isNameChar then return name else none

end Whitelist.Host
