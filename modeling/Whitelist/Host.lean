import Whitelist.Host.Label
import Whitelist.Host.Number

/-!
# Hosts

What an address says of its host has one normal form, in which hosts are compared and looked up.

## What is here

* `percentEncode`, `percentDecode?` — texts with and without percent forms.
* `Host.ofText?` — a host that is a name or a number.
* `Host.plainOf?` — a host that is just a text.
-/

set_option autoImplicit false
namespace Whitelist

/-! ## Percent forms -/

/-- A byte as a percent form. -/
def percentForm (byte : UInt8) : List Char :=
  let digit (n : Nat) : Char := (Nat.digitChar n).toUpper
  ['%', digit (byte.toNat / 16), digit (byte.toNat % 16)]

/-- The bytes of a character. -/
def bytesOf (c : Char) : List UInt8 := (String.ofList [c]).toUTF8.toList

/-- A character as the percent forms of its bytes. -/
def percentForms (c : Char) : List Char := (bytesOf c).flatMap percentForm

/-- The text with the characters beyond printable ASCII, and those of a given list, as percent
forms. -/
def percentEncode (reserved : List Char) (cs : List Char) : List Char :=
  cs.flatMap fun c =>
    if c.toNat ≤ 0x1F ∨ 0x7F ≤ c.toNat ∨ c ∈ reserved then percentForms c else [c]

/-- The bytes that a text with percent forms stands for. A percent sign without two digits behind it
stands for itself. -/
def percentBytes : List Char → List UInt8
  | '%' :: a :: b :: rest =>
    match Text.hexValue? a, Text.hexValue? b with
    | some x, some y => .ofNat (16 * x + y) :: percentBytes rest
    | _, _ => bytesOf '%' ++ percentBytes (a :: b :: rest)
  | c :: rest => bytesOf c ++ percentBytes rest
  | [] => []

/-- A text without percent forms, if their bytes make characters. -/
def percentDecode? (cs : List Char) : Option (List Char) :=
  (String.fromUTF8? ⟨(percentBytes cs).toArray⟩).map String.toList

/-! ## Hosts -/

namespace Host

/-- A host that is a name or a number, in its normal form. -/
def ofText? (cs : List Char) : Option (List Char) :=
  match cs with
  | '[' :: rest => bracketed? rest
  | _ => do
    let name ← nameOf? (← percentDecode? cs)
    if endsInNumber name then dotted? name else return name

/-- Signs that may not stand in a host that is just a text. -/
def plainRefused : List Char :=
  ['\x00', ' ', '#', '/', ':', '<', '>', '?', '@', '[', '\\', ']', '^', '|']

/-- A host that is just a text, or a number between brackets, in its normal form. -/
def plainOf? (cs : List Char) : Option (List Char) :=
  match cs with
  | '[' :: rest => bracketed? rest
  | _ => if cs.any (· ∈ plainRefused) then none else some (percentEncode [] cs)

end Host
end Whitelist
