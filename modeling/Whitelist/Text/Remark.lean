import Whitelist.Rest

/-!
# Remarks between the parts of a text

Between the parts of a text may stand blanks and remarks: one goes from two slashes to the end of
its line, another from a slash and an asterisk to an asterisk and a slash.

## What is here

* `Remarks` — what may stand between the parts of a format.
* `Remarks.skip?` — a text behind what stands between its parts.
-/

set_option autoImplicit false
namespace Whitelist.Text

/-- What may stand between the parts of a format. -/
structure Remarks where
  isBlank : Char → Bool
  /-- Whether a character ends a line. -/
  endsLine : Char → Bool
  /-- Whether remarks may stand in each other. -/
  nested : Bool

namespace Remarks

variable (remarks : Remarks)

/-- The text behind the end of a remark that so many others stand in. -/
def close? (depth : Nat) : List Char → Option (List Char)
  | '*' :: '/' :: rest =>
    match depth with
    | 0 => some rest
    | depth + 1 => close? depth rest
  | '/' :: '*' :: rest =>
    if remarks.nested then close? (depth + 1) rest else close? depth ('*' :: rest)
  | _ :: rest => close? depth rest
  | [] => none
termination_by cs => cs.length

/-- The text behind blanks and remarks, unless a remark does not end. -/
def skip? (cs : List Char) : Option (List Char) :=
  match cs.dropWhile remarks.isBlank with
  | '/' :: '/' :: inner => do
    let ⟨rest, _h⟩ ← Rest.of? (inner.dropWhile (!remarks.endsLine ·)) cs
    skip? rest
  | '/' :: '*' :: inner => do
    let ⟨rest, _h⟩ ← Rest.of? (← remarks.close? 0 inner) cs
    skip? rest
  | rest => some rest
termination_by cs.length

end Remarks
end Whitelist.Text
