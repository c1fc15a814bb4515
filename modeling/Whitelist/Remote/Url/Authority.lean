import Whitelist.Remote.Url.Path

/-!
# Users, hosts and ports

Behind two slashes an address tells the host, with a port where it is not the usual one, and the
name and password of a user.

## What is here

* `Authority`, `Authority.text` — what stands behind two slashes.
* `Authority.ofText?` — the authority that a text is.
* `Authority.withoutUser` — the same without a user.
-/

set_option autoImplicit false
namespace Whitelist

/-- What stands behind the two slashes of an address. -/
structure Authority where
  username : List Char := []
  password : Option (List Char) := none
  /-- The host; an empty one is none. -/
  host : List Char := []
  port : Option Nat := none
  deriving DecidableEq, Repr

namespace Authority

/-- Whether there is a user. -/
def hasUser (authority : Authority) : Bool :=
  authority.username ≠ [] || authority.password.isSome

/-- An authority as a text. -/
def text (authority : Authority) : List Char :=
  let password := (authority.password.map (':' :: ·)).getD []
  let user := if authority.hasUser then authority.username ++ password ++ ['@'] else []
  let port := (authority.port.map fun n => ':' :: Nat.toDigits 10 n).getD []
  user ++ authority.host ++ port

/-- Whether the user can be told: a name and a password are texts in percent forms. -/
def hasReadableUser (authority : Authority) : Bool :=
  match percentDecode? authority.username with
  | none => false
  | some name => name ≠ [] || (authority.password.bind percentDecode?).isSome

/-- The authority without its user, if that one can be told. -/
def withoutUser (authority : Authority) : Authority :=
  if authority.hasReadableUser then { authority with username := [], password := none }
  else authority

/-! ## Reading -/

/-- The texts before and after the last `@`. Without one all stands after it. -/
def cutUser (cs : List Char) : Option (List Char) × List Char :=
  let after := (cs.reverse.takeWhile (· ≠ '@')).reverse
  if '@' ∈ cs then (some (cs.take (cs.length - after.length - 1)), after) else (none, cs)

/-- An authority with the user of a text. A colon comes before the password. -/
def withUser (cs : List Char) (authority : Authority) : Authority :=
  let (username, password) := cs.span (· ≠ ':')
  let encode := percentEncode Url.userReserved
  { authority with
    username := encode username
    password := if password.length < 2 then none else some (encode (password.drop 1)) }

/-- The host and what follows it from a colon on. Within brackets a colon belongs to the host. -/
def cutPort (inBrackets : Bool) : List Char → List Char × List Char
  | [] => ([], [])
  | c :: rest =>
    if c = ':' ∧ !inBrackets then ([], c :: rest)
    else
      let (host, port) := cutPort (c = '[' || (inBrackets && c ≠ ']')) rest
      (c :: host, port)

/-- The least number that is too great for a port. -/
def portLimit : Nat := UInt16.size

/-- A port; the usual one is left out, as is one that is not written. -/
def portOf? (usual : Option Nat) (cs : List Char) : Option (Option Nat) :=
  if cs = [] then some none
  else do
    let n ← Text.readNat? cs
    if n ≥ portLimit then none
    else if some n = usual then some none
    else some (some n)

/-- The authority that a text is in an address of a scheme, and what it leaves of the text. Behind a
port a backslash may follow. -/
def ofText? (kind : SchemeKind) (usual : Option Nat) (isLast : Bool) (cs : List Char) :
    Option (Authority × List Char) := do
  let (user, server) := cutUser cs
  if user = some [] ∧ server = [] ∧ !isLast then none
  let (host, port) := cutPort false server
  if host = [] ∧ (kind = .web ∨ port ≠ []) then none
  let host ← if kind = .web then Host.ofText? host else Host.plainOf? host
  let (port, rest) := (port.drop 1).span (· ≠ '\\')
  let port ← portOf? usual port
  let authority := withUser (user.getD []) { host, port }
  if authority.hasUser ∧ host = [] then none
  return (authority, rest)

end Authority
end Whitelist
