import Whitelist.Remote.Url.Authority

/-!
# Addresses

An address is given as text and taken apart before a request is made of it. Where it can be taken
apart it is shown in its normal form: scheme and host in lower case, the usual port left out, dot
segments resolved, and characters that may not stand in an address written as percent forms.

## What is here

* `Url`, `Url.text` — an address and its normal form.
* `Url.ofText?` — the address that a text is.
* `Url.hasHost`, `Url.isWeb`, `Url.canBeSent` — what requests need.
* `Url.withoutUser` — the address without the user that it may tell.
-/

set_option autoImplicit false
namespace Whitelist

/-- An address. -/
structure Url where
  scheme : String
  /-- What stands behind two slashes, if there are any. -/
  authority : Option Authority
  /-- The path, in an address without authority perhaps just a text. -/
  path : List Char
  /-- The query and the fragment with the signs in front of them. -/
  tail : List Char
  deriving DecidableEq, Repr

namespace Url

/-- The normal form of an address. -/
def text (url : Url) : String :=
  let authority := (url.authority.map fun authority => '/' :: '/' :: authority.text).getD []
  url.scheme ++ ":" ++ .ofList (authority ++ url.path ++ url.tail)

/-- Whether an address tells a host. -/
def hasHost (url : Url) : Bool := url.authority.any (·.host ≠ [])

/-- Whether requests can be sent to an address of its scheme. -/
def isWeb (url : Url) : Bool := url.scheme = "http" || url.scheme = "https"

/-- The address without the user that it tells. -/
def withoutUser (url : Url) : Url := { url with authority := url.authority.map (·.withoutUser) }

/-- Characters that may stand in the name of a host but not in a request. -/
def unsendable : List Char := ['"', '\x60', '\x7b', '\x7d']

/-- The greatest number of bytes in the address of a request. -/
def maxLength : Nat := 65534

/-- Whether an address can stand in a request. -/
def canBeSent (url : Url) : Bool :=
  url.authority.all (fun authority => authority.host.all (· ∉ unsendable))
    && url.text.utf8ByteSize ≤ maxLength

/-! ## Reading -/

/-- Whether a character may stand in a scheme after its first letter. -/
def isSchemeChar (c : Char) : Bool := c.isAlphanum || c = '+' || c = '-' || c = '.'

/-- The scheme that a text starts with, and what follows its colon. -/
def schemeOf? (cs : List Char) : Option (String × List Char) :=
  let (scheme, rest) := cs.span isSchemeChar
  match scheme, rest with
  | c :: _, ':' :: rest =>
    if c.isAlpha then some (.ofList (scheme.map Char.toLower), rest) else none
  | _, _ => none

/-- The text without blank and control characters at its ends and without line ends and tabs. -/
def cleaned (cs : List Char) : List Char :=
  let edge (c : Char) : Bool := c.toNat ≤ 0x20
  let cs := ((cs.dropWhile edge).reverse.dropWhile edge).reverse
  cs.filter fun c => !(c = '\t' || c = '\n' || c = '\r')

/-- The address with an authority that a text goes on with behind the slashes. Only a web address
always has a path. -/
def withAuthority? (scheme : String) (kind : SchemeKind) (cs : List Char) : Option Url := do
  let usual := SchemeKind.webSchemes.lookup scheme
  let (authority, rest) := cs.span (!kind.endsAuthority ·)
  let (authority, left) ← Authority.ofText? kind usual (rest = []) authority
  let (path, tail) := cutTail (left ++ rest)
  let path := if path = [] ∧ kind = .other then [] else pathText kind path
  return { scheme, authority, path, tail := tailText kind tail }

/-- The host of a file that is this machine. -/
def thisMachine : List Char := "localhost".toList

/-- The address of a file, which may be on another machine. -/
def ofFile? (cs : List Char) : Option Url := do
  let kind := SchemeKind.file
  let (slashes, behind) := cs.splitAt 2
  let hasSlashes := slashes.length = 2 && slashes.all kind.separates
  let (host, rest) := behind.span (!kind.endsAuthority ·)
  let hasHost := hasSlashes && host ≠ [] && !isDrive host
  let server ← if hasHost then (Host.ofText? host).map some else some none
  let (path, tail) := cutTail (if hasHost then rest else if hasSlashes then behind else cs)
  let onDrive := (segmentsOf kind path).head?.any isDrive
  let server := if onDrive then none else server.filter (· ≠ thisMachine)
  return {
    scheme := SchemeKind.fileScheme
    authority := some { host := server.getD [] }
    path := pathText kind path
    tail := tailText kind tail }

/-- The address without an authority that a text goes on with behind a scheme. A path that would
look like an authority has a point in front. -/
def withoutAuthority (scheme : String) (cs : List Char) : Url :=
  let (path, tail) := cutTail cs
  let path :=
    if path.head? = some '/' then
      let path := pathText .other path
      if "//".toList.isPrefixOf path then '/' :: '.' :: path else path
    else percentEncode [] path
  { scheme, authority := none, path, tail := tailText .other tail }

/-- The address that a text is, if it is one. -/
def ofText? (text : String) : Option Url := do
  let (scheme, rest) ← schemeOf? (cleaned text.toList)
  let kind := SchemeKind.of scheme
  match kind with
  | .web => withAuthority? scheme kind (rest.dropWhile kind.separates)
  | .file => ofFile? rest
  | .other =>
    if "//".toList.isPrefixOf rest then withAuthority? scheme kind (rest.drop 2)
    else return withoutAuthority scheme rest

end Url
end Whitelist
