import Whitelist.Host

/-!
# Paths of addresses

A path is a row of segments behind slashes. A segment of one point means the folder itself and one
of two points the folder above, which the normal form resolves. Behind a path may stand a query and
a fragment.

## What is here

* `SchemeKind`, `SchemeKind.of` — the kinds of schemes, which differ in what they allow.
* `Url.resolve` — a path without segments of points.
* `Url.pathText`, `Url.tailText` — a path, and what stands behind it, in their normal forms.
-/

set_option autoImplicit false
namespace Whitelist

/-! ## Schemes -/

/-- A kind of schemes. -/
inductive SchemeKind where
  /-- Schemes whose addresses always have a host. -/
  | web
  /-- The scheme of files. -/
  | file
  /-- All others. -/
  | other
  deriving DecidableEq, Repr

namespace SchemeKind

/-- The schemes that always have a host, with their usual ports. -/
def webSchemes : List (String × Nat) :=
  [("http", 80), ("https", 443), ("ws", 80), ("wss", 443), ("ftp", 21)]

/-- The scheme of files. -/
def fileScheme : String := "file"

/-- The kind of a scheme in lower case. -/
def of (scheme : String) : SchemeKind :=
  if scheme = fileScheme then file
  else if (webSchemes.lookup scheme).isSome then web
  else other

/-- Whether a character separates segments. -/
def separates (kind : SchemeKind) (c : Char) : Bool := c = '/' || (kind ≠ other && c = '\\')

/-- Whether a character ends what says where the host is. -/
def endsAuthority (kind : SchemeKind) (c : Char) : Bool :=
  kind.separates c || c = '?' || c = '#'

end SchemeKind

namespace Url

/-! ## Percent forms -/

/-- What may not stand for itself in a fragment. -/
def fragmentReserved : List Char := [' ', '"', '<', '>', '\x60']

/-- What may not stand for itself in a path. -/
def pathReserved : List Char := fragmentReserved ++ ['#', '?', '\x7b', '\x7d']

/-- What may not stand for itself in a query. -/
def queryReserved (kind : SchemeKind) : List Char :=
  [' ', '"', '#', '<', '>'] ++ if kind = .other then [] else ['\'']

/-- What may not stand for itself in the name or the password of a user. -/
def userReserved : List Char :=
  pathReserved ++ ['/', ':', ';', '=', '@', '[', '\\', ']', '^', '|']

/-! ## Segments -/

/-- Whether a segment means the folder itself. -/
def isDot (segment : List Char) : Bool :=
  String.ofList (segment.map Char.toLower) ∈ [".", "%2e"]

/-- Whether a segment means the folder above. -/
def isDotDot (segment : List Char) : Bool :=
  String.ofList (segment.map Char.toLower) ∈ ["..", ".%2e", "%2e.", "%2e%2e"]

/-- Whether a text is the letter of a drive. -/
def isDrive : List Char → Bool
  | [c, sign] => c.isAlpha && (sign = ':' || sign = '|')
  | _ => false

/-- The segments above some segments, last first. The drive of a file stays. -/
def above (kind : SchemeKind) : List (List Char) → List (List Char)
  | [] => []
  | [segment] => if kind = .file ∧ isDrive segment then [segment] else []
  | _ :: rest => rest

/-- The segments of a path, last first, without segments of points. One that stands at the end
leaves an empty segment. -/
def resolve (kind : SchemeKind) (done : List (List Char)) : List (List Char) → List (List Char)
  | [] => done
  | segment :: rest =>
    let done :=
      if isDotDot segment then (if rest = [] then [] :: above kind done else above kind done)
      else if isDot segment then (if rest = [] then [] :: done else done)
      else segment :: done
    resolve kind done rest

/-- The segments of the path of a file, with the sign of a drive that stands first made a colon. -/
def withDrive (kind : SchemeKind) : List (List Char) → List (List Char)
  | segment :: rest =>
    if kind = .file ∧ isDrive segment then (segment.take 1 ++ [':']) :: rest else segment :: rest
  | [] => []

/-- The segments of a path as it is written. -/
def segmentsOf (kind : SchemeKind) (path : List Char) : List (List Char) :=
  let segments := (path.map fun c => if kind.separates c then '/' else c).splitOn '/'
  match segments with
  | [] :: rest => rest
  | segments => segments

/-- A path in its normal form. In the path of a file no slashes stand together in front. -/
def pathText (kind : SchemeKind) (path : List Char) : List Char :=
  let segments := (resolve kind [] (withDrive kind (segmentsOf kind path))).reverse
  let segments := if kind = .file then segments.dropWhile (· = []) else segments
  if segments = [] then ['/']
  else segments.flatMap fun segment => '/' :: percentEncode pathReserved segment

/-! ## Query and fragment -/

/-- A text before the query and the fragment behind it, and those two. -/
def cutTail (cs : List Char) : List Char × List Char := cs.span fun c => !(c = '?' || c = '#')

/-- A query and a fragment, each with its sign, in their normal forms. -/
def tailText (kind : SchemeKind) (cs : List Char) : List Char :=
  let (query, fragment) := cs.span (· ≠ '#')
  let part (reserved : List Char) : List Char → List Char
    | [] => []
    | sign :: cs => sign :: percentEncode reserved cs
  part (queryReserved kind) query ++ part fragmentReserved fragment

end Url
end Whitelist
