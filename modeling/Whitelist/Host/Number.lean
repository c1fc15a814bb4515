import Whitelist.Text.Numeral

/-!
# Numbers of hosts

A host may be given by a number in place of a name: one of 32 bits, in up to four parts with points
between them, or one of 128 bits, in parts of 16 bits with colons between them, between brackets.

## What is here

* `Host.endsInNumber`, `Host.dotted?` — hosts that are meant as numbers of 32 bits.
* `Host.groups?`, `Host.bracketed?` — numbers of 128 bits.
-/

set_option autoImplicit false
namespace Whitelist.Host

/-! ## Numbers of 32 bits -/

/-- A part of a number: hexadecimal after `0x`, octal after `0`, decimal otherwise. -/
def part? (cs : List Char) : Option Nat :=
  match cs with
  | '0' :: 'x' :: digits => if digits = [] then some 0 else Text.readBase? 16 digits
  | '0' :: d :: digits => Text.readBase? 8 (d :: digits)
  | digits => Text.readBase? 10 digits

/-- The parts of a host, without an empty one at the end. -/
def partsOf (host : List Char) : List (List Char) :=
  let parts := host.splitOn '.'
  if parts.length > 1 ∧ parts.getLast? = some [] then parts.dropLast else parts

/-- Whether a host in lower case is meant as a number, which its last part decides. -/
def endsInNumber (host : List Char) : Bool :=
  (partsOf host).getLast?.any fun last =>
    (last ≠ [] && last.all Char.isDigit) || (part? last).isSome

/-- The bytes of a number of so many bytes, highest first. -/
def bytesOf (count n : Nat) : List Nat :=
  (List.range count).reverse.map fun i => n / Nat.pow 256 i % 256

/-- A host that is meant as a number, as four bytes with points between them. -/
def dotted? (host : List Char) : Option (List Char) := do
  let parts ← (partsOf host).mapM part?
  let last ← parts.getLast?
  let front := parts.dropLast
  if front.length > 3 ∨ front.any (· > 255) ∨ last ≥ Nat.pow 256 (4 - front.length) then none
  let value := front.zipIdx.foldl (fun value (n, i) => value + n * Nat.pow 256 (3 - i)) last
  return ['.'].intercalate ((bytesOf 4 value).map (Nat.toDigits 10))

/-! ## Numbers of 128 bits -/

/-- The texts before and after the first two colons that stand together. -/
def cutGap : List Char → Option (List Char × List Char)
  | ':' :: ':' :: rest => some ([], rest)
  | c :: rest => (cutGap rest).map fun (before, after) => (c :: before, after)
  | [] => none

/-- A byte in decimal digits without leading zeros. -/
def byte? (cs : List Char) : Option Nat :=
  if cs.length > 1 ∧ cs.head? = some '0' then none
  else (Text.readNat? cs).filter (· < 256)

/-- Four bytes with points between them, as two groups of 16 bits. -/
def twoGroups? (cs : List Char) : Option (List Nat) := do
  match ← (cs.splitOn '.').mapM byte? with
  | [a, b, c, d] => return [256 * a + b, 256 * c + d]
  | _ => none

/-- A group of 16 bits. -/
def group? (cs : List Char) : Option Nat :=
  if cs.length > 4 then none else Text.readBase? 16 cs

/-- Groups with colons between them. At the very end of the number four bytes may stand for two
groups. -/
def groups? (atEnd : Bool) (cs : List Char) : Option (List Nat) :=
  if cs = [] then some []
  else do
    let texts := cs.splitOn ':'
    let last ← texts.getLast?
    let front ← texts.dropLast.mapM group?
    let back ← if atEnd && '.' ∈ last then twoGroups? last else (group? last).map ([·])
    return front ++ back

/-- The eight groups of a number. Two colons together stand for groups of zero. -/
def allGroups? (cs : List Char) : Option (List Nat) := do
  match cutGap cs with
  | some (before, after) =>
    let before ← groups? false before
    let after ← groups? true after
    let count := before.length + after.length
    if count > 7 then none
    return before ++ List.replicate (8 - count) 0 ++ after
  | none =>
    let groups ← groups? true cs
    if groups.length = 8 then return groups else none

/-- The number of zeros that a list starts with. -/
def zeros (groups : List Nat) : Nat := (groups.takeWhile (· = 0)).length

/-- The place and the length of the longest run of zeros; the first of those counts. -/
def longestRun (groups : List Nat) : Nat × Nat :=
  (List.range groups.length).foldl (fun (start, length) i =>
    if length < zeros (groups.drop i) then (i, zeros (groups.drop i)) else (start, length)) (0, 0)

/-- Groups with colons between them. -/
def groupsText (groups : List Nat) : List Char :=
  [':'].intercalate (groups.map (Nat.toDigits 16))

/-- A number between brackets, with its longest run of two or more zeros left out. -/
def bracketed (groups : List Nat) : List Char :=
  let (start, length) := longestRun groups
  let text :=
    if length < 2 then groupsText groups
    else groupsText (groups.take start) ++ [':', ':'] ++ groupsText (groups.drop (start + length))
  '[' :: text ++ [']']

/-- A number between brackets in its normal form; what is given stands behind the first bracket. -/
def bracketed? (cs : List Char) : Option (List Char) :=
  match cs.reverse with
  | ']' :: text => (allGroups? text.reverse).map bracketed
  | _ => none

end Whitelist.Host
