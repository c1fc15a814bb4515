import Whitelist.Settings.Yaml.Cursor
import Whitelist.Text.Numeral

/-!
# Tags and directives in YAML

A tag says of what kind a value is: `!!str 5` is a text. Its handle stands for the start of a longer
name, which a directive in front of the document may set.

## What is here

* `Tag` — a handle and what follows it.
* `escapedChar?`, `uriText` — the characters of a tag.
* `tag?`, `anchorName?` — a tag, and the name of an anchor or of an alias.
* `Directive`, `directive?` — a directive.
-/

set_option autoImplicit false
namespace Whitelist.Yaml

/-- A tag as it is written. -/
structure Tag where
  handle : String
  suffix : String
  deriving DecidableEq, Repr

/-! ## Characters -/

/-- Whether a character may stand in a tag between angle brackets. -/
def isUriChar (c : Char) : Bool := c.isAlphanum || c ∈ "-#;/?:@&=+$,_.!~*'()[]%".toList

/-- Whether a character may stand in a tag. -/
def isTagChar (c : Char) : Bool := isUriChar c && !isFlow c && c ≠ '!'

/-- The length that the first byte of a character in UTF-8 tells. -/
def byteCount? (byte : Nat) : Option Nat :=
  if byte < 0x80 then some 1
  else if byte < 0xC0 then none
  else if byte < 0xE0 then some 2
  else if byte < 0xF0 then some 3
  else if byte < 0xF8 then some 4
  else none

/-- The byte that a percent sign and two digits write, and what follows. -/
def percentByte? : List Char → Option (Nat × List Char)
  | '%' :: a :: b :: cs => do return (16 * (← Text.hexValue? a) + (← Text.hexValue? b), cs)
  | _ => none

/-- So many bytes that go on a character, behind a number made of those before. -/
def moreBytes? (code : Nat) (cs : List Char) : Nat → Option (Nat × List Char)
  | 0 => some (code, cs)
  | n + 1 => do
    let (byte, rest) ← percentByte? cs
    if byte < 0x80 ∨ 0xC0 ≤ byte then none
    moreBytes? (code * 256 + byte) rest n

/-- The character that percent forms write. Its bytes are taken together as one number. -/
def escapedChar? (cs : List Char) : Option (Char × List Char) := do
  let (byte, rest) ← percentByte? cs
  let (code, rest) ← moreBytes? byte rest ((← byteCount? byte) - 1)
  if code.isValidChar then return (.ofNat code, rest) else none

/-- The characters of a kind that come next, percent forms resolved, and what follows them. -/
def uriText (kind : Char → Bool) (cs : List Char) : Option (List Char × List Char) :=
  match cs with
  | [] => some ([], [])
  | c :: more =>
    if !kind c then some ([], c :: more)
    else if c = '%' then do
      let (d, rest) ← escapedChar? (c :: more)
      if _h : rest.length < (c :: more).length then
        let (text, rest) ← uriText kind rest
        return (d :: text, rest)
      else none
    else do
      let (text, rest) ← uriText kind more
      return (c :: text, rest)
termination_by cs.length
decreasing_by all_goals (simp only [List.length_cons] at *; omega)

/-- The place at which so much of the line is left. -/
def Cursor.atRest (c : Cursor) (rest : List Char) : Cursor :=
  c.advance (c.text.length - rest.length)

/-! ## Tags -/

/-- A handle: an exclamation mark, and as the case may be a word and another mark. -/
def handle (cs : List Char) : Option (List Char × List Char) :=
  match cs with
  | '!' :: cs =>
    let (word, rest) := cs.span isWordChar
    match rest with
    | '!' :: rest => some ('!' :: word ++ ['!'], rest)
    | rest => some ('!' :: word, rest)
  | _ => none

/-- A tag in angle brackets, after the exclamation mark and the first bracket. -/
def verbatim? (cs : List Char) : Option (Tag × List Char) := do
  let (text, rest) ← uriText isUriChar cs
  match rest with
  | '>' :: rest => return (⟨"", .ofList text⟩, rest)
  | _ => none

/-- A tag with a handle. The first word of a tag without a second exclamation mark is no part of the
handle. A mark alone has no handle. -/
def shorthand? (cs : List Char) : Option (Tag × List Char) := do
  let (h, rest) ← handle cs
  let (text, rest) ← uriText isTagChar rest
  if 2 ≤ h.length ∧ h.getLast? = some '!' then
    if text = [] then none else return (⟨.ofList h, .ofList text⟩, rest)
  else
    let suffix := h.drop 1 ++ text
    return (if suffix = [] then ⟨"", "!"⟩ else ⟨"!", .ofList suffix⟩, rest)

/-- A tag and the place behind it. -/
def tag? (inFlow : Bool) (c : Cursor) : Option (Tag × Cursor) := do
  let (tag, rest) ← if c.ahead 1 = '<' then verbatim? (c.text.drop 2) else shorthand? c.text
  let d := c.atRest rest
  if endsWord d.head ∨ (inFlow ∧ isFlow d.head) then return (tag, d) else none

/-! ## Anchors -/

/-- Whether a character may stand in the name of an anchor. -/
def isAnchorChar (c : Char) : Bool := !endsWord c && c ≠ '\ufeff' && !isFlow c

/-- The name of an anchor or alias after its sign, and the place behind it. -/
def anchorName? (c : Cursor) : Option (String × Cursor) :=
  let name := (c.text.drop 1).takeWhile isAnchorChar
  if name = [] then none else some (.ofList name, c.advance (name.length + 1))

/-! ## Directives -/

/-- What a directive says. -/
inductive Directive where
  | version
  /-- What a handle stands for. One that is not known sets nothing but the empty handle. -/
  | tag (handle : String) (start : String)
  deriving DecidableEq, Repr

/-- A version: two numbers of at most nine digits with a point between them. -/
def versionTail? (cs : List Char) : Option (List Char) := do
  let (major, rest) := Text.digits (cs.dropWhile isBlank)
  match rest with
  | '.' :: rest =>
    let (minor, rest) := Text.digits rest
    let fits (ds : List Char) : Bool := 1 ≤ ds.length && ds.length ≤ 9
    if fits major && fits minor then return rest else none
  | _ => none

/-- A handle and what it stands for. -/
def tagTail? (cs : List Char) : Option (Directive × List Char) := do
  let (h, rest) ← handle (cs.dropWhile isBlank)
  if h ≠ ['!'] ∧ (h.length < 2 ∨ h.getLast? ≠ some '!') then none
  let rest := rest.dropWhile isBlank
  let isStart (c : Char) : Bool := c = '!' || isTagChar c
  if !isStart (rest.headD endMark) then none
  let (first, rest) := if rest.head? = some '!' then (['!'], rest.drop 1) else ([], rest)
  let (text, rest) ← uriText isUriChar rest
  if endsWord (rest.headD endMark) then return (.tag (.ofList h) (.ofList (first ++ text)), rest)
  else none

/-- A directive from its percent sign on, and the place on the next line. -/
def directive? (c : Cursor) : Option (Directive × Cursor) := do
  let (name, rest) := (c.text.drop 1).span isWordChar
  if name = [] ∨ !endsWord (rest.headD endMark) then none
  let (directive, rest) ←
    if name = "YAML".toList then (versionTail? rest).map fun rest => (Directive.version, rest)
    else if name = "TAG".toList then tagTail? rest
    else some (.tag "" "", rest.dropWhile fun d => !endsLine d)
  let d ← (c.atRest rest).behindPart?
  if endsLine d.head then return (directive, if isBreak d.head then d.newLine else d) else none

end Whitelist.Yaml
