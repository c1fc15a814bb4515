import Whitelist.Rest
import Whitelist.Settings.Yaml.Token
import Whitelist.Settings.Yaml.Value

/-!
# YAML documents

The tokens of a text make up documents, each with one value. An anchor gives a value a name, and an
alias stands for the value of that name.

## What is here

* `Names` — the anchors and tag handles of a document.
* `properties` — what stands in front of a value.
* `node` — one value.
* `blockItems`, `looseItems`, `blockParts`, `flowItems`, `flowPair`, `flowParts` — the parts of
  lists and mappings.
* `document?` — the value of the only document.
-/

set_option autoImplicit false
namespace Whitelist.Yaml

/-! ## Names -/

/-- The anchors and tag handles of a document. -/
structure Names where
  /-- What tag handles stand for. -/
  handles : List (String × String) := []
  /-- The number of the last anchor of each name, last first. -/
  anchors : List (String × Nat) := []
  /-- The values of anchors by their numbers. -/
  values : List (Nat × Value) := []

namespace Names

/-- The names with one more anchor, whose value is not known yet. -/
def addAnchor (names : Names) (name : String) : Names × Nat :=
  let number := names.anchors.length + 1
  ({ names with anchors := (name, number) :: names.anchors }, number)

/-- The names with the value of an anchor. -/
def setValue (names : Names) (anchor : Option Nat) (value : Value) : Names :=
  match anchor with
  | some number => { names with values := (number, value) :: names.values }
  | none => names

/-- The value that an alias stands for. Inside of the value itself it stands for nothing. -/
def aliased? (names : Names) (name : String) : Option Value :=
  (names.anchors.lookup name).map fun number => (names.values.lookup number).getD .bad

/-- What the handle of a tag stands for. A handle with a word has to be set. -/
def handle? (names : Names) (tag : Tag) : Option String :=
  match names.handles.lookup tag.handle with
  | some start => some start
  | none =>
    if tag.handle = "!!" then some Value.usualTags
    else if tag.handle.length ≥ 2 then none
    else some tag.handle

end Names

/-! ## Properties -/

/-- What stands in front of a value. -/
structure Properties where
  anchor : Option Nat := none
  /-- The start and the suffix of the tag. -/
  tag : Option (String × String) := none
  deriving DecidableEq, Repr

/-- Whether anything stands in front. -/
def Properties.isEmpty (properties : Properties) : Bool :=
  properties.anchor.isNone && properties.tag.isNone

/-- An anchor and a tag in either order, each of which may be left out, and what follows them. -/
def properties (names : Names) (tokens : List Token) : Option (Properties × Names × List Token) :=
  let tagged (tag : Tag) : Option (String × String) :=
    (names.handle? tag).map fun start => (start, tag.suffix)
  match tokens with
  | .anchor name _ :: .tag tag _ :: rest | .tag tag _ :: .anchor name _ :: rest => do
    let tag ← tagged tag
    let (names, number) := names.addAnchor name
    return (⟨number, tag⟩, names, rest)
  | .anchor name _ :: rest =>
    let (names, number) := names.addAnchor name
    some (⟨number, none⟩, names, rest)
  | .tag tag _ :: rest => do return (⟨none, ← tagged tag⟩, names, rest)
  | tokens => some ({}, names, tokens)

/-- The value of a text with what stands in front of it. -/
def textValue (properties : Properties) (isPlain : Bool) (text : String) : Value :=
  if isPlain then
    match properties.tag with
    | some (start, suffix) => .ofTagged start suffix text
    | none => .ofPlain text
  else .text text

/-! ## Where parts are left out -/

/-- Whether a name or a value in a block is left out before these tokens. -/
def endsBlockPart (tokens : List Token) : Bool :=
  tokens.head?.all (· ∈ [.key, .value, .blockEnd])

/-- Whether an item in a block is left out before these tokens. -/
def endsItem (tokens : List Token) : Bool := tokens.head?.all (· ∈ [.item, .blockEnd])

/-- Whether an item of a list that is not indented is left out before these tokens. -/
def endsLooseItem (tokens : List Token) : Bool :=
  tokens.head?.all (· ∈ [.item, .key, .value, .blockEnd])

/-- Whether a name in braces is left out before these tokens. -/
def endsFlowName (tokens : List Token) : Bool :=
  tokens.head?.all (· ∈ [.value, .comma, .flowMappingEnd])

/-- Whether a value in braces is left out before these tokens. -/
def endsFlowValue (tokens : List Token) : Bool :=
  tokens.head?.all (· ∈ [.comma, .flowMappingEnd])

/-- Whether the value of a pair in a list in brackets is left out before these tokens. -/
def endsPair (tokens : List Token) : Bool := tokens.head?.all (· ∈ [.comma, .flowListEnd])

/-! ## Values -/

/-- A part of a document: something read, the names after it, and the tokens that follow. -/
abbrev Part (α : Type) : Type := α × Names × List Token

mutual

/-- One value. Blocks are allowed only outside of brackets, and a list that is no deeper than its
surroundings only as the name or value of a mapping. -/
def node (block loose : Bool) (names : Names) (tokens : List Token) : Option (Part Value) :=
  match tokens with
  | .alias name :: rest => (names.aliased? name).map fun value => (value, names, rest)
  | tokens => do
    let (before, names, rest) ← properties names tokens
    let named (part : Option (Part Value)) : Option (Part Value) :=
      part.map fun (value, names, rest) => (value, names.setValue before.anchor value, rest)
    match rest with
    | .text isPlain text :: rest => named (some (textValue before isPlain text, names, rest))
    | token :: inner =>
      if token = .item ∧ loose then
        let ⟨inner, _h⟩ ← Rest.of? inner tokens
        named ((looseItems names inner).map fun (items, rest) => (.list items, rest))
      else if token = .flowListStart then
        let ⟨inner, _h⟩ ← Rest.of? inner tokens
        named ((flowItems true names inner).map fun (items, rest) => (.list items, rest))
      else if token = .flowMappingStart then
        let ⟨inner, _h⟩ ← Rest.of? inner tokens
        let (parts, rest) ← flowParts true names inner
        named ((Value.mapping? parts).map fun value => (value, rest))
      else if token = .listStart ∧ block then
        let ⟨inner, _h⟩ ← Rest.of? inner tokens
        named ((blockItems names inner).map fun (items, rest) => (.list items, rest))
      else if token = .mappingStart ∧ block then
        let ⟨inner, _h⟩ ← Rest.of? inner tokens
        let (parts, rest) ← blockParts names inner
        named ((Value.mapping? parts).map fun value => (value, rest))
      else if before.isEmpty then none
      else named (some (textValue before true "", names, token :: inner))
    | [] => if before.isEmpty then none else named (some (textValue before true "", names, []))
termination_by 2 * tokens.length

/-- The items of an indented list. -/
def blockItems (names : Names) (tokens : List Token) : Option (Part (List Value)) :=
  match tokens with
  | .blockEnd :: rest => some ([], names, rest)
  | .item :: inner => do
    let (item, names, rest) ← if endsItem inner then some (.null, names, inner)
      else node true false names inner
    let ⟨rest, _h⟩ ← Rest.of? rest (.item :: inner)
    let (items, names, rest) ← blockItems names rest
    return (item :: items, names, rest)
  | _ => none
termination_by 2 * tokens.length + 1
decreasing_by all_goals (simp only [List.length_cons] at *; omega)

/-- The items of a list that is no deeper than its surroundings, after the first dash. -/
def looseItems (names : Names) (tokens : List Token) : Option (Part (List Value)) := do
  let (item, names, rest) ← if endsLooseItem tokens then some (.null, names, tokens)
    else node true false names tokens
  match rest with
  | .item :: rest =>
    let ⟨rest, _h⟩ ← Rest.of? rest tokens
    let (items, names, rest) ← looseItems names rest
    return (item :: items, names, rest)
  | rest => return ([item], names, rest)
termination_by 2 * tokens.length + 1

/-- The names and values of an indented mapping in turn. Either may be left out. -/
def blockParts (names : Names) (tokens : List Token) : Option (Part (List Value)) := do
  match tokens with
  | [] => none
  | .blockEnd :: rest => return ([], names, rest)
  | token :: inner =>
    let (name, names, afterName) ←
      if token = .value then some (.null, names, token :: inner)
      else if token ≠ .key then none
      else if endsBlockPart inner then some (.null, names, inner)
      else node true true names inner
    let (value, names, afterValue) ←
      match afterName with
      | .value :: rest =>
        if endsBlockPart rest then some (.null, names, rest)
        else do
          let ⟨rest, _h⟩ ← Rest.of? rest (token :: inner)
          node true true names rest
      | rest => some (.null, names, rest)
    let ⟨rest, _h⟩ ← Rest.of? afterValue (token :: inner)
    let (parts, names, rest) ← blockParts names rest
    return (name :: value :: parts, names, rest)
termination_by 2 * tokens.length + 1
decreasing_by all_goals (simp only [List.length_cons] at *; omega)

/-- The items of a list in brackets; a comma stands before each but the first. -/
def flowItems (isFirst : Bool) (names : Names) (tokens : List Token) :
    Option (Part (List Value)) := do
  let start ← match isFirst, tokens with
    | true, tokens => some tokens
    | false, .comma :: rest => some rest
    | false, .flowListEnd :: rest => some (.flowListEnd :: rest)
    | false, _ => none
  match start with
  | .flowListEnd :: rest => return ([], names, rest)
  | .key :: inner =>
    let ⟨inner, _h⟩ ← Rest.of? inner tokens
    let (item, names, rest) ← flowPair names inner
    let ⟨rest, _h⟩ ← Rest.of? rest tokens
    let (items, names, rest) ← flowItems false names rest
    return (item :: items, names, rest)
  | start =>
    if _h : start.length ≤ tokens.length then
      let (item, names, rest) ← node false false names start
      let ⟨rest, _h⟩ ← Rest.of? rest tokens
      let (items, names, rest) ← flowItems false names rest
      return (item :: items, names, rest)
    else none
termination_by 2 * tokens.length + 1

/-- A mapping of one name, as an item of a list in brackets, after the mark of the name. Behind a
name that is left out, the sign that comes next is passed over. -/
def flowPair (names : Names) (tokens : List Token) : Option (Part Value) := do
  let (name, names, afterName) ←
    if endsFlowName tokens ∨ endsPair tokens then some (.null, names, tokens.drop 1)
    else node false false names tokens
  let (value, names, rest) ←
    match afterName with
    | .value :: rest =>
      if endsPair rest then some (.null, names, rest)
      else do
        let ⟨rest, _h⟩ ← Rest.of? rest tokens
        node false false names rest
    | rest => some (.null, names, rest)
  return (← Value.mapping? [name, value], names, rest)
termination_by 2 * tokens.length + 1

/-- The names and values of a mapping in braces in turn; a comma stands before each name but the
first. -/
def flowParts (isFirst : Bool) (names : Names) (tokens : List Token) :
    Option (Part (List Value)) := do
  let start ← match isFirst, tokens with
    | true, tokens => some tokens
    | false, .comma :: rest => some rest
    | false, .flowMappingEnd :: rest => some (.flowMappingEnd :: rest)
    | false, _ => none
  match start with
  | .flowMappingEnd :: rest => return ([], names, rest)
  | start =>
    if _h : start.length ≤ tokens.length then
      let (name, names, afterName) ←
        match start with
        | .key :: rest =>
          if endsFlowName rest then some (.null, names, rest)
          else do
            let ⟨rest, _h⟩ ← Rest.of? rest tokens
            node false false names rest
        | .value :: rest => some (.null, names, .value :: rest)
        | _ => node false false names start
      let (value, names, rest) ←
        match afterName with
        | .value :: rest =>
          if endsFlowValue rest then some (.null, names, rest)
          else do
            let ⟨rest, _h⟩ ← Rest.of? rest tokens
            node false false names rest
        | rest => some (.null, names, rest)
      let ⟨rest, _h⟩ ← Rest.of? rest tokens
      let (parts, names, rest) ← flowParts false names rest
      return (name :: value :: parts, names, rest)
    else none
termination_by 2 * tokens.length + 1

end

/-! ## Documents -/

/-- The tag handles that directives set; only those of the last one count. -/
def handlesOf (directives : List Directive) : List (String × String) :=
  match directives.getLast? with
  | some (.tag handle start) => [(handle, start)]
  | _ => []

/-- The directives in front of a document, and the tokens behind them. -/
def directives : List Token → List Directive × List Token
  | .directive d :: rest =>
    let (ds, rest) := directives rest
    (d :: ds, rest)
  | tokens => ([], tokens)

/-- The tokens of a document behind its start, with its tag handles. Behind directives a document
has to have a start; there can be one version. -/
def opened? (tokens : List Token) : Option (List (String × String) × List Token) :=
  match directives tokens with
  | ([], .documentStart :: rest) => some ([], rest)
  | ([], rest) => some ([], rest)
  | (ds, .documentStart :: rest) =>
    if 1 < ds.count .version then none else some (handlesOf ds, rest)
  | _ => none

/-- The tokens without the ends of documents in front. -/
def withoutEnds (tokens : List Token) : List Token := tokens.dropWhile (· = .documentEnd)

/-- The value of the only document in a text, or none where there is no document. The outer option
tells whether the text can be read. -/
def document? (text : List Char) : Option (Option Value) := do
  let tokens := withoutEnds (← tokens? text)
  if tokens.isEmpty then return none
  let (handles, body) ← opened? tokens
  let (value, _, rest) ← node true false { handles } body
  if (withoutEnds rest).isEmpty then return some value else none

end Whitelist.Yaml
