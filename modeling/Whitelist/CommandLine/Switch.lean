import Whitelist.Number.Word
import Whitelist.Text.Cut
import Whitelist.Text.Numeral

/-!
# Switches and operands

A command line is a list of words. Words that start with a dash are switches, some of which take a
value, in the same word or in the next; the others are operands. After a word of two dashes all
words are operands.

## What is here

* `ValueKind`, `Switch` — a switch that may be given, and what its value has to be.
* `Stop` — why a command line is not carried out.
* `Given`, `scan` — the switches and operands of a command line.
* `Given.last?`, `Given.all` — the values of a switch.
* `Given.completed` — the values of the switches that are not given.
-/

set_option autoImplicit false
namespace Whitelist.CommandLine

/-- What a value has to be. -/
inductive ValueKind where
  | text
  /-- A text that is not empty. -/
  | path
  /-- A whole number of 64 bits. -/
  | signed
  /-- A whole number of 64 bits without a minus sign. -/
  | unsigned
  | oneOf (names : List String)
  deriving DecidableEq, Repr

/-- Whether a value is what it has to be. -/
def ValueKind.accepts (kind : ValueKind) (value : String) : Bool :=
  match kind with
  | text => true
  | path => value ≠ ""
  | signed => (Text.readInt64? value.toList).isSome
  | unsigned => (Text.readUInt64? value.toList).isSome
  | oneOf names => value ∈ names

/-- A switch that may be given. -/
structure Switch where
  /-- The name that stands after two dashes. -/
  long : String
  /-- The letter that stands after one dash. -/
  short : Option Char := none
  /-- What its value is called; without a value it is just given or not. -/
  valueName : Option String := none
  valueKind : ValueKind := .text
  /-- Whether it may be given several times. -/
  repeatable : Bool := false
  /-- Whether it has to be given. -/
  required : Bool := false
  /-- The value that it has where it is not given. -/
  fallback : Option String := none
  /-- The variable that gives its value where it is not given itself. -/
  variableName : Option String := none
  /-- Whether the value of that variable is not to be shown. -/
  secret : Bool := false
  about : String := ""
  deriving DecidableEq, Repr

/-- Why a command line is not carried out. -/
inductive Stop where
  /-- It is wrong. -/
  | usage
  /-- It asks for the version. -/
  | version
  /-- It asks for help. -/
  | help
  deriving DecidableEq, Repr

/-- The switches and operands of a command line. -/
structure Given where
  /-- Switches with their values, in order. -/
  switches : List (String × String) := []
  operands : List String := []
  deriving DecidableEq, Repr

namespace Given

/-- The values of a switch, in order. -/
def all (given : Given) (long : String) : List String :=
  (given.switches.filter (·.1 = long)).map (·.2)

/-- The value of a switch. -/
def last? (given : Given) (long : String) : Option String := (given.all long).getLast?

/-- Whether a switch is given. -/
def has (given : Given) (long : String) : Bool := !(given.all long).isEmpty

/-- One switch more, unless its value is wrong, or it is given already and may not be given
again. -/
def addSwitch (given : Given) (switch : Switch) (value : String) : Except Stop Given :=
  if !switch.valueKind.accepts value then .error .usage
  else if given.has switch.long && !switch.repeatable then .error .usage
  else .ok { given with switches := given.switches ++ [(switch.long, value)] }

/-- What is given together with the values of switches that are not, unless one of those has to be
given. -/
def completed (given : Given) (switches : List Switch) : Except Stop Given :=
  let missing := switches.filter fun switch => !given.has switch.long
  if missing.any (·.required) then .error .usage
  else
    let fallbacks := missing.filterMap fun switch =>
      switch.fallback.map fun value => (switch.long, value)
    .ok { given with switches := given.switches ++ fallbacks }

/-- One operand more. -/
def addOperand (given : Given) (operand : String) : Given :=
  { given with operands := given.operands ++ [operand] }

end Given

/-- Which words a command line may hold. -/
structure Grammar where
  switches : List Switch
  /-- What the operands have to be. -/
  operands : List ValueKind := []
  /-- Whether it may ask for the version. -/
  hasVersion : Bool := false
  /-- Whether the first operand is a command with words of its own. -/
  hasCommand : Bool := false

/-- A word of a command line. -/
inductive Word where
  /-- A switch by its name or its letter, with the value in the same word. -/
  | long (name : String) (value : Option String)
  | short (letter : Char) (value : Option String)
  | operand (text : String)
  /-- The word of two dashes. -/
  | separator
  deriving DecidableEq, Repr

/-- What a word is. A dash alone is an operand. -/
def Word.ofText (text : String) : Word :=
  match text.toList with
  | ['-', '-'] => separator
  | '-' :: '-' :: cs =>
    match Text.cut '=' cs with
    | some (name, value) => long (.ofList name) (some (.ofList value))
    | none => long (.ofList cs) none
  | ['-', c] => short c none
  | '-' :: c :: '=' :: cs => short c (some (.ofList cs))
  | '-' :: c :: cs => short c (some (.ofList cs))
  | _ => operand text

/-- The switch that a word names. -/
def Grammar.switch? (grammar : Grammar) : Word → Option Switch
  | .long name _ => grammar.switches.find? (·.long = name)
  | .short letter _ => grammar.switches.find? (·.short = some letter)
  | _ => none

/-- The value in the word of a switch. -/
def Word.value? : Word → Option String
  | long _ value | short _ value => value
  | _ => none

/-- What a word asks for instead of a command. -/
def Grammar.stop? (grammar : Grammar) : Word → Option Stop
  | .long "help" none | .short 'h' _ => some .help
  | .long "version" none | .short 'V' _ => if grammar.hasVersion then some .version else none
  | _ => none

/-- One operand more, if there may be one more like this. -/
def Grammar.addOperand (grammar : Grammar) (given : Given) (text : String) : Except Stop Given :=
  match grammar.operands[given.operands.length]? with
  | some kind => if kind.accepts text then .ok (given.addOperand text) else .error .usage
  | none => .error .usage

/-- Whether a word can be the value of the switch before it. -/
def isValue (text : String) : Bool :=
  match Word.ofText text with
  | .operand _ => true
  | _ => false

/-- The switches and operands of a command line, and the words of its command. -/
def scan (grammar : Grammar) (given : Given) : List String → Except Stop (Given × List String)
  | [] => .ok (given, [])
  | text :: rest =>
    match Word.ofText text with
    | .separator => do
      if grammar.hasCommand then throw .usage
      let given ← rest.foldlM grammar.addOperand given
      return (given, [])
    | .operand text =>
      if grammar.hasCommand then .ok (given, text :: rest)
      else do scan grammar (← grammar.addOperand given text) rest
    | word =>
      match grammar.stop? word, grammar.switch? word with
      | some stop, _ => .error stop
      | none, none => .error .usage
      | none, some switch =>
        match switch.valueName, word.value?, rest with
        | none, none, rest => do scan grammar (← given.addSwitch switch "") rest
        | none, some _, _ => .error .usage
        | some _, some value, rest => do scan grammar (← given.addSwitch switch value) rest
        | some _, none, value :: rest => do
          if !isValue value then throw .usage
          scan grammar (← given.addSwitch switch value) rest
        | some _, none, [] => .error .usage

end Whitelist.CommandLine
