import Whitelist.CommandLine.Switch
import Whitelist.Settings.Sources

/-!
# Commands

The first operand of a command line names a command; the words after it belong to the command,
except that the switches for settings may stand on either side of it.

## What is here

* `Verb`, `Verb.grammar` — the commands and the words that they take.
* `Draft`, `Command` — a command with everything that it was given.
* `settingSwitches`, `overrides` — the switches for settings.
* `Invocation`, `Invocation.ofWords` — a whole command line.
-/

set_option autoImplicit false
namespace Whitelist.CommandLine

/-! ## Grammar -/

/-- The name of a command. -/
inductive Verb where
  | groups
  | codes
  | detail
  | display
  | grab
  | release
  | enable
  | disable
  | delete
  | save
  | operators
  | actions
  deriving DecidableEq, Repr

namespace Verb

/-- The word for a command. -/
def name : Verb → String
  | groups => "groups"
  | codes => "codes"
  | detail => "detail"
  | display => "show"
  | grab => "grab"
  | release => "release"
  | enable => "enable"
  | disable => "disable"
  | delete => "delete"
  | save => "save"
  | operators => "operators"
  | actions => "actions"

/-- All commands, in the order in which they are listed. -/
def all : List Verb :=
  [groups, codes, detail, display, grab, release, enable, disable, delete, save, operators, actions]

/-- The command of this name. -/
def ofName? (s : String) : Option Verb := all.find? (·.name = s)

/-- What a command does, in a few words. -/
def about : Verb → String
  | groups => "One row per rule code, global scope first"
  | codes => "Rule codes available to the filter"
  | detail => "Records of one rule code"
  | display => "One record with its lock state"
  | grab => "Take the edit lock of a record"
  | release => "Give the edit lock back"
  | enable | disable => ""
  | delete => "Delete a record; cannot be undone"
  | save => "Create a record, or update one when --id is given"
  | operators => "Operators accepted in config items"
  | actions => "Check a saved subscription action list (JSON array)"

/-- The switches for a page. -/
def pageSwitches : List Switch :=
  [{ long := "page", valueName := some "PAGE", valueKind := .unsigned, fallback := some "1" },
    { long := "size", valueName := some "SIZE", valueKind := .unsigned }]

/-- The switches of a command. -/
def switches : Verb → List Switch
  | groups =>
    { long := "code", valueName := some "CODES", repeatable := true
      about := "Restrict to these rule codes (repeatable)" } :: pageSwitches
  | detail => { long := "name", valueName := some "NAME" } :: pageSwitches
  | save => [
    { long := "id", valueName := some "ID", valueKind := .signed },
    { long := "code", valueName := some "RULE_CODE", required := true },
    { long := "name", valueName := some "RULE_NAME", required := true },
    { long := "type", valueName := some "RULE_TYPE", valueKind := .oneOf (RuleType.all.map (·.name))
      fallback := some RuleType.ruleEngine.name },
    { long := "desc", valueName := some "RULE_DESC" },
    { long := "item", valueName := some "ITEMS", repeatable := true
      about := "Config item as key:OPERATOR:value (repeatable, ids follow the order given)" },
    { long := "condition", valueName := some "CONDITION"
      about := "Logic over item ids such as \"1 && 2\"; required with more than one item" },
    { long := "rego-file", valueName := some "REGO_FILE", valueKind := .path
      about := "Rego policy file, required for REGO rules" },
    { long := "disabled" }]
  | _ => []

/-- What the operand of a command is called and has to be, if it takes one. -/
def operand? : Verb → Option (String × ValueKind)
  | detail => some ("RULE_CODE", .text)
  | display | grab | release | enable | disable | delete => some ("ID", .signed)
  | actions => some ("FILE", .path)
  | groups | codes | save | operators => none

/-- What the operand of a command is called, if it takes one. -/
def operandName? (verb : Verb) : Option String := verb.operand?.map (·.1)

end Verb

/-- The switches for settings. -/
def settingSwitches : List Switch := [
  { long := "config", short := some 'c', valueName := some "CONFIG"
    about := "Configuration file (default: conf/console.yml, optional)" },
  { long := "mode", short := some 'm', valueName := some "MODE"
    about := "Store mode: remote or local" },
  { long := "server", valueName := some "SERVER", variableName := some "CLOUDREC_SERVER"
    about := "Comma separated server addresses for remote mode" },
  { long := "username", valueName := some "USERNAME", variableName := some "CLOUDREC_USERNAME" },
  { long := "password", valueName := some "PASSWORD", variableName := some "CLOUDREC_PASSWORD"
    secret := true },
  { long := "lock-policy", valueName := some "LOCK_POLICY"
    about := "Lock policy for local mode: grab or exclusive" },
  { long := "log-level", valueName := some "LOG_LEVEL" }]

/-- The words before a command. -/
def topGrammar : Grammar where
  switches := settingSwitches
  hasVersion := true
  hasCommand := true

/-- The words after a command. -/
def Verb.grammar (verb : Verb) : Grammar where
  switches := verb.switches ++ settingSwitches
  operands := (verb.operand?.map (·.2)).toList

/-! ## Commands -/

/-- What is given to save a rule. -/
structure Draft where
  id : Option Int64
  code : String
  name : String
  ruleType : RuleType
  description : Option String
  /-- Config items in their short form. -/
  items : List String
  condition : Option String
  policyFile : Option String
  disabled : Bool
  deriving DecidableEq, Repr

/-- A command with everything that it was given. -/
inductive Command where
  | groups (codes : List String) (page : UInt64) (size : Option UInt64)
  | codes
  | detail (code : String) (name : Option String) (page : UInt64) (size : Option UInt64)
  | display (id : Int64)
  | grab (id : Int64)
  | release (id : Int64)
  | enable (id : Int64)
  | disable (id : Int64)
  | delete (id : Int64)
  | save (draft : Draft)
  | operators
  | actions (file : String)
  deriving DecidableEq, Repr

/-- What has to be given. -/
def needed {α : Type} (value : Option α) : Except Stop α :=
  match value with
  | some a => .ok a
  | none => .error .usage

/-- The value of a switch that has one, read as what it has to be. -/
def Given.read {α : Type} (given : Given) (long : String) (read : String → Option α) :
    Except Stop α :=
  needed ((given.last? long).bind read)

/-- The value of a switch that may be left out, read as what it has to be. -/
def Given.read? {α : Type} (given : Given) (long : String) (read : String → Option α) :
    Except Stop (Option α) :=
  if given.has long then (given.read long read).map some else .ok none

/-- A rule type by its name. -/
def ruleType? (name : String) : Option RuleType := (RuleType.ofName name).toOption

/-- A whole number of 64 bits. -/
def signed? (text : String) : Option Int64 := Text.readInt64? text.toList

/-- A whole number of 64 bits without a minus sign. -/
def unsigned? (text : String) : Option UInt64 := Text.readUInt64? text.toList

/-- The draft of a rule from what is given. -/
def Draft.ofGiven (given : Given) : Except Stop Draft := do
  return {
    id := ← given.read? "id" signed?
    code := ← given.read "code" some
    name := ← given.read "name" some
    ruleType := ← given.read "type" ruleType?
    description := given.last? "desc"
    items := given.all "item"
    condition := given.last? "condition"
    policyFile := given.last? "rego-file"
    disabled := given.has "disabled" }

/-- A command from what is given after its name. -/
def Command.ofGiven (verb : Verb) (given : Given) : Except Stop Command := do
  let operand := needed given.operands.head?
  let id : Except Stop Int64 := do needed (signed? (← operand))
  let page := given.read "page" unsigned?
  let size := given.read? "size" unsigned?
  match verb with
  | .groups => return groups (given.all "code") (← page) (← size)
  | .codes => return codes
  | .detail => return detail (← operand) (given.last? "name") (← page) (← size)
  | .display => return display (← id)
  | .grab => return grab (← id)
  | .release => return release (← id)
  | .enable => return enable (← id)
  | .disable => return disable (← id)
  | .delete => return delete (← id)
  | .save => return save (← Draft.ofGiven given)
  | .operators => return operators
  | .actions => return actions (← operand)

/-! ## Whole command lines -/

/-- The value of a setting: what is given after the command, else what is given before it, else the
value of its variable. -/
def settingValue (environment : Environment) (before after : Given) (switch : Switch) :
    Option String :=
  (after.last? switch.long).orElse fun () =>
    (before.last? switch.long).orElse fun () =>
      switch.variableName.bind fun name => environment.lookup name

/-- The settings on a command line. -/
def overrides (environment : Environment) (before after : Given) : Overrides :=
  let value (long : String) : Option String :=
    (settingSwitches.find? (·.long = long)).bind (settingValue environment before after)
  { configFile := value "config"
    mode := value "mode"
    servers := value "server"
    username := value "username"
    password := value "password"
    lockPolicy := value "lock-policy"
    logLevel := value "log-level" }

/-- A command with the settings that are given beside it. -/
structure Invocation where
  overrides : Overrides
  command : Command
  deriving DecidableEq, Repr

/-- What help can be about. -/
inductive Topic where
  | program
  | command (verb : Verb)
  /-- Asking for help. -/
  | help
  deriving DecidableEq, Repr

/-- Why a command line is not carried out, and what help is wanted about. -/
structure Refusal where
  stop : Stop
  topic : Topic := .program
  deriving DecidableEq, Repr

/-- A stop as a refusal. -/
def refusedAt {α : Type} (topic : Topic) (result : Except Stop α) : Except Refusal α :=
  match result with
  | .ok a => .ok a
  | .error stop => .error ⟨stop, topic⟩

/-- The word that asks for help in place of a command. -/
def helpWord : String := "help"

/-- What a word after that one asks about. -/
def Topic.ofName? (name : String) : Option Topic :=
  if name = helpWord then some help else (Verb.ofName? name).map command

/-- The help that is asked for in place of a command. -/
def helpFor : List String → Refusal
  | [] => ⟨.help, .program⟩
  | [name] =>
    match Topic.ofName? name with
    | some topic => ⟨.help, topic⟩
    | none => { stop := .usage }
  | _ => { stop := .usage }

/-- A whole command line. -/
def Invocation.ofWords (environment : Environment) (words : List String) :
    Except Refusal Invocation := do
  let (before, rest) ← refusedAt .program (scan topGrammar {} words)
  match rest with
  | [] => throw { stop := .usage }
  | name :: words =>
    if name = helpWord then throw (helpFor words)
    match Verb.ofName? name with
    | none => throw { stop := .usage }
    | some verb => refusedAt (.command verb) do
      let (after, _) ← scan verb.grammar {} words
      let after ← after.completed verb.grammar.switches
      let command ← Command.ofGiven verb after
      return ⟨CommandLine.overrides environment before after, command⟩

end Whitelist.CommandLine
