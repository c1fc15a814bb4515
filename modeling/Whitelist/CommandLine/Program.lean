import Whitelist.CommandLine.Help
import Whitelist.CommandLine.Run
import Whitelist.Remote.Store

/-!
# The program

A command line is read, the settings are loaded, a store is opened, and the command is run on it.

## What is here

* `Exit` — what the program leaves behind.
* `openLocal`, `openRemote` — the two kinds of stores.
* `program` — the whole program, given the network, the environment and the files.
* `filesNamed` — the files that a command line may need.
-/

set_option autoImplicit false
namespace Whitelist.CommandLine

variable {τ : Type}

/-- What the program leaves behind. -/
structure Exit where
  status : UInt32 := 0
  output : String := ""
  errors : String := ""
  deriving DecidableEq, Repr

namespace Exit

/-- The lines, each with its end. -/
def linesText (lines : List String) : String := String.join (lines.map (· ++ "\n"))

/-- The report of an error at the end of a run. -/
def errorText (message : String) : String := s!"Error: {message}\n"

/-- What is printed before the error where the record should be listed again. -/
def hint : String := "hint: the record changed, list it again before retrying\n"

/-- A run that never began. -/
def failure (message : String) : Exit := { status := 1, errors := errorText message }

/-- What the report of a run leaves behind. -/
def ofReport (report : Report) : Exit :=
  let output := linesText report.lines
  match report.error with
  | none => { output }
  | some e =>
    { status := 1, output
      errors := (if e.needsRefresh then hint else "") ++ errorText e.message }

/-- What a command line leaves behind that is not carried out. -/
def ofRefusal (environment : Environment) (refusal : Refusal) : Exit :=
  match refusal.stop with
  | .usage => { status := 2, errors := s!"error: wrong command line, try '{programName} --help'\n" }
  | .version => { output := versionText }
  | .help => { output := Help.text environment refusal.topic }

end Exit

/-! ## Stores -/

/-- A command over the in-process store. -/
def runLocal (settings : Settings) (files : Files) (command : Command) (order : LineOrder) :
    Exit :=
  match settings.leases with
  | .error fault => .failure fault.message
  | .ok leases =>
    let start : MemoryStore := { leases, lineOrder := order }
    let store := MemoryStore.session settings.caller
    .ofReport ((command.run store settings.pageSize files order).run start).1

/-- A command over the store of a server, and the network after it. -/
def runRemote (transport : Transport τ) (network : τ) (settings : Settings) (files : Files)
    (command : Command) (order : LineOrder) : Exit × τ :=
  match Client.connectAndLogin settings.client transport network with
  | .error e => (.failure e.message, network)
  | .ok link =>
    let store := Remote.store settings.client transport
    let (report, link) := (command.run store settings.pageSize files order).run link
    (.ofReport report, link.network)

/-! ## The program -/

/-- The program: what a command line leaves behind, and the network after it. A form that is refused
has its fields named in some order. -/
def program (transport : Transport τ) (network : τ) (environment : Environment) (files : Files)
    (words : List String) (order : LineOrder := .codeFirst) : Exit × τ :=
  match Invocation.ofWords environment words with
  | .error refusal => (.ofRefusal environment refusal, network)
  | .ok invocation =>
    match Settings.load invocation.overrides environment files with
    | .error e => (.failure e.message, network)
    | .ok settings =>
      let command := invocation.command
      if settings.isRemote then runRemote transport network settings files command order
      else (runLocal settings files command order, network)

/-- The files that a command reads. -/
def Command.filesNamed : Command → List String
  | save draft => draft.policyFile.toList
  | actions path => [path]
  | _ => []

/-- The files that a command line may need. -/
def filesNamed (environment : Environment) (words : List String) : List String :=
  match Invocation.ofWords environment words with
  | .ok invocation =>
    Settings.filesNamed invocation.overrides.configFile ++ invocation.command.filesNamed
  | .error _ => []

end Whitelist.CommandLine
