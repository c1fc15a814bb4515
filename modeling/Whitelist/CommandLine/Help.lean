import Whitelist.CommandLine.Command

/-!
# Help

## What is here

* `programName`, `versionText` — what the program is called.
* `Help.program`, `Help.ofVerb`, `Help.ofHelp` — help for the program, for a command and for asking
  for help. The first two show the values of the variables that stand in for switches.
-/

set_option autoImplicit false
namespace Whitelist.CommandLine

/-- What the program is called. -/
def programName : String := "cloudrec-console"

/-- The program and its version. -/
def versionText : String := s!"{programName} 0.1.0\n"

namespace Help

/-- The text with blanks behind it up to a width. -/
def padded (width : Nat) (s : String) : String :=
  s ++ String.ofList (List.replicate (width - s.length) ' ')

/-- The text with every line but the first moved to the right. -/
def hanging (width : Nat) (s : String) : String :=
  ("\n" ++ padded width "").intercalate ((s.toList.splitOn '\n').map .ofList)

/-- Lines of two columns under a heading. What has several lines stays in its column. -/
def columns (heading : String) (rows : List (String × String)) : String :=
  let width := (rows.map (·.1.length)).foldl max 0
  let line (left right : String) : String :=
    "  " ++ padded width left ++ "  " ++ hanging (width + 4) right ++ "\n"
  heading ++ ":\n" ++ String.join (rows.map fun (left, right) => line left right)

/-- The value of a switch as it is given. -/
def valueText (switch : Switch) : String := (switch.valueName.map fun name => s!" <{name}>").getD ""

/-- A switch as it is given, room left for the letter that it may have. -/
def switchText (switch : Switch) : String :=
  (switch.short.map fun c => s!"-{c}, ").getD "    " ++ s!"--{switch.long}" ++ valueText switch

/-- The variable that may stand in for a switch, with its value unless that is secret. -/
def variableText (environment : Environment) (switch : Switch) : Option String :=
  switch.variableName.map fun name =>
    let value := if switch.secret then "" else "=" ++ (environment.lookup name).getD ""
    s!"[env: {name}{value}]"

/-- The value that a switch has where it is not given. -/
def fallbackText (switch : Switch) : Option String :=
  switch.fallback.map fun value => s!"[default: {value}]"

/-- What a switch does. -/
def switchAbout (environment : Environment) (switch : Switch) : String :=
  let notes := [variableText environment switch, fallbackText switch].filterMap fun note => note
  " ".intercalate ((if switch.about = "" then [] else [switch.about]) ++ notes)

/-- What switches at one place of their tables are ordered by. -/
def orderKey (switch : Switch) : String :=
  match switch.short with
  | some c => c.toString ++ "0"
  | none => switch.long

/-- Switches of several tables: first all that stand first in theirs, then all that stand second,
and so on. -/
def interleaved (tables : List (List Switch)) : List Switch :=
  let placed := tables.flatMap List.zipIdx
  (placed.mergeSort fun (a, i) (b, j) => i < j || (i = j && orderKey a ≤ orderKey b)).map (·.1)

/-- The rows for switches, the one for help behind them. -/
def switchRows (environment : Environment) (switches : List Switch) : List (String × String) :=
  switches.map (fun switch => (switchText switch, switchAbout environment switch))
    ++ [("-h, --help", "Print help")]

/-- What asking for help does. -/
def helpAbout : String := "Print this message or the help of the given subcommand(s)"

/-- Help for the program. -/
def program (environment : Environment) : String :=
  "Manage CloudRec whited rules\n\n"
    ++ s!"Usage: {programName} [OPTIONS] <COMMAND>\n\n"
    ++ columns "Commands" (Verb.all.map (fun verb => (verb.name, verb.about))
        ++ [(helpWord, helpAbout)])
    ++ "\n"
    ++ columns "Options"
        (switchRows environment settingSwitches ++ [("-V, --version", "Print version")])

/-- How a command is used. -/
def usage (verb : Verb) : String :=
  let needed := (verb.switches.filter (·.required)).map fun switch =>
    s!" --{switch.long}" ++ valueText switch
  s!"Usage: {programName} {verb.name} [OPTIONS]" ++ String.join needed
    ++ (verb.operandName?.map fun name => s!" <{name}>").getD ""

/-- Help for a command. -/
def ofVerb (environment : Environment) (verb : Verb) : String :=
  (if verb.about = "" then "" else verb.about ++ "\n\n")
    ++ usage verb ++ "\n\n"
    ++ (verb.operandName?.map fun name => columns "Arguments" [(s!"<{name}>", "")] ++ "\n").getD ""
    ++ columns "Options" (switchRows environment (interleaved [verb.switches, settingSwitches]))

/-- Help for asking for help. -/
def ofHelp : String :=
  helpAbout ++ "\n\n"
    ++ s!"Usage: {programName} {helpWord} [COMMAND]...\n\n"
    ++ columns "Arguments" [("[COMMAND]...", "Print help for the subcommand(s)")]

/-- Help about a topic. -/
def text (environment : Environment) : Topic → String
  | .program => program environment
  | .command verb => ofVerb environment verb
  | .help => ofHelp

end Help
end Whitelist.CommandLine
