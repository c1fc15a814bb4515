import Whitelist.Settings.Tree
import Whitelist.Text.Cut

/-!
# Settings from the environment

An environment variable whose name starts with `CLOUDREC.` is a setting: the rest of its name is the
name of the setting, in letters of either case. Its value is taken for a switch or a number where it
is written like one.

## What is here

* `Environment` — names and values.
* `Setting.ofVariable` — the value of a variable.
* `Environment.layer` — the settings among the variables.
* `Environment.variableOf` — the variable of a setting.
-/

set_option autoImplicit false
namespace Whitelist

/-- The variables of the environment. -/
abbrev Environment : Type := List (String × String)

/-- The value of a variable. -/
def Setting.ofVariable (s : String) : Setting :=
  if Text.lower s = "true" then bool true
  else if Text.lower s = "false" then bool false
  else match Text.readInt64? s.toList with
    | some n => int n.toInt
    | none =>
      match Double.ofText? s.toList with
      | some x => float x
      | none => text s

namespace Environment

/-- What the names of settings start with, in lower case. -/
def nameStart : List Char := "cloudrec.".toList

/-- The usual name of the variable of a setting, all in capitals. -/
def variableOf (settingName : String) : String :=
  .ofList ((nameStart ++ settingName.toList).map Char.toUpper)

/-- A character in lower case. The Kelvin sign is the one character beyond ASCII that becomes an
ASCII letter; no name of a setting has others. -/
def lowerChar (c : Char) : Char := if c = '\u212a' then 'k' else c.toLower

/-- The name of the setting that a variable is. -/
def settingName? (variableName : String) : Option String :=
  (Text.after? nameStart (variableName.toList.map lowerChar)).map .ofList

/-- The settings among the variables. -/
def layer (environment : Environment) : Layer :=
  environment.filterMap fun (name, value) =>
    (settingName? name).map fun name => (name, Setting.ofVariable value)

end Environment
end Whitelist
