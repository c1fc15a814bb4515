import Whitelist.Files
import Whitelist.Settings.Basic
import Whitelist.Settings.Environment
import Whitelist.Settings.File

/-!
# Where settings come from

A file lies at the bottom, the environment over it, and what is given on the command line on top.

## What is here

* `Overrides` — what is given on the command line. `Overrides.isNamed_layer` says that its names are
  in order.
* `Settings.sourceFile` — the file that settings come from.
* `SettingsError`, `Settings.load` — the settings from all sources, or why there are none.
-/

set_option autoImplicit false
namespace Whitelist

/-- What is given on the command line. -/
structure Overrides where
  configFile : Option String := none
  mode : Option String := none
  servers : Option String := none
  username : Option String := none
  password : Option String := none
  lockPolicy : Option String := none
  logLevel : Option String := none
  deriving DecidableEq, Repr

/-- The settings that are given on the command line. -/
def Overrides.layer (overrides : Overrides) : Layer :=
  let entry (name : String) (value : Option String) : Option (String × Setting) :=
    value.map fun s => (name, .text s)
  [entry "console.mode" overrides.mode,
    entry "console.remote.server_addrs" overrides.servers,
    entry "console.remote.username" overrides.username,
    entry "console.remote.password" overrides.password,
    entry "lock.policy" overrides.lockPolicy,
    entry "logging.level" overrides.logLevel].filterMap fun entry => entry

/-- Whatever is given on the command line has a name that leads to it, so none of it is refused for
its name. That is why no `SettingsError` speaks of names. -/
theorem Overrides.isNamed_layer (overrides : Overrides) : overrides.layer.isNamed = true := by
  have hpaths : ∀ name ∈ Settings.names, (Path.ofName? name).isSome = true := by decide
  refine List.all_eq_true.mpr fun entry hentry => hpaths entry.1 ?_
  simp only [layer, List.mem_filterMap, List.mem_cons, List.not_mem_nil, or_false] at hentry
  obtain ⟨_, rfl | rfl | rfl | rfl | rfl | rfl, hgiven⟩ := hentry <;>
  · obtain ⟨value, -, rfl⟩ := Option.map_eq_some_iff.mp hgiven
    simp [Settings.names]

/-- Why there are no settings. -/
inductive SettingsError where
  | fileMissing (path : String)
  | fileUnreadable (path : String)
  deriving DecidableEq, Repr

/-- The text shown for an error. -/
def SettingsError.message : SettingsError → String
  | fileMissing path => s!"config file '{path}' not found"
  | fileUnreadable path => s!"config file '{path}' cannot be read"

namespace Settings

/-- The file that is read where none is named, if it is there. -/
def defaultFile : String := "conf/console.yml"

/-- A path without slashes and single points behind its last name. -/
def trimmedPath (path : String) : List Char :=
  let names := path.toList.splitOn '/'
  let names := (names.reverse.dropWhile fun name => name = [] || name = ['.']).reverse
  ['/'].intercalate names

/-- The paths of the files that are looked for beside a path where there is no file: those with an
ending that tells a format. -/
def alternatives (path : String) : List String :=
  let path := String.ofList (trimmedPath path)
  if fileName path = [] ∨ fileName path = ['.', '.'] then []
  else FileFormat.endings.map fun (ending, _) => s!"{path}.{ending}"

/-- The first of some files that can be read. -/
def firstOf (files : Files) : List String → Option (String × String)
  | [] => none
  | path :: rest =>
    match files path with
    | .ok text => some (path, text)
    | .error _ => firstOf files rest

/-- The file that settings come from, if there is one. A path that is named has to lead
somewhere. -/
def sourceFile (configFile : Option String) (files : Files) :
    Except SettingsError (Option (String × String)) :=
  let path := configFile.getD defaultFile
  match files path with
  | .ok text => .ok (some (path, text))
  | .error e =>
    if configFile.isSome ∧ e ≠ .isFolder then .error (.fileMissing path)
    else .ok (firstOf files (alternatives path))

/-- The paths of all files that settings may come from. -/
def filesNamed (configFile : Option String) : List String :=
  let path := configFile.getD defaultFile
  path :: alternatives path

/-- The settings of the file that they come from. -/
def fileLayer (configFile : Option String) (files : Files) : Except SettingsError Layer := do
  match ← sourceFile configFile files with
  | none => return []
  | some (path, text) =>
    match Layer.ofFile? path text with
    | some layer => return layer
    | none => throw (.fileUnreadable path)

/-- The settings from all sources. -/
def load (overrides : Overrides) (environment : Environment) (files : Files) :
    Except SettingsError Settings := do
  let file ← fileLayer overrides.configFile files
  return ofTree (Layer.stack [file, environment.layer, overrides.layer])

end Settings
end Whitelist
