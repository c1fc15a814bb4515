import Whitelist.Json.Reader
import Whitelist.Settings.Ini
import Whitelist.Settings.Json5
import Whitelist.Settings.Ron
import Whitelist.Settings.Toml
import Whitelist.Settings.Yaml
import Whitelist.Text.Cut

/-!
# Files of settings

The name of a file tells its format.

## What is here

* `Setting.ofJson`, `Layer.ofJson?` — settings in JSON.
* `FileFormat`, `FileFormat.ofName?` — the formats.
* `Layer.ofFile?` — the settings in a file.
-/

set_option autoImplicit false
namespace Whitelist

/-! ## JSON -/

mutual

/-- A value as a setting. -/
def Setting.ofJson : Json → Setting
  | .null | .unreadable => .null
  | .bool b => .bool b
  | .int n => .int n
  | .float x => .float x
  | .str s => .text s
  | .arr items => .list (settingsOfItems items)
  | .obj members => .table (settingsOfMembers members)

/-- The items of an array as settings. -/
def settingsOfItems : List Json → List Setting
  | [] => []
  | item :: rest => .ofJson item :: settingsOfItems rest

/-- The members of an object as settings. -/
def settingsOfMembers : List (String × Json) → List (String × Setting)
  | [] => []
  | (name, value) :: rest => (name, .ofJson value) :: settingsOfMembers rest

end

namespace Layer

/-- The settings that a text in JSON holds, if it is one object that can be read. Of members with
one name the last counts. -/
def ofJson? (text : String) : Option Layer := do
  let json ← Json.ofText? text
  if !json.readable then none
  match json.collapse with
  | .obj members => some (settingsOfMembers members)
  | _ => none

end Layer

/-! ## Files -/

/-- A format of files. -/
inductive FileFormat where
  | json
  | yaml
  | toml
  | ini
  | ron
  | json5
  deriving DecidableEq, Repr

/-- The endings of files' names and the formats that they tell. -/
def FileFormat.endings : List (String × FileFormat) :=
  [("toml", toml), ("json", json), ("yaml", yaml), ("yml", yaml), ("ini", ini), ("ron", ron),
    ("json5", json5)]

/-- The name of a file without the folders that it is in. -/
def fileName (path : String) : List Char := (path.toList.reverse.takeWhile (· ≠ '/')).reverse

/-- What follows the last point of a file's name; a point in front does not count. -/
def extension? (path : String) : Option String :=
  (Text.cut '.' (fileName path).reverse).bind fun (ending, start) =>
    if start = [] then none else some (.ofList ending.reverse)

/-- The format that a file's name tells, if it is known. -/
def FileFormat.ofName? (path : String) : Option FileFormat :=
  (extension? path).bind fun ending => endings.lookup ending

/-- A text without the mark of its encoding, which may stand in front. -/
def withoutMark (text : String) : String :=
  match text.toList with
  | '\ufeff' :: rest => .ofList rest
  | _ => text

/-- The settings in a file of this name, if it can be read. A file of unknown format holds none. -/
def Layer.ofFile? (path text : String) : Option Layer :=
  match FileFormat.ofName? path with
  | some .json => ofJson? (withoutMark text)
  | some .yaml => ofYaml? (withoutMark text)
  | some .toml => ofToml? (withoutMark text)
  | some .ini => ofIni? (withoutMark text)
  | some .ron => ofRon? (withoutMark text)
  | some .json5 => ofJson5? (withoutMark text)
  | none => some []

end Whitelist
