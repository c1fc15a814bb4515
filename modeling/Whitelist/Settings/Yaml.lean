import Whitelist.Settings.Tree
import Whitelist.Settings.Yaml.Document

/-!
# Settings in YAML

## What is here

* `Layer.ofYaml?` — the settings that a text holds.
-/

set_option autoImplicit false
namespace Whitelist

/-- The settings that a text in YAML holds, if it can be read. A text without a document holds none;
the value of the only document has to be a mapping. -/
def Layer.ofYaml? (text : String) : Option Layer := do
  match ← Yaml.document? text.toList with
  | none => return []
  | some value =>
    match ← value.setting? with
    | .table entries => return entries
    | _ => none

end Whitelist
