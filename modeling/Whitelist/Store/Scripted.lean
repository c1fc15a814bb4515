import Whitelist.Store.Basic
import Whitelist.Wire.Page
import Whitelist.Wire.Rule

/-!
# A store with prepared answers

For rehearsing what the console does with unusual answers: listings are answered from a script, one
entry after the other, whatever is asked for. There are no records.

## What is here

* `ScriptEntry` — a prepared answer: a page, still as JSON, or a refusal.
* `RuleStore.scripted` — the store that answers so.
-/

set_option autoImplicit false
namespace Whitelist

/-- A prepared answer to a listing. -/
abbrev ScriptEntry : Type := Except Fault Json

namespace RuleStore

/-- A listing after the last entry of the script. -/
def scriptExhausted : Fault := .transport "script exhausted"

/-- A page of the script that is not of the kind that was asked for. -/
def wrongPage : Fault := .internal "scripted page of another kind"

/-- The next entry of the script as a page of rows. -/
def nextPage {α : Type} (read : Json → Option α) : Attempt (List ScriptEntry) (Page α) := do
  match ← get with
  | [] => throw scriptExhausted
  | entry :: rest =>
    set rest
    let json ← (entry : Except Fault Json)
    match Page.ofJson? read json with
    | some page => return page
    | none => throw wrongPage

/-- The store that answers listings from the script that is its state. -/
def scripted : RuleStore (List ScriptEntry) where
  answer
    | .grabLock id => throw (.noSuchRule id)
    | .releaseLock id => throw (.noSuchRule id)
    | .listRecords .. => nextPage RuleRecord.ofJson?
    | .listGroups .. => nextPage RuleGroup.ofJson?
    | .getRecord id => throw (.noSuchRule id)
    | .setEnabled id _ => throw (.noSuchRule id)
    | .deleteRecord id => throw (.noSuchRule id)
    | .saveRecord form => throw (.noSuchRule (form.id.getD 0))
    | .operators => return Operator.all

end RuleStore
end Whitelist
