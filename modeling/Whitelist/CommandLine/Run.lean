import Whitelist.Action.Editor
import Whitelist.CommandLine.Command
import Whitelist.Console.Browse
import Whitelist.Console.Gateway
import Whitelist.Json.Printer
import Whitelist.Json.Reader
import Whitelist.Wire.Action
import Whitelist.Wire.Page
import Whitelist.Wire.Rule

/-!
# Carrying out commands

A command prints lines and may end with an error. Commands that change a record read it first and
change it through the gateway behind what they have read.

## What is here

* `CommandError` — why a command ends early.
* `Report`, `Printed` — the lines of a command and its error, as what comes of a run.
* `Draft.form` — the form of a draft.
* `changeRecord`, `saveForm` — the changes.
* `Command.run` — a command over a store.
-/

set_option autoImplicit false
namespace Whitelist.CommandLine

variable {σ : Type}

/-- Why a command ends early. -/
inductive CommandError where
  | refused (fault : Fault)
  | noFile (cause : FileError)
  /-- The file is no list of actions. -/
  | notActions (path : String)
  deriving DecidableEq, Repr

namespace CommandError

/-- The text shown for an error. -/
def message : CommandError → String
  | refused fault => fault.message
  | noFile cause => cause.message
  | notActions path => s!"'{path}' is no list of actions"

/-- Whether the user should list the record again before another try. -/
def needsRefresh : CommandError → Bool
  | refused fault => fault.needsRefresh
  | _ => false

end CommandError

/-- What a command prints, and the error that it ends with. -/
structure Report where
  lines : List String := []
  error : Option CommandError := none
  deriving DecidableEq, Repr

namespace Report

/-- A report of lines alone. -/
def ofLines (lines : List String) : Report := { lines }

/-- A report of an error alone. -/
def ofError (error : CommandError) : Report := { error := some error }

end Report

/-- A run on a store: a report, and the state after it. -/
abbrev Run (σ : Type) : Type := StateM σ Report

/-- The run that reports this and leaves the store alone. -/
def reported (report : Report) : Run σ := fun state => (report, state)

/-- The run that prints the answer of an attempt. -/
def printed {α : Type} (write : α → List String) (attempt : Attempt σ α) : Run σ :=
  fun state =>
    match attempt.on state with
    | (.ok a, state) => (.ofLines (write a), state)
    | (.error fault, state) => (.ofError (.refused fault), state)

/-- A value in JSON over lines. -/
def pretty {α : Type} (write : α → Json) (a : α) : List String := [(write a).pretty]

/-- Nothing. -/
def silent (_ : Unit) : List String := []

/-! ## Saving -/

/-- Config items from their short forms, numbered from an id on. -/
def itemsFrom (id : UInt32) : List String → Except Fault (List ConfigItem)
  | [] => .ok []
  | text :: rest => do
    let item ← ConfigItem.ofText id text
    let items ← itemsFrom (id + 1) rest
    return item :: items

/-- The text of a file that may be named. -/
def policyOf (files : Files) (path : Option String) : Except CommandError (Option String) :=
  match path with
  | none => .ok none
  | some path =>
    match files path with
    | .ok text => .ok (some text)
    | .error cause => .error (.noFile cause)

/-- The form of a draft. The items are numbered 1, 2, 3, … in the order given. -/
def Draft.form (files : Files) (draft : Draft) : Except CommandError RuleForm :=
  match itemsFrom 1 draft.items with
  | .error fault => .error (.refused fault)
  | .ok items =>
    (policyOf files draft.policyFile).map fun policy =>
      { id := draft.id
        content := {
          code := draft.code
          name := draft.name
          description := draft.description
          ruleType := draft.ruleType
          enabled := !draft.disabled
          items
          condition := draft.condition
          policy } }

/-! ## Changes -/

variable (store : RuleStore σ)

/-- Read a record and change it behind what was read. -/
def changeRecord (id : Int64) (change : RuleRecord → Attempt σ Unit) : Attempt σ Unit := do
  let record ← store.getRecord id
  change record

/-- Save a form; the record that it names is read first. -/
def saveForm (order : LineOrder) (form : RuleForm) : Attempt σ Int64 :=
  match form.id with
  | none => Console.save store form none order
  | some id => do
    let record ← store.getRecord id
    Console.save store form (some record) order

/-! ## Actions -/

/-- The actions that the text of a file lists. -/
def actionsOf (text : String) : Option (List Action) :=
  (Json.ofText? text).bind (Wire.asList Action.ofJson?)

/-- A list of actions in lines, and whether it can be sent. -/
def actionsReport (files : Files) (path : String) : Report :=
  match files path with
  | .error cause => .ofError (.noFile cause)
  | .ok text =>
    match actionsOf text with
    | none => .ofError (.notActions path)
    | some actions =>
      let editor := ActionEditor.ofSaved actions
      match editor.submission with
      | .ok _ => .ofLines editor.summary
      | .error fault => { lines := editor.summary, error := some (.refused fault) }

/-! ## Commands -/

/-- A command over a store, with the size of pages where none is given, and the order in which a
form that is refused has its fields named. -/
def Command.run (pageSize : UInt64) (files : Files) (order : LineOrder) : Command → Run σ
  | .groups wanted page size =>
    printed (pretty (Page.toJson RuleGroup.toJson))
      (Console.listGroups store ⟨wanted⟩ page (size.getD (max pageSize 1)))
  | .codes =>
    printed (fun options => options.map fun option => option.code ++ "\t" ++ option.label)
      (Console.ruleCodeOptions store pageSize)
  | .detail code name page size =>
    printed (pretty (Page.toJson RuleRecord.toJson))
      (Console.listDetail store code name page (size.getD (max pageSize 1)))
  | .display id => printed (pretty RuleRecord.toJson) (store.getRecord id)
  | .grab id => printed (pretty LockStatus.toJson) (Console.acquire store id)
  | .release id => printed silent (Console.release store id)
  | .enable id =>
    printed silent (changeRecord store id fun record => Console.setEnabled store record true)
  | .disable id =>
    printed silent (changeRecord store id fun record => Console.setEnabled store record false)
  | .delete id => printed silent (changeRecord store id (Console.delete store))
  | .save draft =>
    match draft.form files with
    | .ok form => printed (fun id => [toString id]) (saveForm store order form)
    | .error e => reported (.ofError e)
  | .operators => printed (fun operators => operators.map Operator.name) store.operators
  | .actions path => reported (actionsReport files path)

end Whitelist.CommandLine
