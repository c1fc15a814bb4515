import Whitelist.Action.Basic

/-!
# Editing a list of actions

While a draft is edited its actions are rows addressed by a number. The numbers are the places in
the list, counted from 1, so they change when a row is removed; a change that fails leaves the list
as it was.

## What is here

* `ActionItem` — a row: an action and its number.
* `ActionEditor`, `ActionEditor.ofSaved` — the list being edited, and the list as it was stored.
* `append`, `replace`, `remove` — the three edits.
* `submission` — the list as it is sent, without the numbers, every row checked.
* `isDense` — the numbers are 1, 2, 3, … in the order of the list.
-/

set_option autoImplicit false
namespace Whitelist

/-- A row of the list: an action and the number that addresses it. -/
structure ActionItem where
  idx : UInt32
  action : Action
  deriving DecidableEq, Repr

/-- A list of actions being edited. -/
structure ActionEditor where
  items : List ActionItem := []
  deriving DecidableEq, Repr

namespace ActionEditor

/-- The rows of a list of actions, numbered by their places from 1 on. -/
def number (actions : List Action) : List ActionItem :=
  actions.mapIdx fun i action => ⟨.ofNat i + 1, action⟩

/-- The editor on a list as it was stored. -/
def ofSaved (actions : List Action) : ActionEditor := ⟨number actions⟩

/-- The actions of the rows, in order. -/
def actions (editor : ActionEditor) : List Action := editor.items.map (·.action)

/-- The number of rows. -/
def length (editor : ActionEditor) : Nat := editor.items.length

/-- Whether there are no rows. -/
def isEmpty (editor : ActionEditor) : Bool := editor.items.isEmpty

/-- The row with this number. -/
def get? (editor : ActionEditor) (idx : UInt32) : Option ActionItem :=
  editor.items.find? (·.idx = idx)

/-- Whether the numbers are 1, 2, 3, … in the order of the list. -/
def isDense (editor : ActionEditor) : Bool :=
  editor.items.zipIdx.all fun (item, i) => item.idx.toNat = i + 1

/-- The list with one row for each type put at its end, nothing filled in yet. -/
def append (editor : ActionEditor) (types : List ActionType) : ActionEditor :=
  ⟨number (editor.actions ++ types.map fun t => { actionType := t })⟩

/-- There is no row with this number. -/
def noSuchRow (idx : UInt32) : Fault := .notFound s!"action #{idx}"

/-- The place of the row with this number. -/
def position (editor : ActionEditor) (idx : UInt32) : Except Fault Nat :=
  match editor.items.findIdx? (·.idx = idx) with
  | some i => .ok i
  | none => .error (noSuchRow idx)

/-- A check with its refusal as a fault. -/
def checked (check : Except ActionError Unit) : Except Fault Unit :=
  match check with
  | .ok () => .ok ()
  | .error e => .error e.fault

/-- The list with the fields of one row replaced, if they are complete for that row's type. -/
def replace (editor : ActionEditor) (idx : UInt32) (fields : ActionFields) :
    Except Fault ActionEditor := do
  match editor.items.find? (·.idx = idx) with
  | none => throw (noSuchRow idx)
  | some item =>
    checked (fields.check item.action.actionType)
    let i ← editor.position idx
    return ⟨editor.items.set i { item with action := { item.action with fields } }⟩

/-- The list without one row, the rows after it numbered anew. -/
def remove (editor : ActionEditor) (idx : UInt32) : Except Fault ActionEditor := do
  let i ← editor.position idx
  return ⟨number (editor.actions.eraseIdx i)⟩

/-- Why a list cannot be sent: the number of the row at fault, and what is wrong with it. -/
structure SubmissionError where
  idx : UInt32
  error : ActionError
  deriving DecidableEq, Repr

/-- The refusal as a fault. -/
def SubmissionError.fault (e : SubmissionError) : Fault :=
  .validation s!"action #{e.idx}: {e.error.message}"

/-- The actions of the rows, if every one is complete; the first that is not is reported. -/
def submit : List ActionItem → Except SubmissionError (List Action)
  | [] => .ok []
  | item :: rest =>
    match item.action.check with
    | .error e => .error ⟨item.idx, e⟩
    | .ok () => do
      let actions ← submit rest
      return item.action :: actions

/-- The list as it is sent: every row complete, no numbers, the same order. -/
def submission (editor : ActionEditor) : Except Fault (List Action) :=
  match submit editor.items with
  | .ok actions => .ok actions
  | .error e => .error e.fault

/-- One line for a row: its number, its type and its channel. -/
def summaryLine (item : ActionItem) : String :=
  let channel := (item.action.fields.channel.map NotifyChannel.name).getD "not configured"
  s!"{item.idx}. {item.action.actionType.name}: {channel}"

/-- One line for each row. -/
def summary (editor : ActionEditor) : List String := editor.items.map summaryLine

end ActionEditor
end Whitelist
