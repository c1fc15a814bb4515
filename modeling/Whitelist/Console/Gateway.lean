import Whitelist.Console.Guard

/-!
# The gateway for changes

Every change of a record goes through here, behind a snapshot that affirms the caller's lock.
Creating a record needs no lock. Nothing is changed on the snapshot itself: the caller reads the
record again.

## What is here

* `setEnabled`, `delete`, `save` — the changes.
-/

set_option autoImplicit false
namespace Whitelist.Console

variable {σ : Type} (store : RuleStore σ)

/-- Enable or disable the record of a snapshot. -/
def setEnabled (record : RuleRecord) (enabled : Bool) : Attempt σ Unit :=
  guarded record (store.setEnabled record.id enabled)

/-- Delete the record of a snapshot. -/
def delete (record : RuleRecord) : Attempt σ Unit :=
  guarded record (store.deleteRecord record.id)

/-- An update without a snapshot of the record that it is for. -/
def snapshotRequired (id : Int64) : Fault :=
  .illegalArgument s!"update of record {id} requires its current snapshot"

/-- Create a record, or update the one that the form names. The form is checked first, so a wrong
one never reaches the store, and its refusal names the fields in some order; an update needs the
current snapshot of that very record. -/
def save (form : RuleForm) (current : Option RuleRecord) (order : LineOrder := .codeFirst) :
    Attempt σ Int64 := do
  form.validate order
  match form.id, current with
  | none, _ => store.saveRecord form
  | some id, some record =>
    if record.id = id then guarded record (store.saveRecord form) else throw (snapshotRequired id)
  | some id, none => throw (snapshotRequired id)

end Whitelist.Console
