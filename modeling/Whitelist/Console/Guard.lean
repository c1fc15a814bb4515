import Whitelist.Store.Basic

/-!
# The guard on changes

What a record says about its lock is a snapshot, made for one caller at one moment. The console goes
by nothing else: it never remembers that a lock was once taken.

## What is here

* `RuleRecord.isEditable`, `ViewMode` — whether a snapshot lets its record be changed.
* `guarded` — an action that runs only behind a snapshot that does.
* `acquire`, `release` — asking for the lock and giving it back.
-/

set_option autoImplicit false
namespace Whitelist

/-- How a record is presented. -/
inductive ViewMode where
  | edit
  | readOnly
  deriving DecidableEq, Repr

namespace RuleRecord

/-- Whether the snapshot says that the caller holds the lock. -/
def isEditable (record : RuleRecord) : Bool := record.lock.isLockHolder

/-- How the snapshot is presented. -/
def viewMode (record : RuleRecord) : ViewMode := if record.isEditable then .edit else .readOnly

/-- The refusal to change the record of a snapshot. -/
def notEditable (record : RuleRecord) : Fault := .lockNotHeld record.id record.lock.holderName

end RuleRecord

namespace Console

variable {σ : Type}

/-- The action, if the snapshot says that the caller holds the lock; otherwise it does not run. -/
def guarded {α : Type} (record : RuleRecord) (action : Attempt σ α) : Attempt σ α :=
  if record.isEditable then action else throw record.notEditable

/-- Ask for the lock of a record, once. The answer is the store's state after the attempt. -/
def acquire (store : RuleStore σ) (id : Int64) : Attempt σ LockStatus := store.grabLock id

/-- Give the lock of a record back. -/
def release (store : RuleStore σ) (id : Int64) : Attempt σ Unit := store.releaseLock id

end Console
end Whitelist
