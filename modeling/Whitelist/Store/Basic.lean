import Whitelist.Page
import Whitelist.Rule.Form
import Whitelist.Rule.Query

/-!
# Stores

A store keeps the rule records and their edit locks and answers to one caller. What the console does
is written against the nine calls below, so that it does the same over every store.

## What is here

* `StoreCall`, `StoreCall.Answer` — the nine calls, and what each is answered with.
* `Attempt` — something that may be refused; the state may have changed even so.
* `RuleStore` — anything that answers the calls and keeps a state of its own.
* `RuleStore.recorded` — the same store, with all calls so far written down in order.
-/

set_option autoImplicit false
namespace Whitelist

/-- A call to a store. -/
inductive StoreCall where
  | grabLock (id : Int64)
  | releaseLock (id : Int64)
  | listRecords (query : RecordQuery) (page size : UInt64)
  | listGroups (query : GroupQuery) (page size : UInt64)
  | getRecord (id : Int64)
  | setEnabled (id : Int64) (enabled : Bool)
  | deleteRecord (id : Int64)
  | saveRecord (form : RuleForm)
  | operators
  deriving DecidableEq, Repr

namespace StoreCall

/-- What a call is answered with where it is not refused. -/
@[reducible] def Answer : StoreCall → Type
  | grabLock _ => LockStatus
  | releaseLock _ => Unit
  | listRecords .. => Page RuleRecord
  | listGroups .. => Page RuleGroup
  | getRecord _ => RuleRecord
  | setEnabled .. => Unit
  | deleteRecord _ => Unit
  | saveRecord _ => Int64
  | operators => List Operator

/-- Whether the call changes records. -/
def isMutation : StoreCall → Bool
  | setEnabled .. | deleteRecord _ | saveRecord _ => true
  | _ => false

end StoreCall

/-- Something done to a state that answers or is refused; the state may change either way. -/
abbrev Attempt (σ α : Type) : Type := ExceptT Fault (StateM σ) α

/-- What comes of an attempt on a state. -/
def Attempt.on {σ α : Type} (attempt : Attempt σ α) (state : σ) : Except Fault α × σ :=
  StateT.run (ExceptT.run attempt) state

/-- An attempt from what comes of it on every state. -/
def Attempt.of {σ α : Type} (outcome : σ → Except Fault α × σ) : Attempt σ α :=
  ExceptT.mk outcome

/-- Anything that answers the calls. -/
structure RuleStore (σ : Type) where
  answer : (call : StoreCall) → Attempt σ call.Answer

namespace RuleStore

variable {σ : Type} (store : RuleStore σ)

/-- Ask for the edit lock; the answer is the lock state after the attempt. -/
def grabLock (id : Int64) : Attempt σ LockStatus := store.answer (.grabLock id)

/-- Give the edit lock back; nothing happens where the caller does not hold it. -/
def releaseLock (id : Int64) : Attempt σ Unit := store.answer (.releaseLock id)

/-- One page of the records that a query wants. -/
def listRecords (query : RecordQuery) (page size : UInt64) : Attempt σ (Page RuleRecord) :=
  store.answer (.listRecords query page size)

/-- One page of the groups that a query wants. -/
def listGroups (query : GroupQuery) (page size : UInt64) : Attempt σ (Page RuleGroup) :=
  store.answer (.listGroups query page size)

/-- One record. -/
def getRecord (id : Int64) : Attempt σ RuleRecord := store.answer (.getRecord id)

/-- Enable or disable a record. -/
def setEnabled (id : Int64) (enabled : Bool) : Attempt σ Unit :=
  store.answer (.setEnabled id enabled)

/-- Delete a record. -/
def deleteRecord (id : Int64) : Attempt σ Unit := store.answer (.deleteRecord id)

/-- Create a record, or replace the content of one; the answer is its id. -/
def saveRecord (form : RuleForm) : Attempt σ Int64 := store.answer (.saveRecord form)

/-- The comparisons that config items may use. -/
def operators : Attempt σ (List Operator) := store.answer .operators

/-- The store with its calls written down, the latest last. -/
def recorded : RuleStore (σ × List StoreCall) where
  answer call := .of fun (state, calls) =>
    let (outcome, state) := (store.answer call).on state
    (outcome, (state, calls ++ [call]))

end RuleStore
end Whitelist
