/-!
# Faults

A store, a form check or a remote server that refuses a request answers with a `Fault`. Its
constructor is what a caller may decide on: whether trying again can help, and whether what is on
the screen is out of date. The text is for people.

## What is here

* `Fault` and `Fault.message` — the six kinds of refusal and the text of each.
* `Fault.isRetryable`, `Fault.needsRefresh` — what the caller may do next.
* `Fault.code` — the number and fixed text under which a refusal is logged.
-/

set_option autoImplicit false
namespace Whitelist

/-- Why a request was refused. -/
inductive Fault where
  /-- The caller does not hold the edit lock; the holder's name is given where it is known. -/
  | lockNotHeld (id : Int64) (holder : Option String)
  | notFound (what : String)
  | validation (reason : String)
  | transport (reason : String)
  | illegalArgument (reason : String)
  | internal (reason : String)
  deriving DecidableEq, Repr

/-- A number that stands for a kind of fault in the log, with its fixed text. -/
structure FaultCode where
  code : Nat
  text : String
  deriving DecidableEq, Repr

namespace Fault

/-- There is no such record, or none that the caller may see. -/
def noSuchRule (id : Int64) : Fault := notFound s!"whited rule {id}"

/-- The text shown for a fault. -/
def message : Fault → String
  | lockNotHeld id none => s!"record '{id}' is not locked by the current user"
  | lockNotHeld id (some holder) =>
    s!"record '{id}' is not locked by the current user (held by '{holder}')"
  | notFound what => s!"resource '{what}' not found"
  | validation reason => s!"validation failed: {reason}"
  | transport reason => s!"transport failure: {reason}"
  | illegalArgument reason => s!"illegal argument: {reason}"
  | internal reason => s!"internal error: {reason}"

/-- Only a failure on the way to the server may go away by itself. -/
def isRetryable : Fault → Bool
  | transport _ => true
  | _ => false

/-- The record has gone or its lock has moved, so the caller should read it again. -/
def needsRefresh : Fault → Bool
  | notFound _ | lockNotHeld .. => true
  | _ => false

/-- The number and text under which a fault is logged. -/
def code : Fault → FaultCode
  | lockNotHeld .. => ⟨20014, "lock not held, please grab the lock first"⟩
  | notFound _ => ⟨20004, "resource not found"⟩
  | validation _ | illegalArgument _ => ⟨20002, "parameter validate error"⟩
  | transport _ => ⟨30001, "remote call failed, please retry"⟩
  | internal _ => ⟨30000, "server error"⟩

end Fault
end Whitelist
