import Whitelist.Fault
import Whitelist.Table
import Whitelist.Text.Ascii

/-!
# Edit leases

Whoever edits a record holds its lease. A lease has an owner and may run out: it then counts as no
lease, although its entry stays in the table until something removes it. Nothing here looks at a
clock; the time, in nanoseconds, is given by the caller.

## What is here

* `LockPolicy` — whether asking for a lease takes it from its holder.
* `LockHolder`, `Lease`, `LeaseTable` — who holds a lease, since when, and all leases.
* `LeaseTable.holder`, `isHeldBy`, `whileHeld` — what can be seen of a lease.
* `assign`, `acquire`, `renew`, `release`, `forget` — what can be done with one.
* `purge`, `sweep` — removing the entries of leases that have run out.
-/

set_option autoImplicit false
namespace Whitelist

/-- What becomes of a live lease that somebody else asks for. -/
inductive LockPolicy where
  /-- It goes to whoever asks last. -/
  | grab
  /-- It stays with its holder. -/
  | exclusive
  deriving DecidableEq, Repr, Inhabited

namespace LockPolicy

/-- The name of a policy. -/
def name : LockPolicy → String
  | grab => "grab"
  | exclusive => "exclusive"

/-- Both policies. -/
def all : List LockPolicy := [grab, exclusive]

/-- The policy of this name, in any case of ASCII letters. -/
def ofName (s : String) : Except Fault LockPolicy :=
  let s := Text.lower s
  match all.find? (·.name = s) with
  | some policy => .ok policy
  | none =>
    .error (.illegalArgument s!"unknown lock policy '{s}', expected grab or exclusive")

end LockPolicy

/-- Who holds a lease, and the name that others are shown. -/
structure LockHolder where
  owner : String
  name : String
  deriving DecidableEq, Repr

/-- A lease with the time from which its term is counted. -/
structure Lease where
  holder : LockHolder
  since : Nat
  deriving DecidableEq, Repr

/-- All leases, by the ids of the records. -/
structure LeaseTable where
  policy : LockPolicy := .grab
  /-- How long a lease lasts unless it is renewed; without a term it never runs out. -/
  term : Option Nat := none
  leases : Table Lease := .empty
  deriving DecidableEq

namespace LeaseTable

/-- A table without leases. A term of no length counts as no term. -/
def new (policy : LockPolicy) (term : Option Nat) : LeaseTable :=
  { policy, term := term.filter (· ≠ 0) }

/-- A table whose leases last so many milliseconds, or for ever where that is 0. -/
def ofMilliseconds (policy : LockPolicy) (ms : Nat) : LeaseTable := new policy (some (ms * 1000000))

/-- Whether a lease has run out. -/
def isExpired (t : LeaseTable) (now : Nat) (lease : Lease) : Bool :=
  match t.term with
  | none => false
  | some term => lease.since + term ≤ now

/-- The lease at an id, unless it has run out. -/
def live? (t : LeaseTable) (now : Nat) (id : Int64) : Option Lease :=
  (t.leases.find? id).filter fun lease => !t.isExpired now lease

/-- The holder of the live lease at an id. -/
def holder (t : LeaseTable) (now : Nat) (id : Int64) : Option LockHolder :=
  (t.live? now id).map (·.holder)

/-- Whether this owner holds the live lease at an id. -/
def isHeldBy (t : LeaseTable) (now : Nat) (id : Int64) (owner : String) : Bool :=
  match t.holder now id with
  | some h => h.owner = owner
  | none => false

/-- What an action answers while this owner holds the live lease at an id. The action does not run
otherwise, and the answer is the live holder, if there is one. -/
def whileHeld {α : Type} (t : LeaseTable) (now : Nat) (id : Int64) (owner : String)
    (action : Unit → α) : Except (Option LockHolder) α :=
  match t.holder now id with
  | some h => if h.owner = owner then .ok (action ()) else .error (some h)
  | none => .error none

/-- The lease given to an owner, whoever holds it, with its term counted from now. -/
def assign (t : LeaseTable) (now : Nat) (id : Int64) (owner name : String) :
    LockHolder × LeaseTable :=
  let h : LockHolder := ⟨owner, name⟩
  (h, { t with leases := t.leases.insert id ⟨h, now⟩ })

/-- A request for the lease. The answer is the holder after it: the owner who asked, or, where
leases stay with their holders, whoever else holds a live one. -/
def acquire (t : LeaseTable) (now : Nat) (id : Int64) (owner name : String) :
    LockHolder × LeaseTable :=
  match t.policy, t.holder now id with
  | .exclusive, some h => if h.owner ≠ owner then (h, t) else t.assign now id owner name
  | _, _ => t.assign now id owner name

/-- The term of the owner's live lease counted anew; nothing happens for anybody else. -/
def renew (t : LeaseTable) (now : Nat) (id : Int64) (owner : String) : Bool × LeaseTable :=
  match t.live? now id with
  | some lease =>
    if lease.holder.owner = owner then
      (true, { t with leases := t.leases.insert id { lease with since := now } })
    else (false, t)
  | none => (false, t)

/-- The owner's entry taken out, whether its lease has run out or not. The answer says whether
there was one. -/
def release (t : LeaseTable) (id : Int64) (owner : String) : Bool × LeaseTable :=
  match t.leases.find? id with
  | some lease =>
    if lease.holder.owner = owner then (true, { t with leases := t.leases.erase id })
    else (false, t)
  | none => (false, t)

/-- The entry at an id taken out, whoever it belongs to. -/
def forget (t : LeaseTable) (id : Int64) : LeaseTable :=
  { t with leases := t.leases.erase id }

/-- The table without the entries of leases that have run out, and how many those were. -/
def purge (t : LeaseTable) (now : Nat) : Nat × LeaseTable :=
  let kept := t.leases.keep fun _ lease => !t.isExpired now lease
  (t.leases.size - kept.size, { t with leases := kept })

/-- One pass of the sweeper, which is started only where leases can run out. The answer says whether
it was. -/
def sweep (t : LeaseTable) (now : Nat) : Bool × LeaseTable :=
  match t.term with
  | none => (false, t)
  | some _ => (true, (t.purge now).2)

end LeaseTable
end Whitelist
