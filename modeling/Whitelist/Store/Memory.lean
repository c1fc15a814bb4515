import Whitelist.Lease
import Whitelist.Rule.Group
import Whitelist.Store.Basic
import Whitelist.Store.Clock

/-!
# The in-process store

All records and leases in memory, shared by any number of callers. A caller bound to a tenant sees
the records of that tenant only. Every read shows the lock as it is for the caller, and every change
of a record is made under the caller's live lease.

## What is here

* `Caller`, `Caller.canSee` — on whose behalf the store acts.
* `StoredRule`, `MemoryStore` — the records and everything kept beside them.
* `MemoryStore.project` — a record as a caller sees it.
* `grabLock`, `releaseLock`, `listRecords`, `listGroups`, `getRecord`, `setEnabled`,
  `deleteRecord`, `saveRecord` — the calls.
* `MemoryStore.session` — the store as one caller's `RuleStore`.
-/

set_option autoImplicit false
namespace Whitelist

/-- On whose behalf a store acts. -/
structure Caller where
  userId : String
  username : String
  /-- The one tenant whose records are seen; without one, all are. -/
  tenantId : Option Int64 := none
  deriving DecidableEq, Repr

/-- Whether the caller sees the records of a tenant. -/
def Caller.canSee (caller : Caller) (tenantId : Option Int64) : Bool :=
  caller.tenantId = none || caller.tenantId = tenantId

/-- A record as it is kept, with its id. Times are in nanoseconds. -/
structure StoredRule where
  id : Int64
  content : RuleContent
  tenantId : Option Int64
  creatorName : String
  createdAt : Nat
  modifiedAt : Nat
  deriving DecidableEq, Repr

/-- The scope that the record is filed under. -/
def StoredRule.scope (rule : StoredRule) : Scope := rule.content.scope

/-- The records by id, the names known for rule codes and tenants with the latest first, the
leases, the next id, and the time. -/
structure MemoryStore where
  rules : Table StoredRule := .empty
  /-- Each record is kept under the id that it has. Whatever puts a record into the table, or
  changes one there, has to see to it. -/
  keyed : rules.KeyedBy StoredRule.id := by exact Table.keyedBy_empty
  ruleNames : List (String × String) := []
  tenantNames : List (Int64 × String) := []
  leases : LeaseTable := {}
  nextId : Int64 := 1
  clock : Clock := {}
  /-- The order in which the next form that is refused has its fields named. It may change between
  any two calls. -/
  lineOrder : LineOrder := .codeFirst
  deriving DecidableEq

namespace MemoryStore

/-! ## Names and time -/

/-- The store with a name made known for a rule code. -/
def registerRule (store : MemoryStore) (code name : String) : MemoryStore :=
  { store with ruleNames := (code, name) :: store.ruleNames }

/-- The store with a name made known for a tenant. -/
def registerTenant (store : MemoryStore) (tenantId : Int64) (name : String) : MemoryStore :=
  { store with tenantNames := (tenantId, name) :: store.tenantNames }

/-- The name known for a rule code. -/
def ruleName? (store : MemoryStore) (code : String) : Option String := store.ruleNames.lookup code

/-- The name known for a tenant. -/
def tenantName? (store : MemoryStore) (tenantId : Int64) : Option String :=
  store.tenantNames.lookup tenantId

/-- A look at the clock. -/
def look : Attempt MemoryStore Nat := do
  let (now, clock) := (← get).clock.look
  modify fun store => { store with clock }
  return now

/-- The entries of leases that have run out by now taken out, and how many those were. -/
def purgeLeases (store : MemoryStore) : Nat × MemoryStore :=
  let (count, leases) := store.leases.purge store.clock.now
  (count, { store with leases })

/-- An owner's live lease counted anew. -/
def renewLease (store : MemoryStore) (id : Int64) (owner : String) : Bool × MemoryStore :=
  let (renewed, leases) := store.leases.renew store.clock.now id owner
  (renewed, { store with leases })

/-- The holder of the live lease at an id, now. -/
def holder (store : MemoryStore) (id : Int64) : Option LockHolder :=
  store.leases.holder store.clock.now id

/-! ## Seeing records -/

/-- The lock of a record as a caller sees it, from the holder of its live lease. Callers see
themselves under the names that they have now. -/
def lockFor (caller : Caller) : Option LockHolder → LockStatus
  | none => .unlocked
  | some holder =>
    if holder.owner = caller.userId then .heldByCaller caller.username
    else .heldByOther (some holder.name)

/-- A record as a caller sees it who finds this lock on it. -/
def record (store : MemoryStore) (rule : StoredRule) (lock : LockStatus) : RuleRecord where
  id := rule.id
  content := rule.content
  lock
  tenantId := rule.tenantId
  tenantName := rule.tenantId.bind store.tenantName?
  creatorName := some rule.creatorName
  createdAt := some (timestamp rule.createdAt)
  modifiedAt := some (timestamp rule.modifiedAt)

/-- A record as a caller sees it after a look at the clock. Its lock is that of the id that the
record has, which is also the id that it is kept under. -/
def project (caller : Caller) (rule : StoredRule) : Attempt MemoryStore RuleRecord := do
  let now ← look
  let store ← get
  return store.record rule (lockFor caller (store.leases.holder now rule.id))

/-- The records that a caller sees, the newest first. -/
def visible (store : MemoryStore) (caller : Caller) : List (Int64 × StoredRule) :=
  (store.rules.entries.filter fun (_, rule) => caller.canSee rule.tenantId).reverse

/-- The record at an id, if the caller sees it. -/
def existing? (store : MemoryStore) (caller : Caller) (id : Int64) : Option StoredRule :=
  (store.rules.find? id).filter fun rule => caller.canSee rule.tenantId

/-- The record at an id; to the caller, one that is not seen does not exist. -/
def existing (caller : Caller) (id : Int64) : Attempt MemoryStore StoredRule := do
  match (← get).existing? caller id with
  | some rule => return rule
  | none => throw (.noSuchRule id)

/-! ## Locks -/

/-- Ask for the lease of a record. The lock is read again afterwards, so the answer also shows a
lease that has stayed with somebody else. -/
def grabLock (caller : Caller) (id : Int64) : Attempt MemoryStore LockStatus := do
  let rule ← existing caller id
  let now ← look
  modify fun store =>
    { store with leases := (store.leases.acquire now id caller.userId caller.username).2 }
  return (← project caller rule).lock

/-- Give the lease of a record back. It is no fault not to hold it. -/
def releaseLock (caller : Caller) (id : Int64) : Attempt MemoryStore Unit := do
  let _ ← existing caller id
  modify fun store => { store with leases := (store.leases.release id caller.userId).2 }

/-- Change the store while the caller holds the live lease of a record. -/
def underLock (caller : Caller) (id : Int64) (write : Attempt MemoryStore Unit) :
    Attempt MemoryStore Unit := do
  let now ← look
  match (← get).leases.whileHeld now id caller.userId fun () => write with
  | .ok write => write
  | .error holder => throw (.lockNotHeld id (holder.map (·.name)))

/-! ## Listing -/

/-- One page of the records that a query wants, the newest first. A creator who has made no record
at all is known to have none. -/
def listRecords (caller : Caller) (query : RecordQuery) (page size : UInt64) :
    Attempt MemoryStore (Page RuleRecord) := do
  let store ← get
  let unknownCreator := match query.creatorName with
    | some creator => !store.rules.entries.any fun (_, rule) => rule.creatorName = creator
    | none => false
  if unknownCreator then return Page.new 0 (max page 1) size []
  let records ← (store.visible caller).mapM fun e => project caller e.2
  return paginate (records.filter query.selects) page size

/-- The group of one record. -/
def groupOf (store : MemoryStore) (rule : StoredRule) : RuleGroup where
  code := rule.content.code
  displayName := (store.ruleName? rule.scope.code).getD ""
  count := 1

/-- The groups of the records that a caller sees and a query wants: one for each scope, under the
code of its newest record, the global one first and the others by their newest records. -/
def groups (store : MemoryStore) (caller : Caller) (query : GroupQuery) : List RuleGroup :=
  let wanted := (store.visible caller).filter fun (_, rule) => query.selects rule.content.code
  globalFirst (wanted.foldl
    (fun groups (_, rule) => addToGroup (store.groupOf rule) (store.groupOf rule) groups) [])

/-- One page of the groups that a query wants. -/
def listGroups (caller : Caller) (query : GroupQuery) (page size : UInt64) :
    Attempt MemoryStore (Page RuleGroup) := do
  return paginate ((← get).groups caller query) page size

/-- One record. -/
def getRecord (caller : Caller) (id : Int64) : Attempt MemoryStore RuleRecord := do
  let rule ← existing caller id
  project caller rule

/-! ## Changing -/

/-- Change a record and note when. -/
def rewrite (id : Int64) (change : RuleContent → RuleContent) : Attempt MemoryStore Unit := do
  let now ← look
  modify fun store => { store with
    rules := store.rules.modify id fun rule =>
      { rule with content := change rule.content, modifiedAt := now }
    keyed := store.keyed.modify fun _ => rfl }

/-- Enable or disable a record. -/
def setEnabled (caller : Caller) (id : Int64) (enabled : Bool) : Attempt MemoryStore Unit := do
  let _ ← existing caller id
  underLock caller id (rewrite id fun content => { content with enabled })

/-- Delete a record, and its lease with it. -/
def deleteRecord (caller : Caller) (id : Int64) : Attempt MemoryStore Unit := do
  let _ ← existing caller id
  underLock caller id (modify fun store =>
    { store with rules := store.rules.erase id, keyed := store.keyed.erase })
  modify fun store => { store with leases := store.leases.forget id }

/-- Replace the content of a record. That counts as activity on its lease. -/
def update (caller : Caller) (id : Int64) (content : RuleContent) : Attempt MemoryStore Int64 := do
  let _ ← existing caller id
  underLock caller id (rewrite id fun _ => content)
  let now ← look
  modify fun store => { store with leases := (store.leases.renew now id caller.userId).2 }
  return id

/-- There is a record of this type and name already. -/
def nameTaken (content : RuleContent) : Fault :=
  .validation s!"a {content.ruleType.name} rule named '{content.name}' already exists"

/-- Whether any record, seen by the caller or not, has this type and name. -/
def hasNamesake (store : MemoryStore) (content : RuleContent) : Bool :=
  store.rules.entries.any fun (_, rule) =>
    rule.content.ruleType = content.ruleType && rule.content.name = content.name

/-- Create a record under the next id, for the caller's tenant. Its creator holds its lease. -/
def create (caller : Caller) (content : RuleContent) : Attempt MemoryStore Int64 := do
  if (← get).hasNamesake content then throw (nameTaken content)
  let id := (← get).nextId
  let now ← look
  let rule : StoredRule := ⟨id, content, caller.tenantId, caller.username, now, now⟩
  modify fun store => { store with
    nextId := store.nextId + 1
    rules := store.rules.insert id rule
    keyed := store.keyed.insert rfl }
  let leased ← look
  modify fun store =>
    { store with leases := (store.leases.assign leased id caller.userId caller.username).2 }
  return id

/-- Create a record, or replace the content of the one that the form names. -/
def saveRecord (caller : Caller) (form : RuleForm) : Attempt MemoryStore Int64 := do
  form.validate (← get).lineOrder
  match form.id with
  | some id => update caller id form.content
  | none => create caller form.content

/-- The store as one caller uses it. -/
def session (caller : Caller) : RuleStore MemoryStore where
  answer
    | .grabLock id => grabLock caller id
    | .releaseLock id => releaseLock caller id
    | .listRecords query page size => listRecords caller query page size
    | .listGroups query page size => listGroups caller query page size
    | .getRecord id => getRecord caller id
    | .setEnabled id enabled => setEnabled caller id enabled
    | .deleteRecord id => deleteRecord caller id
    | .saveRecord form => saveRecord caller form
    | .operators => return Operator.all

end MemoryStore
end Whitelist
