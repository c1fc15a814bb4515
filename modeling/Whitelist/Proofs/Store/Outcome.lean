import Mathlib.Logic.Function.Iterate
import Mathlib.Tactic.Simps.Basic
import Whitelist.Proofs.Attempt
import Whitelist.Proofs.Page
import Whitelist.Store.Memory

/-!
# What comes of each call to the in-process store

One equation for each call: what it is answered with and which store it leaves, on every store. The
stores that a call can leave are named first, so that the equations, and all that follows from them,
can speak of them.

## What is here

* `owner?` — the user who holds the live lease of a record.
* `tick`, `granted`, `freed`, `rewritten`, `renewedFor`, `removed`, `added` — the stores that calls
  leave.
* `grabLock_on`, `releaseLock_on`, `getRecord_on`, `listRecords_on`, `listGroups_on`,
  `setEnabled_on`, `deleteRecord_on`, `update_on`, `create_on`, `saveRecord_on` — the calls.

The calls are `do` blocks in `Attempt MemoryStore`, which hands the store on through its own `bind`.
Every later module would have to take these blocks apart again, with a case for each guard; the
equations do it once, and nothing after this module unfolds `grabLock`, `update` or any other call.
Each equation is a `match` on `existing?` around a test of `owner?`, in the order in which the call
itself asks, so that a proof by `split` goes through the refusals in that order.

A store also holds the clock, and a look at it moves it on. That is why `tick` is everywhere: a call
that is refused may still leave the store a tick later, and two listings of the same records need
not end at the same time.
-/

set_option autoImplicit false
namespace Whitelist
namespace MemoryStore

open Attempt

/-! ## The stores that calls leave

`@[simps]` gives one equation for each field of each of these stores (`granted_leases`,
`rewritten_rules`, `removed_rules` and so on), so that what a call does to a field is a rewrite. -/

/-- The user who holds the live lease of a record, now. -/
def owner? (store : MemoryStore) (id : Int64) : Option String := (store.holder id).map (·.owner)

/-- The store after a look at the clock. -/
@[simps] def tick (store : MemoryStore) : MemoryStore := { store with clock := store.clock.look.2 }

/-- The store after a caller has asked for the lease of a record. -/
@[simps] def granted (store : MemoryStore) (caller : Caller) (id : Int64) : MemoryStore :=
  { store.tick with
    leases := (store.leases.acquire store.clock.now id caller.userId caller.username).2 }

/-- The store after a caller has given the lease of a record back. -/
@[simps] def freed (store : MemoryStore) (caller : Caller) (id : Int64) : MemoryStore :=
  { store with leases := (store.leases.release id caller.userId).2 }

/-- The store after the content of a record was changed. -/
@[simps] def rewritten (store : MemoryStore) (id : Int64) (change : RuleContent → RuleContent) :
    MemoryStore :=
  { store.tick with
    rules := store.rules.modify id fun rule =>
      { rule with content := change rule.content, modifiedAt := store.clock.now }
    keyed := store.keyed.modify fun _ => rfl }

/-- The store after a caller's lease of a record was counted anew. -/
@[simps] def renewedFor (store : MemoryStore) (caller : Caller) (id : Int64) : MemoryStore :=
  { store.tick with leases := (store.leases.renew store.clock.now id caller.userId).2 }

/-- The store without a record and its lease. -/
@[simps] def removed (store : MemoryStore) (id : Int64) : MemoryStore :=
  { store with
    rules := store.rules.erase id
    keyed := store.keyed.erase
    leases := store.leases.forget id }

/-- The record that a caller creates now. -/
def newRule (store : MemoryStore) (caller : Caller) (content : RuleContent) : StoredRule :=
  ⟨store.nextId, content, caller.tenantId, caller.username, store.clock.now, store.clock.now⟩

/-- The store with a new record under the next id, leased to its creator. -/
@[simps] def added (store : MemoryStore) (caller : Caller) (content : RuleContent) : MemoryStore :=
  { store.tick.tick with
    nextId := store.nextId + 1
    rules := store.rules.insert store.nextId (store.newRule caller content)
    keyed := store.keyed.insert rfl
    leases :=
      (store.leases.assign store.tick.clock.now store.nextId caller.userId caller.username).2 }

/-- Looking at the clock any number of times changes nothing but the clock. The equations for the
fields follow from this one. -/
theorem iterate_tick (looks : Nat) (store : MemoryStore) :
    tick^[looks] store = { store with clock := (tick^[looks] store).clock } := by
  induction looks with
  | zero => rfl
  | succ n ih => rw [Function.iterate_succ_apply', ih]; rfl

@[simp] theorem iterate_tick_rules (looks : Nat) (store : MemoryStore) :
    (tick^[looks] store).rules = store.rules := by rw [iterate_tick]

@[simp] theorem iterate_tick_leases (looks : Nat) (store : MemoryStore) :
    (tick^[looks] store).leases = store.leases := by rw [iterate_tick]

@[simp] theorem iterate_tick_nextId (looks : Nat) (store : MemoryStore) :
    (tick^[looks] store).nextId = store.nextId := by rw [iterate_tick]

@[simp] theorem iterate_tick_tenantNames (looks : Nat) (store : MemoryStore) :
    (tick^[looks] store).tenantNames = store.tenantNames := by rw [iterate_tick]

@[simp] theorem iterate_tick_lineOrder (looks : Nat) (store : MemoryStore) :
    (tick^[looks] store).lineOrder = store.lineOrder := by rw [iterate_tick]

/-- Time does not run backwards. -/
theorem now_le_tick (store : MemoryStore) : store.clock.now ≤ store.tick.clock.now :=
  Nat.le_add_right ..

theorem now_le_iterate_tick (looks : Nat) (store : MemoryStore) :
    store.clock.now ≤ (tick^[looks] store).clock.now := by
  induction looks with
  | zero => exact Nat.le_refl _
  | succ n ih =>
    rw [Function.iterate_succ_apply']
    exact Nat.le_trans ih (now_le_tick _)

/-! ## Reading

A record that a caller may not see is refused like one that does not exist: `existing?` filters by
tenant, and the refusal in `existing_on` does not say which of the two it was. -/

theorem find?_of_existing? {s : MemoryStore} {caller : Caller} {id : Int64} {rule : StoredRule}
    (h : s.existing? caller id = some rule) : s.rules.find? id = some rule :=
  (Option.filter_eq_some_iff.mp h).1

/-- What is found under an id has that id, by `keyed`. -/
theorem id_of_existing? {s : MemoryStore} {caller : Caller} {id : Int64} {rule : StoredRule}
    (h : s.existing? caller id = some rule) : rule.id = id :=
  s.keyed.of_find? (find?_of_existing? h)

variable (caller : Caller) (id : Int64) (s : MemoryStore)

@[simp] theorem look_on : look.on s = (.ok s.clock.now, s.tick) := rfl

theorem existing?_eq_some_iff {rule : StoredRule} : s.existing? caller id = some rule
    ↔ s.rules.find? id = some rule ∧ caller.canSee rule.tenantId = true :=
  Option.filter_eq_some_iff

theorem existing_on : (existing caller id).on s = match s.existing? caller id with
    | some rule => (.ok rule, s)
    | none => (.error (.noSuchRule id), s) := by
  rw [existing, on_bind_ok (on_get s)]
  cases s.existing? caller id <;> rfl

/-- A record is read together with its lock, at the time of the read. -/
theorem project_on (rule : StoredRule) : (project caller rule).on s
    = (.ok (s.record rule (lockFor caller (s.holder rule.id))), s.tick) := rfl

theorem getRecord_on : (getRecord caller id).on s = match s.existing? caller id with
    | some rule => (.ok (s.record rule (lockFor caller (s.holder id))), s.tick)
    | none => (.error (.noSuchRule id), s) := by
  rw [getRecord, on_bind, existing_on]
  cases hseen : s.existing? caller id with
  | none => rfl
  | some rule =>
    show (project caller rule).on s = _
    rw [project_on, id_of_existing? hseen]

/-- Whoever gets a record is answered with it as it is then. -/
theorem getRecord_eq_ok_iff {caller : Caller} {id : Int64} {s : MemoryStore} {record : RuleRecord} :
    ((getRecord caller id).on s).1 = .ok record
      ↔ ∃ rule, s.existing? caller id = some rule
        ∧ s.record rule (lockFor caller (s.holder id)) = record := by
  rw [getRecord_on]
  cases s.existing? caller id with
  | none => exact iff_of_false nofun fun ⟨_, hseen, _⟩ => nomatch hseen
  | some rule =>
    constructor
    · intro h
      exact ⟨rule, rfl, Except.ok.inj h⟩
    · rintro ⟨_, hseen, rfl⟩
      cases hseen
      rfl

/-- The rows of a listing. The clock is looked at once for each of them. -/
def rows (caller : Caller) : MemoryStore → List (Int64 × StoredRule) → List RuleRecord
  | _, [] => []
  | s, (_, rule) :: rest =>
    s.record rule (lockFor caller (s.holder rule.id)) :: rows caller s.tick rest

/-- Each row is a record as it is when its turn comes. -/
theorem mem_rows {s : MemoryStore} {l : List (Int64 × StoredRule)} {row : RuleRecord}
    (h : row ∈ rows caller s l) : ∃ looks, ∃ e ∈ l, row
      = s.record e.2 (lockFor caller ((tick^[looks] s).holder e.2.id)) := by
  induction l generalizing s with
  | nil => cases h
  | cons e rest ih =>
    rcases List.mem_cons.mp h with rfl | h
    · exact ⟨0, e, List.mem_cons_self, rfl⟩
    · obtain ⟨looks, e, he, rfl⟩ := ih h
      exact ⟨looks + 1, e, List.mem_cons_of_mem _ he, rfl⟩

/-- A listing projects record after record. What comes out is `rows`, one tick for each record. -/
theorem mapM_project_on (l : List (Int64 × StoredRule)) :
    (l.mapM fun e => project caller e.2).on s
      = (.ok (rows caller s l), tick^[l.length] s) := by
  induction l generalizing s with
  | nil => rfl
  | cons e rest ih =>
    rw [List.mapM_cons, on_bind_ok (project_on caller s e.2), on_bind_ok (ih s.tick)]
    rfl

/-- The newest record comes first. -/
theorem visible_descending (s : MemoryStore) (caller : Caller) :
    (s.visible caller).Pairwise fun a b => b.1 < a.1 := by
  rw [visible, List.pairwise_reverse]
  exact s.rules.ascending.filter _

/-- Whether a query asks for a creator who has made no record at all. -/
def lacksCreator (query : RecordQuery) : Bool :=
  match query.creatorName with
  | some creator => !s.rules.entries.any fun (_, rule) => rule.creatorName = creator
  | none => false

theorem listRecords_on (query : RecordQuery) (page size : UInt64) :
    (listRecords caller query page size).on s
      = if s.lacksCreator query then (.ok (Page.new 0 (max page 1) size []), s)
        else (.ok (paginate ((rows caller s (s.visible caller)).filter query.selects) page size),
          tick^[(s.visible caller).length] s) := by
  rw [listRecords, on_bind_ok (on_get s)]
  show (if s.lacksCreator query then _ else _ : Attempt MemoryStore (Page RuleRecord)).on s = _
  split
  · rfl
  · rw [on_bind_ok (mapM_project_on caller s (s.visible caller))]
    rfl

/-- A listing does nothing but look at the clock. -/
theorem exists_tick_listRecords (query : RecordQuery) (page size : UInt64) :
    ∃ looks, ((listRecords caller query page size).on s).2 = tick^[looks] s := by
  rw [listRecords_on]
  split
  · exact ⟨0, rfl⟩
  · exact ⟨_, rfl⟩

/-- Groups are counted without a look at the clock, since they show no locks. -/
theorem listGroups_on (query : GroupQuery) (page size : UInt64) :
    (listGroups caller query page size).on s
      = (.ok (paginate (s.groups caller query) page size), s) := rfl

/-! ## Locks

`underLock_on` is the equation for the guard that all three changes of a record share: it compares
the live owner, who is `owner?`, with the caller, and it looks at nothing else. -/

theorem grabLock_on : (grabLock caller id).on s = match s.existing? caller id with
    | some _ => (.ok (lockFor caller ((s.granted caller id).holder id)), (s.granted caller id).tick)
    | none => (.error (.noSuchRule id), s) := by
  rw [grabLock, on_bind, existing_on]
  cases hseen : s.existing? caller id with
  | none => rfl
  | some rule =>
    rw [← id_of_existing? hseen]
    rfl

theorem releaseLock_on : (releaseLock caller id).on s = match s.existing? caller id with
    | some _ => (.ok (), s.freed caller id)
    | none => (.error (.noSuchRule id), s) := by
  rw [releaseLock, on_bind, existing_on]
  cases s.existing? caller id <;> rfl

/-- The refusal of a change by somebody who does not hold the live lease. -/
def lockRefusal : Fault := .lockNotHeld id ((s.holder id).map (·.name))

theorem underLock_on (write : Attempt MemoryStore Unit) : (underLock caller id write).on s
    = if s.owner? id = some caller.userId then write.on s.tick
      else (.error (s.lockRefusal id), s.tick) := by
  have hnow : s.tick.leases.holder s.clock.now id = s.holder id := rfl
  rw [underLock, on_bind_ok (look_on s), on_bind_ok (on_get s.tick), LeaseTable.whileHeld, hnow,
    lockRefusal, owner?]
  cases s.holder id with
  | none => rfl
  | some h => by_cases ho : h.owner = caller.userId <;> simp [ho]

/-! ## Changing

An update counts the caller's lease anew and the other changes do not, so `renewedFor` stands in
`update_on` only. A creation takes two looks at the clock, one for the record and one for its lease.
-/

theorem setEnabled_on (enabled : Bool) :
    (setEnabled caller id enabled).on s = match s.existing? caller id with
      | some _ =>
        if s.owner? id = some caller.userId then
          (.ok (), s.tick.rewritten id fun content => { content with enabled })
        else (.error (s.lockRefusal id), s.tick)
      | none => (.error (.noSuchRule id), s) := by
  rw [setEnabled, on_bind, existing_on]
  cases s.existing? caller id with
  | none => rfl
  | some rule => exact underLock_on caller id s _

theorem deleteRecord_on : (deleteRecord caller id).on s = match s.existing? caller id with
    | some _ =>
      if s.owner? id = some caller.userId then (.ok (), s.tick.removed id)
      else (.error (s.lockRefusal id), s.tick)
    | none => (.error (.noSuchRule id), s) := by
  rw [deleteRecord, on_bind, existing_on]
  cases s.existing? caller id with
  | none => rfl
  | some rule =>
    show (underLock caller id _ >>= _).on s = _
    rw [on_bind, underLock_on]
    by_cases h : s.owner? id = some caller.userId
    · rw [if_pos h]
      simp only [h, if_true]
      rfl
    · simp only [h, if_false]

theorem update_on (content : RuleContent) :
    (update caller id content).on s = match s.existing? caller id with
      | some _ =>
        if s.owner? id = some caller.userId then
          (.ok id, (s.tick.rewritten id fun _ => content).renewedFor caller id)
        else (.error (s.lockRefusal id), s.tick)
      | none => (.error (.noSuchRule id), s) := by
  rw [update, on_bind, existing_on]
  cases s.existing? caller id with
  | none => rfl
  | some rule =>
    show (underLock caller id _ >>= _).on s = _
    rw [on_bind, underLock_on]
    by_cases h : s.owner? id = some caller.userId
    · simp only [h, if_true]
      rfl
    · simp only [h, if_false]

/-- A creation is refused for its name, and for nothing else. In particular no lease is asked for.
-/
theorem create_on (content : RuleContent) : (create caller content).on s
    = if s.hasNamesake content then (.error (nameTaken content), s)
      else (.ok s.nextId, s.added caller content) := by
  rw [create, on_bind_ok (on_get s)]
  cases s.hasNamesake content <;> rfl

/-- A form is checked first, whether or not it names a record: a form that is refused here has not
touched the store, not even its clock. -/
theorem saveRecord_on (form : RuleForm) : (saveRecord caller form).on s
    = match form.validate s.lineOrder, form.id with
      | .error f, _ => (.error f, s)
      | .ok (), some id => (update caller id form.content).on s
      | .ok (), none => (create caller form.content).on s := by
  rw [saveRecord, on_bind_ok (on_get s), on_bind, on_liftM]
  rcases form.validate s.lineOrder with _ | _
  · rfl
  · cases form.id <;> rfl

end MemoryStore
end Whitelist
