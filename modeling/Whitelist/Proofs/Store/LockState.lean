import Whitelist.Proofs.Store.Run

/-!
# The lock of a record as an automaton

Where leases never run out, all that the locks of a store do is a small automaton for each record.
It reads what was done, by whom and to which record, and nothing else: no table, no clock, no
entries that have to be swept away. This file shows that the store keeps exactly the states of these
automata, and that all ways of looking at a record show the same one.

## What is here

* `LockState`, `LockState.next` — the automaton of one record. `LockState.ofEvents` is its state
  after the events of a run.
* `lockState` — the state that a store keeps for a record, read off its tables.
* `Effect.lockState`, `lockState_after` — one step of the store, and then a run, is what the
  automaton makes of it.
* `Shows` — what a caller has to be shown of a state. `lock_refines_automaton` puts both together:
  the store is in the state of the automaton, and reads, rows and answers show it.

The automaton reads deeds, not steps, and that is where the work is. A call that was refused does
not move it, so `Effect`, which puts all refusals into `read`, is exactly what `Effect.lockState`
goes through. What is left in each case is one fact about the table of leases (`holder_acquire`,
`holder_release`, `holder_forget` and so on), and one about the table of records.

Without a term a live lease is the same as an entry (`LeaseTable.holder_eq_holder`), so the clock
drops out of every case. With a term this would not be true of any automaton that reads deeds only:
the lock of a record can then become free without anything being done.
-/

set_option autoImplicit false
namespace Whitelist
namespace MemoryStore

/-! ## The automaton

The holder is kept together with the name under which the lock was taken last. A caller who asks
again may have another name by then, and it is the newer one that others are shown. -/

/-- The lock of one record. -/
inductive LockState where
  /-- There is no record. -/
  | absent
  /-- Nobody holds the lock. -/
  | free
  /-- Somebody holds the lock and is shown to others under a name. -/
  | held (holder : LockHolder)
  deriving DecidableEq

namespace LockState

/-- The holder of the lock. -/
def holder? : LockState → Option LockHolder
  | held holder => some holder
  | _ => none

/-- The user who holds the lock. -/
def owner? (state : LockState) : Option String := state.holder?.map (·.owner)

/-- Held by a caller, under the name that the caller has now. -/
def heldBy (caller : Caller) : LockState := held ⟨caller.userId, caller.username⟩

/-- A request for the lock. Where locks stay with their holders, only a free one is given, and one
that is the caller's already. -/
def grabbed (policy : LockPolicy) (caller : Caller) (state : LockState) : LockState :=
  if policy = .grab ∨ state = free ∨ state.owner? = some caller.userId then heldBy caller else state

/-- A lock is given back by its holder only. -/
def released (caller : Caller) (state : LockState) : LockState :=
  if state.owner? = some caller.userId then free else state

/-- What is done to a record moves its lock. -/
def next (policy : LockPolicy) (id : Int64) (state : LockState) : Deed → LockState
  | .create caller i _ => if i = id then heldBy caller else state
  | .grab caller i => if i = id then state.grabbed policy caller else state
  | .release caller i => if i = id then state.released caller else state
  | .delete _ i => if i = id then absent else state
  | .enable .. => state
  | .update .. => state

/-- The state after the events of a run, in which there was no record at first. -/
def ofEvents (policy : LockPolicy) (id : Int64) (events : List Event) : LockState :=
  (deeds events).foldl (next policy id) absent

end LockState

/-- Where locks stay with their holders, what others do leaves a lock alone, unless the record is
deleted or a new one takes its place. -/
theorem LockState.next_held_of_other {id : Int64} {holder : LockHolder} {d : Deed}
    (hother : d.caller.userId ≠ holder.owner) (hdelete : ∀ caller, d ≠ .delete caller id)
    (hcreate : ∀ caller content, d ≠ .create caller id content) :
    (held holder).next .exclusive id d = held holder := by
  have howner (caller : Caller) (h : caller.userId ≠ holder.owner) :
      ¬ (held holder).owner? = some caller.userId :=
    fun he => h (Option.some_inj.mp he).symm
  cases d with
  | grab caller i =>
    have hkeep : (held holder).grabbed .exclusive caller = held holder := by
      rw [grabbed, if_neg]
      rintro (h | h | h)
      · cases h
      · cases h
      · exact howner caller hother h
    rw [next, hkeep, ite_self]
  | release caller i => rw [next, released, if_neg (howner caller hother), ite_self]
  | enable => rfl
  | update => rfl
  | delete caller i =>
    have hi : i ≠ id := fun hi => hdelete caller (by rw [hi])
    rw [next, if_neg hi]
  | create caller i content =>
    have hi : i ≠ id := fun hi => hcreate caller content (by rw [hi])
    rw [next, if_neg hi]

/-! ## The state that the store keeps

The store has no field for this state. `lockState` computes it from the two tables: a record that is
not stored is `absent`, whatever the table of leases may still say of its id. -/

/-- The state of a record with this holder. -/
def LockState.ofHolder? : Option LockHolder → LockState
  | none => free
  | some holder => held holder

@[simp] theorem LockState.owner?_ofHolder? (holder? : Option LockHolder) :
    (ofHolder? holder?).owner? = holder?.map (·.owner) := by
  cases holder? <;> rfl

/-- The state of the lock of a record, as the tables of a store have it. -/
def lockState (s : MemoryStore) (id : Int64) : LockState :=
  if (s.rules.find? id).isSome then .ofHolder? (s.holder id) else .absent

variable {s t : MemoryStore} {step : Step} {deed : Option Deed} {id : Int64}

/-- The state depends on two things only, whether the record is stored and who holds its lease. -/
theorem lockState_congr (hrules : (t.rules.find? id).isSome = (s.rules.find? id).isSome)
    (hholder : t.holder id = s.holder id) : t.lockState id = s.lockState id := by
  rw [lockState, lockState, hrules, hholder]

theorem isSome_find?_modify (rules : Table StoredRule) (i : Int64) (f : StoredRule → StoredRule) :
    ((rules.modify i f).find? id).isSome = (rules.find? id).isSome := by
  rw [Table.find?_modify]
  split
  · rename_i h
    rw [h, Option.isSome_map]
  · rfl

theorem lockState_eq_of_stored {rule : StoredRule} (h : s.rules.find? id = some rule) :
    s.lockState id = .ofHolder? (s.holder id) := by
  rw [lockState, h]
  rfl

theorem holder_of_lockState {holder : LockHolder} (h : s.lockState id = .held holder) :
    s.holder id = some holder := by
  rw [lockState] at h
  split at h
  · cases hh : s.holder id with
    | none => rw [hh] at h; cases h
    | some h' => rw [hh] at h; cases h; rfl
  · cases h

/-- What a request for a live lease comes to is what the automaton says. -/
theorem grabbed_ofHolder? (policy : LockPolicy) (caller : Caller) (holder? : Option LockHolder) :
    (LockState.ofHolder? holder?).grabbed policy caller
      = .ofHolder? (match policy, holder? with
        | .exclusive, some h =>
          if h.owner = caller.userId then some ⟨caller.userId, caller.username⟩ else some h
        | _, _ => some ⟨caller.userId, caller.username⟩) := by
  rw [LockState.grabbed]
  cases policy with
  | grab => simp [LockState.ofHolder?, LockState.heldBy]
  | exclusive =>
    cases holder? with
    | none => simp [LockState.ofHolder?, LockState.heldBy]
    | some h =>
      by_cases ho : h.owner = caller.userId <;>
        simp [LockState.ofHolder?, LockState.heldBy, LockState.owner?, LockState.holder?, ho]

/-- What giving a live lease back comes to is what the automaton says. -/
theorem released_ofHolder? (caller : Caller) (holder? : Option LockHolder) :
    (LockState.ofHolder? holder?).released caller
      = .ofHolder? (match holder? with
        | some h => if h.owner = caller.userId then none else some h
        | none => none) := by
  rw [LockState.released]
  cases holder? with
  | none => simp [LockState.ofHolder?, LockState.owner?, LockState.holder?]
  | some h =>
    by_cases ho : h.owner = caller.userId <;>
      simp [LockState.ofHolder?, LockState.owner?, LockState.holder?, ho]

/-- **One step of the store is one move of the automaton.** -/
theorem Effect.lockState (h : Effect s step deed t) (hterm : s.leases.term = none) (id : Int64) :
    t.lockState id = deed.elim (s.lockState id) ((s.lockState id).next s.leases.policy id) := by
  cases h with
  | read looks =>
    refine lockState_congr (by simp) ?_
    rw [holder, iterate_tick_leases]
    exact LeaseTable.holder_eq_holder hterm ..
  | @grabbed caller i rule hreq hseen =>
    have hstored := find?_of_existing? hseen
    by_cases hi : i = id
    · subst hi
      show _ = ((s.lockState i).next s.leases.policy i (.grab caller i))
      rw [LockState.next, if_pos rfl, lockState_eq_of_stored hstored, grabbed_ofHolder?,
        lockState_eq_of_stored (by exact hstored)]
      exact congrArg _ (LeaseTable.holder_acquire hterm)
    · show _ = ((s.lockState id).next s.leases.policy id (.grab caller i))
      rw [LockState.next, if_neg hi]
      refine lockState_congr rfl ?_
      exact (LeaseTable.holder_acquire_of_ne (Ne.symm hi)).trans
        (LeaseTable.holder_eq_holder hterm ..)
  | @released caller i rule hreq hseen =>
    have hstored := find?_of_existing? hseen
    by_cases hi : i = id
    · subst hi
      show _ = ((s.lockState i).next s.leases.policy i (.release caller i))
      rw [LockState.next, if_pos rfl, lockState_eq_of_stored hstored, released_ofHolder?,
        lockState_eq_of_stored (by exact hstored)]
      exact congrArg _ (LeaseTable.holder_release hterm)
    · show _ = ((s.lockState id).next s.leases.policy id (.release caller i))
      rw [LockState.next, if_neg hi]
      exact lockState_congr rfl (LeaseTable.holder_release_of_ne (Ne.symm hi))
  | enabled =>
    exact lockState_congr (isSome_find?_modify ..) (LeaseTable.holder_eq_holder hterm ..)
  | updated =>
    refine lockState_congr (isSome_find?_modify ..) ?_
    exact (LeaseTable.holder_renew (t := s.leases) hterm).trans
      (LeaseTable.holder_eq_holder hterm ..)
  | @deleted caller i =>
    show _ = ((s.lockState id).next s.leases.policy id (.delete caller i))
    by_cases hi : i = id
    · subst hi
      rw [LockState.next, if_pos rfl, MemoryStore.lockState, removed_rules, Table.find?_erase,
        if_pos rfl]
      rfl
    · rw [LockState.next, if_neg hi]
      refine lockState_congr ?_ ?_
      · rw [removed_rules, Table.find?_erase, if_neg (Ne.symm hi)]
        rfl
      · exact (LeaseTable.holder_forget_of_ne (Ne.symm hi)).trans
          (LeaseTable.holder_eq_holder hterm ..)
  | @created caller content =>
    show _ = ((s.lockState id).next s.leases.policy id (.create caller s.nextId content))
    by_cases hi : s.nextId = id
    · subst hi
      have hstored : (s.added caller content).rules.find? s.nextId
          = some (s.newRule caller content) := by
        rw [added_rules, Table.find?_insert, if_pos rfl]
      rw [LockState.next, if_pos rfl, lockState_eq_of_stored hstored]
      exact congrArg _ (LeaseTable.holder_assign hterm ..)
    · rw [LockState.next, if_neg hi]
      refine lockState_congr ?_ ?_
      · rw [added_rules, Table.find?_insert, if_neg (Ne.symm hi)]
      · exact (LeaseTable.holder_assign_of_ne (Ne.symm hi)).trans
          (LeaseTable.holder_eq_holder hterm ..)
  | namedRule => rfl
  | namedTenant => rfl
  | purged => exact lockState_congr rfl (LeaseTable.holder_purge hterm)
  | renewed => exact lockState_congr rfl (LeaseTable.holder_renew hterm)
  | elapsed => exact lockState_congr rfl (LeaseTable.holder_eq_holder hterm ..)
  | reordered => exact lockState_congr rfl rfl

/-! ## Whole runs

The induction starts at any store, with the automaton in the state of that store.
`Run.lockState_store` is the case of the empty store, where the automaton starts at `absent`. -/

theorem lockState_after (s : MemoryStore) (hterm : s.leases.term = none) (steps : List Step)
    (id : Int64) : (s.after steps).lockState id
      = (deeds (s.history steps)).foldl (LockState.next s.leases.policy id) (s.lockState id) := by
  induction steps generalizing s with
  | nil => rfl
  | cons step rest ih =>
    have heffect := step.effect s
    obtain ⟨hpolicy', hterm'⟩ := heffect.settings
    rw [after_cons, ih _ (hterm'.trans hterm), heffect.lockState hterm, hpolicy',
      deeds_history_cons]
    cases (step.event s).deed? <;> rfl

theorem Run.lockState_store (run : Run) (h : run.NeverExpires) (id : Int64) :
    run.store.lockState id = .ofEvents run.policy id run.events := by
  have hterm : (start run.policy run.term run.clock).leases.term = none :=
    Run.term_store { run with steps := [] } h
  exact lockState_after _ hterm run.steps id

/-! ## What callers are shown

`LockStatus` is what the program shows: a flag and a name. `Shows` says of both when they are right,
separately for the holder, for others while the lock is held, and for a free lock. -/

/-- What a caller is to be shown of a lock. -/
structure Shows (caller : Caller) (state : LockState) (lock : LockStatus) : Prop where
  /-- The caller is told to hold the lock exactly where that is so. -/
  mine : lock.isLockHolder = true ↔ state.owner? = some caller.userId
  /-- A caller who holds the lock is shown the name that the caller has now. -/
  own : state.owner? = some caller.userId → lock.holderName = some caller.username
  /-- Anybody else is shown the name under which the holder last took the lock. -/
  others : ∀ holder, state = .held holder → holder.owner ≠ caller.userId →
    lock.holderName = some holder.name
  /-- Where nobody holds the lock, no name is shown. -/
  nobody : state = .free → lock.holderName = none

/-- What `lockFor` makes of a live lease is right for every caller. -/
theorem shows_lockFor (caller : Caller) (holder? : Option LockHolder) :
    Shows caller (.ofHolder? holder?) (lockFor caller holder?) := by
  cases holder? with
  | none =>
    exact ⟨⟨nofun, nofun⟩, nofun, nofun, fun _ => rfl⟩
  | some holder =>
    have hstate : LockState.ofHolder? (some holder) = .held holder := rfl
    rw [lockFor, hstate]
    split
    · rename_i ho
      refine ⟨⟨fun _ => congrArg some ho, fun _ => rfl⟩, fun _ => rfl, ?_, nofun⟩
      rintro _ ⟨⟩ hother
      exact absurd ho hother
    · rename_i ho
      refine ⟨⟨nofun, fun h => ?_⟩, fun h => ?_, ?_, nofun⟩
      · exact absurd (Option.some_inj.mp h) ho
      · exact absurd (Option.some_inj.mp h) ho
      · rintro _ ⟨⟩ -
        rfl

theorem shows_of_stored {rule : StoredRule} (caller : Caller) (h : s.rules.find? id = some rule) :
    Shows caller (s.lockState id) (lockFor caller (s.holder id)) := by
  rw [lockState_eq_of_stored h]
  exact shows_lockFor caller (s.holder id)

/-- A record that is read shows the state of the store it is read from. -/
theorem getRecord_shows {caller : Caller} {rule : StoredRule}
    (hseen : s.existing? caller id = some rule) :
    ∃ record, ((getRecord caller id).on s).1 = .ok record ∧ record.id = id
      ∧ Shows caller (s.lockState id) record.lock := by
  rw [getRecord_on, hseen]
  exact ⟨_, rfl, id_of_existing? hseen, shows_of_stored caller (find?_of_existing? hseen)⟩

/-- The answer to a request for the lock shows the state after it. -/
theorem grabLock_shows (hterm : s.leases.term = none) {caller : Caller} {rule : StoredRule}
    (hseen : s.existing? caller id = some rule) :
    ∃ status, ((grabLock caller id).on s).1 = .ok status
      ∧ Shows caller (((grabLock caller id).on s).2.lockState id) status := by
  rw [grabLock_on, hseen]
  have hstored := find?_of_existing? hseen
  have hlater : (s.granted caller id).tick.holder id = (s.granted caller id).holder id :=
    LeaseTable.holder_eq_holder (LeaseTable.acquire_term.trans hterm) ..
  refine ⟨_, rfl, ?_⟩
  rw [← hlater]
  exact shows_of_stored caller hstored

/-- A listing goes through the very records that calls by id can reach. -/
theorem mem_visible_iff {caller : Caller} {rule : StoredRule} :
    (id, rule) ∈ s.visible caller ↔ s.existing? caller id = some rule := by
  rw [existing?_eq_some_iff, ← Table.mem_entries_iff, visible, List.mem_reverse, List.mem_filter]

theorem id_of_mem_visible {caller : Caller} {e : Int64 × StoredRule} (he : e ∈ s.visible caller) :
    e.2.id = e.1 :=
  id_of_existing? (mem_visible_iff.mp he)

/-- Time passes from row to row of a listing, but every row shows the lock as it was at first. -/
theorem listRecords_shows (hterm : s.leases.term = none) (caller : Caller) (query : RecordQuery)
    (page size : UInt64) :
    ∃ rows, ((listRecords caller query page size).on s).1 = .ok rows
      ∧ ∀ row ∈ rows.items, Shows caller (s.lockState row.id) row.lock := by
  rw [listRecords_on]
  split
  · exact ⟨_, rfl, fun row hrow => absurd hrow List.not_mem_nil⟩
  · refine ⟨_, rfl, fun row hrow => ?_⟩
    obtain ⟨looks, e, he, rfl⟩ := mem_rows caller (List.mem_filter.mp (mem_of_mem_paginate hrow)).1
    have hfirst : (tick^[looks] s).holder e.2.id = s.holder e.2.id := by
      rw [holder, iterate_tick_leases]
      exact LeaseTable.holder_eq_holder hterm ..
    have hstored : s.rules.find? e.2.id = some e.2 := by
      rw [id_of_mem_visible he]
      exact find?_of_existing? (mem_visible_iff.mp he)
    rw [hfirst]
    exact shows_of_stored caller hstored

/-- **The locks of a store are one small automaton for each record.** Where leases never run out,
the store keeps the state that the automaton is in after the events of the run; and whatever a
caller reads, rows and answers to requests for the lock included, shows that state. -/
theorem lock_refines_automaton (run : Run) (hterm : run.NeverExpires) :
    (∀ id, run.store.lockState id = .ofEvents run.policy id run.events)
      ∧ (∀ caller id rule, run.store.existing? caller id = some rule →
        (∃ record, ((getRecord caller id).on run.store).1 = .ok record ∧ record.id = id
          ∧ Shows caller (.ofEvents run.policy id run.events) record.lock)
        ∧ ∃ status, ((grabLock caller id).on run.store).1 = .ok status
          ∧ Shows caller (.ofEvents run.policy id
            (run.followedBy [.ask caller (.grabLock id)]).events) status)
      ∧ ∀ caller query page size,
        ∃ rows, ((listRecords caller query page size).on run.store).1 = .ok rows
          ∧ ∀ row ∈ rows.items,
            Shows caller (.ofEvents run.policy row.id run.events) row.lock := by
  have hnone := run.term_store hterm
  refine ⟨run.lockState_store hterm, fun caller id rule hseen => ⟨?_, ?_⟩, ?_⟩
  · rw [← run.lockState_store hterm]
    exact getRecord_shows hseen
  · have hafter := (run.followedBy [.ask caller (.grabLock id)]).lockState_store hterm id
    rw [Run.store_followedBy] at hafter
    obtain ⟨status, hstatus, hshows⟩ := grabLock_shows hnone hseen
    exact ⟨status, hstatus, hafter ▸ hshows⟩
  · intro caller query page size
    obtain ⟨rows, hrows, hshows⟩ := listRecords_shows hnone caller query page size
    exact ⟨rows, hrows, fun row hrow => run.lockState_store hterm row.id ▸ hshows row hrow⟩

/-- Where locks stay with their holders, asking for Alice's lock does not move it. -/
theorem lock_refines_automaton_exclusive :
    ((drafted .exclusive).followedBy [.ask bob (.grabLock 1)]).NeverExpires
      ∧ ((drafted .exclusive).followedBy [.ask bob (.grabLock 1)]).store.lockState 1
        = .heldBy alice := by
  have hterm : ((drafted .exclusive).followedBy [.ask bob (.grabLock 1)]).NeverExpires := .inl rfl
  exact ⟨hterm, ((lock_refines_automaton _ hterm).1 1).trans (by decide)⟩

end MemoryStore
end Whitelist
