import Whitelist.Proofs.Store.Ids
import Whitelist.Proofs.Store.LockState

/-!
# The lifetime of a record

A record comes into being under the next id and with a lease, and when it is deleted its lease goes
with it. Up to the largest id that words of 64 bits have room for, ids only grow. So what is said of
an id is said of one record, whatever becomes of it: nobody who still holds a snapshot of a deleted
record, or who held its lease, ever meets another record in its place.

## What is here

* `createdIds` — the ids that creations were answered with; `IdsIssued.createdIds_history` says
  that they are issued one after the other.
* `Leased` — all leases are those of stored records.
* `KeyedById` — what is stored and what is read under an id has that id. It rests on
  `MemoryStore.keyed`, which a store carries and each call that writes records proves anew.
* `Gone` — all that a caller can learn of a record that is there no more.
* `IdsIssued.absent_after` — a deleted record stays away for the rest of the run.
* `record_lifetimes` — the statements on runs.

Of the statements in `record_lifetimes` some are invariants and some are about histories. `Leased`
and `IdsIssued` hold of every store of a run, by `holds_after` and by counting creations. That ids
grow, and that a deleted record stays away, is said of the events: the former follows from the
equation `Run.createdIds_events`, which gives the ids of a run outright; the latter goes by
induction from the deletion on, where `Effect.changes` leaves a creation under the same id as the
only way back.
-/

set_option autoImplicit false
namespace Whitelist

/-- The record that a call is about, where it is about one. -/
def StoreCall.subject? : StoreCall → Option Int64
  | .grabLock id | .releaseLock id | .getRecord id | .setEnabled id _ | .deleteRecord id => some id
  | .saveRecord form => form.id
  | _ => none

/-- What is wrong with a call in itself; only the form of a save can be wrong. -/
def StoreCall.check : StoreCall → Except FormError Unit
  | .saveRecord form => form.check
  | _ => .ok ()

namespace MemoryStore

variable {n k : Nat} {s t : MemoryStore} {step : Step} {deed : Option Deed} {id : Int64}

/-! ## Ids in order

Words of 64 bits are signed here, so `issued` grows only up to `2 ^ 63 - 1`. From there on it is the
negative ids, which come out in increasing order too, but below all that were issued before. -/

theorem toInt_issued (hn : n + 1 < 2 ^ 63) : (issued n).toInt = n + 1 :=
  (Int64.toInt_ofNat_of_lt hn).trans (Int.natCast_succ n)

/-- An id that is issued later is larger. -/
theorem issued_lt (hk : k < n) (hn : n + 1 < 2 ^ 63) : issued k < issued n := by
  rw [Int64.lt_iff_toInt_lt, toInt_issued hn, toInt_issued (by omega)]
  omega

theorem one_le_issued (hk : k + 1 < 2 ^ 63) : 1 ≤ issued k := by
  rw [Int64.le_iff_toInt_le, toInt_issued hk]
  show (1 : Int) ≤ k + 1
  omega

/-- The id of a record that was created. -/
def Deed.createdId? : Deed → Option Int64
  | create _ id _ => some id
  | _ => none

/-- The ids of the records that were created in a run, in order. -/
def createdIds (events : List Event) : List Int64 := (deeds events).filterMap Deed.createdId?

theorem Effect.createdId (h : Effect s step deed t) (hs : IdsIssued n s) :
    deed.toList.filterMap Deed.createdId?
      = (List.range' n (deed.toList.countP Deed.isCreation)).map issued := by
  cases deed with
  | none => rfl
  | some d =>
    cases d with
    | create caller id content =>
      rw [h.created_id, hs.next]
      rfl
    | _ => rfl

/-- The ids of a run are issued one after the other. -/
theorem IdsIssued.createdIds_history (hs : IdsIssued n s) (steps : List Step) :
    createdIds (s.history steps)
      = (List.range' n (creations (s.history steps))).map issued := by
  induction steps generalizing n s with
  | nil => rfl
  | cons step rest ih =>
    have heffect := step.effect s
    have hrest := ih (heffect.idsIssued hs)
    rw [createdIds] at hrest ⊢
    rw [deeds_history_cons, List.filterMap_append, hrest, heffect.createdId hs, ← List.map_append,
      List.range'_append_1, creations_history_cons]

theorem Run.createdIds_events (run : Run) :
    createdIds run.events = (List.range (creations run.events)).map issued := by
  rw [List.range_eq_range']
  exact (idsIssued_start run.policy run.term run.clock).createdIds_history run.steps

theorem pairwise_issued (hn : n < 2 ^ 63) : ((List.range n).map issued).Pairwise (· < ·) := by
  rw [List.pairwise_map]
  refine List.pairwise_lt_range.imp_of_mem fun {i j} _ hj hij => ?_
  have := List.mem_range.mp hj
  exact issued_lt hij (by omega)

/-! ## Leases and records

The table of leases is not typed by the records that exist, so that no lease is left behind has to
be proved. Each call that adds an entry has seen the record (`hseen` in `Effect.grabbed`), or is
just about to store it (`Effect.created`). -/

/-- Every entry in the table of leases is that of a stored record. -/
def Leased (s : MemoryStore) : Prop :=
  ∀ id, (s.leases.leases.find? id).isSome → (s.rules.find? id).isSome

/-- Where a step adds no entry and takes no record away, all leases are still those of records. -/
theorem Leased.mono (hs : Leased s)
    (hleases : ∀ id, (t.leases.leases.find? id).isSome → (s.leases.leases.find? id).isSome)
    (hrules : ∀ id, (t.rules.find? id).isSome = (s.rules.find? id).isSome) : Leased t :=
  fun id hid => (hrules id).trans (hs id (hleases id hid))

theorem isSome_find?_renew {leases : LeaseTable} {now : Nat} {i : Int64} {owner : String} :
    ((leases.renew now i owner).2.leases.find? id).isSome = (leases.leases.find? id).isSome := by
  rw [← Option.isSome_map, LeaseTable.map_holder_renew, Option.isSome_map]

/-- A lease is given only for a record that is there, and a record takes its lease with it. -/
theorem Effect.leased (h : Effect s step deed t) (hs : Leased s) : Leased t := by
  cases h with
  | read looks => exact hs.mono (by simp) (by simp)
  | @grabbed caller i rule hreq hseen =>
    have hstored := find?_of_existing? hseen
    intro id hid
    show (s.rules.find? id).isSome
    rw [tick_leases, granted_leases] at hid
    rcases s.leases.acquire_cases s.clock.now i caller.userId caller.username with he | he
    · rw [he] at hid
      exact hs id hid
    · rw [he, LeaseTable.assign, Table.find?_insert] at hid
      split at hid
      · rename_i hi
        rw [hi, hstored]
        rfl
      · exact hs id hid
  | @released caller i =>
    refine hs.mono (fun id hid => ?_) fun _ => rfl
    rw [freed_leases] at hid
    rcases s.leases.release_cases i caller.userId with he | he <;> rw [he] at hid
    · exact hid
    · rw [LeaseTable.forget, Table.find?_erase] at hid
      split at hid
      · cases hid
      · exact hid
  | enabled => exact hs.mono (fun _ hid => hid) fun _ => isSome_find?_modify ..
  | updated =>
    refine hs.mono (fun id hid => ?_) fun _ => isSome_find?_modify ..
    rwa [renewedFor_leases, isSome_find?_renew] at hid
  | @deleted caller i =>
    intro id hid
    rw [removed_leases, LeaseTable.forget, Table.find?_erase] at hid
    rw [removed_rules, Table.find?_erase]
    split at hid
    · cases hid
    · rename_i hi
      rw [if_neg hi]
      exact hs id hid
  | @created caller content =>
    intro id hid
    rw [added_leases, LeaseTable.assign, Table.find?_insert] at hid
    rw [added_rules, Table.find?_insert]
    split at hid
    · rename_i hi
      rw [if_pos hi]
      rfl
    · rename_i hi
      rw [if_neg hi]
      exact hs id hid
  | namedRule => exact hs
  | namedTenant => exact hs
  | purged =>
    refine hs.mono (fun id hid => ?_) fun _ => rfl
    show (s.leases.leases.find? id).isSome
    have hkept : ((s.leases.purge s.clock.now).2.leases.find? id).isSome := hid
    rw [LeaseTable.purge, Table.find?_keep] at hkept
    obtain ⟨lease, hlease⟩ := Option.isSome_iff_exists.mp hkept
    rw [(Option.filter_eq_some_iff.mp hlease).1]
    rfl
  | renewed _ i owner =>
    refine hs.mono (fun id hid => ?_) fun _ => rfl
    rwa [renewLease, isSome_find?_renew] at hid
  | elapsed => exact hs
  | reordered => exact hs

/-- No run leaves a lease without its record. -/
theorem Run.leased (run : Run) : Leased run.store := by
  have hstart : Leased (start run.policy run.term run.clock) := fun _ h => by cases h
  exact holds_after hstart (fun t step => (step.effect t).leased) run.steps

/-! ## Records under their ids -/

/-- Whatever is stored, read or listed is under its own id: a record that is kept under an id, or
asked for by one, has that id, and a row is the record that is stored under the id in the row. -/
structure KeyedById (s : MemoryStore) : Prop where
  stored : ∀ id rule, s.rules.find? id = some rule → rule.id = id
  read : ∀ caller id record, ((getRecord caller id).on s).1 = .ok record → record.id = id
  listed : ∀ caller query page size rows, ((listRecords caller query page size).on s).1 = .ok rows →
    ∀ row ∈ rows.items, ∃ rule, s.existing? caller row.id = some rule
      ∧ row = s.record rule row.lock

/-- This holds of every store, not of those of runs only, for a store cannot be built otherwise. -/
theorem keyedById (s : MemoryStore) : KeyedById s where
  stored id rule h := s.keyed.of_find? h
  read caller id record h := by
    obtain ⟨rule, hseen, rfl⟩ := getRecord_eq_ok_iff.mp h
    exact id_of_existing? hseen
  listed caller query page size rows h row hrow := by
    rw [listRecords_on] at h
    split at h
    · cases h
      cases hrow
    · cases h
      have hmem := (List.mem_filter.mp (mem_of_mem_paginate hrow)).1
      obtain ⟨looks, e, he, rfl⟩ := mem_rows caller hmem
      have hseen := mem_visible_iff.mp he
      rw [← id_of_mem_visible he] at hseen
      exact ⟨e.2, hseen, rfl⟩

/-! ## After a deletion

`Gone` is about every caller and every call that names the record, those of its former holder and of
callers with an old snapshot included. That a call is refused as `noSuchRule` supposes that its form
passes; one that does not is refused for that, earlier. -/

/-- What there is to be learnt of a record that is there no more: no caller finds it, whatever is
asked of it, and nobody holds its lease. -/
structure Gone (id : Int64) (s : MemoryStore) : Prop where
  notFound : ∀ caller call, call.subject? = some id → call.check = .ok () →
    ((session caller).answer call).on s = (.error (.noSuchRule id), s)
  holder : ∀ now, s.leases.holder now id = none

/-- It is enough that the record is not stored: with `Leased`, nobody then holds its lease. -/
theorem gone_of_absent (hs : Leased s) (habsent : s.rules.find? id = none) : Gone id s where
  notFound caller call hsubject hcheck := by
    have hunseen : s.existing? caller id = none := by
      rw [existing?, habsent]
      rfl
    cases call with
    | grabLock i =>
      cases hsubject
      exact (grabLock_on caller id s).trans (by rw [hunseen])
    | releaseLock i =>
      cases hsubject
      exact (releaseLock_on caller id s).trans (by rw [hunseen])
    | getRecord i =>
      cases hsubject
      exact (getRecord_on caller id s).trans (by rw [hunseen])
    | setEnabled i enabled =>
      cases hsubject
      exact (setEnabled_on caller id s enabled).trans (by rw [hunseen])
    | deleteRecord i =>
      cases hsubject
      exact (deleteRecord_on caller id s).trans (by rw [hunseen])
    | saveRecord form =>
      have hvalid : form.validate s.lineOrder = .ok () := RuleForm.validate_of_check hcheck _
      have hid : form.id = some id := hsubject
      refine (saveRecord_on caller s form).trans ?_
      rw [hvalid, hid]
      exact (update_on caller id s form.content).trans (by rw [hunseen])
    | listRecords query page size => cases hsubject
    | listGroups query page size => cases hsubject
    | operators => cases hsubject
  holder now := by
    have hnone : s.leases.leases.find? id = none := by
      by_contra hne
      have hstored := hs id (Option.isSome_iff_ne_none.mpr hne)
      rw [habsent] at hstored
      cases hstored
    rw [LeaseTable.holder, LeaseTable.live?, hnone]
    rfl

/-- No step brings a deleted record back: the id of a new one is another. -/
theorem Effect.absent (h : Effect s step deed t) (hs : IdsIssued n s) (hk : k < n)
    (hn : n < 2 ^ 64) (habsent : s.rules.find? (issued k) = none) :
    t.rules.find? (issued k) = none := by
  by_contra hne
  rw [← habsent] at hne
  rcases h.changes hne with ⟨caller, call, rule, -, -, hseen, -⟩ | ⟨caller, content, -, -, hid⟩
  · rw [existing?, habsent] at hseen
    cases hseen
  · rw [hs.next] at hid
    exact issued_ne hk hn hid

/-- A record that is not stored, though its id was issued, is not stored later. -/
theorem IdsIssued.absent_after {steps : List Step} (hs : IdsIssued n s) (hk : k < n)
    (hn : n + creations (s.history steps) < 2 ^ 64)
    (habsent : s.rules.find? (issued k) = none) :
    (s.after steps).rules.find? (issued k) = none := by
  induction steps generalizing n s with
  | nil => exact habsent
  | cons step rest ih =>
    rw [creations_history_cons] at hn
    rw [after_cons]
    have heffect := step.effect s
    exact ih (heffect.idsIssued hs) (Nat.lt_add_right _ hk) (by omega)
      (heffect.absent hs hk (by omega) habsent)

/-- A deletion was of a stored record, and leaves none. -/
theorem Effect.of_delete {caller : Caller} (h : Effect s step (some (.delete caller id)) t) :
    (∃ rule, s.rules.find? id = some rule) ∧ t.rules.find? id = none := by
  cases h with
  | deleted hreq hseen howner =>
    refine ⟨⟨_, find?_of_existing? hseen⟩, ?_⟩
    rw [removed_rules, Table.find?_erase, if_pos rfl]

/-- **A deletion is final.** Once a record was deleted, it is gone for the rest of the run. -/
theorem Run.gone_of_deleted {before : Run} {rest : List Step} {caller : Caller}
    (hfew : creations (before.followedBy (step :: rest)).events < 2 ^ 64)
    (hdeed : (step.event before.store).deed? = some (.delete caller id)) :
    Gone id (before.followedBy (step :: rest)).store := by
  have heffect := step.effect before.store
  have hids := heffect.idsIssued before.idsIssued
  rw [hdeed] at heffect
  obtain ⟨⟨rule, hstored⟩, habsent⟩ := heffect.of_delete
  obtain ⟨k, hk, rfl⟩ := before.idsIssued.stored _ _ hstored
  refine gone_of_absent (Run.leased _) ?_
  rw [Run.events_followedBy, creations_append, creations_history_cons] at hfew
  rw [Run.store_followedBy, after_cons]
  exact hids.absent_after (Nat.lt_add_right _ hk) (by omega) habsent

/-! ## Whole runs -/

/-- **Ids, leases and deletions in a run** that creates fewer than `2 ^ 63 - 1` records. Records are
under their own ids, which are positive and have all been issued; leases are those of records; ids
grow from one creation to the next; and a record that was deleted is gone for good. -/
theorem record_lifetimes (run : Run) (hfew : creations run.events < 2 ^ 63 - 1) :
    KeyedById run.store
      ∧ (∀ id rule, run.store.rules.find? id = some rule → 1 ≤ id ∧ id < run.store.nextId)
      ∧ Leased run.store
      ∧ (createdIds run.events).Pairwise (· < ·)
      ∧ ∀ (before : Run) (step : Step) (rest : List Step) (caller : Caller) (id : Int64),
        run = before.followedBy (step :: rest) →
        (step.event before.store).deed? = some (.delete caller id) → Gone id run.store := by
  refine ⟨keyedById _, fun id rule hstored => ?_, run.leased, ?_, ?_⟩
  · obtain ⟨k, hk, rfl⟩ := run.idsIssued.stored _ _ hstored
    rw [run.idsIssued.next]
    exact ⟨one_le_issued (by omega), issued_lt hk (by omega)⟩
  · rw [run.createdIds_events]
    exact pairwise_issued (by omega)
  · rintro before step rest caller id rfl hdeed
    exact Run.gone_of_deleted (by omega) hdeed

/-- Alice deletes her record, and Bob, who knows of it, asks for its lease. -/
theorem record_lifetimes_deleted :
    creations ((drafted .grab).followedBy [.ask alice (.deleteRecord 1)]).events < 2 ^ 63 - 1
      ∧ ((Step.ask alice (.deleteRecord 1)).event (drafted .grab).store).deed?
        = some (.delete alice 1)
      ∧ (grabLock bob 1).on ((drafted .grab).followedBy [.ask alice (.deleteRecord 1)]).store
        = (.error (.noSuchRule 1),
          ((drafted .grab).followedBy [.ask alice (.deleteRecord 1)]).store) := by
  have hfew : creations ((drafted .grab).followedBy [.ask alice (.deleteRecord 1)]).events
      < 2 ^ 63 - 1 := by decide
  have hdeed : ((Step.ask alice (.deleteRecord 1)).event (drafted .grab).store).deed?
      = some (.delete alice 1) := by decide
  obtain ⟨-, -, -, -, hgone⟩ := record_lifetimes _ hfew
  exact ⟨hfew, hdeed, (hgone _ _ _ _ _ rfl hdeed).notFound bob (.grabLock 1) rfl rfl⟩

end MemoryStore
end Whitelist
