import Whitelist.Proofs.Store.Run

/-!
# The ids of records

Ids are issued in order from 1 and are words of 64 bits. Up to the largest number of records that
such words can tell apart, a new record therefore never takes the place of a stored one.

## What is here

* `issued` — the id that a creation is answered with, by the number of creations before it.
* `IdsIssued` — so many ids have been issued, and no record has any other.
* `Run.idsIssued` — a run issues as many ids as it creates records.
* `Run.reissued` — an id is issued again only after all others.
* `Turned`, `exhausted` — a run that issues them all while one record is kept.
* `Turned.reissue_on`, `Turned.overwritten` — the next creation is given the id of that record, and
  takes its place, whoever holds its lease.

A statement about ids thus needs a bound on the creations of a run, and the second half of the file
shows that the bound is not an artefact of the proof. Nobody can write down a run of `2 ^ 64`
creations, but it can be built by recursion (`turnovers`), and `Turned` is the invariant that says
what each round of it leaves. So `exhausted` is a run like any other, about which theorems are
proved without its ever being carried out.
-/

set_option autoImplicit false
namespace Whitelist
namespace MemoryStore

/-- The id that is issued after so many others. -/
def issued (n : Nat) : Int64 := .ofNat (n + 1)

/-- The counter of the store goes on in the same way. -/
theorem issued_succ (n : Nat) : issued (n + 1) = issued n + 1 :=
  Int64.toBitVec_inj.mp (by simp [issued])

/-- Of two equal ids, one was issued at least `2 ^ 64` times later. -/
theorem le_of_issued_eq {k n : Nat} (hk : k < n) (h : issued k = issued n) : 2 ^ 64 ≤ n := by
  have hmod := congrArg (fun id => id.toBitVec.toNat) h
  simp only [issued, Int64.toBitVec_ofNat', BitVec.toNat_ofNat] at hmod
  omega

/-- So many ids have been issued, and no record is stored under any other. -/
structure IdsIssued (n : Nat) (s : MemoryStore) : Prop where
  next : s.nextId = issued n
  stored : ∀ id rule, s.rules.find? id = some rule → ∃ k < n, id = issued k

variable {n : Nat} {s t : MemoryStore} {step : Step} {deed : Option Deed}

/-- Where a step leaves the next id alone and adds no record, the ids are those from before. -/
theorem IdsIssued.mono (hs : IdsIssued n s) (hnext : t.nextId = s.nextId)
    (hrules : ∀ id, (t.rules.find? id).isSome → (s.rules.find? id).isSome) : IdsIssued n t where
  next := hnext.trans hs.next
  stored id rule h := by
    obtain ⟨r, hr⟩ := Option.isSome_iff_exists.mp (hrules id (by rw [h]; rfl))
    exact hs.stored id r hr

/-- A creation issues one id, and nothing else issues any. -/
theorem Effect.idsIssued (h : Effect s step deed t) (hs : IdsIssued n s) :
    IdsIssued (n + deed.toList.countP Deed.isCreation) t := by
  have kept {u : MemoryStore} {i : Int64} {f : StoredRule → StoredRule}
      (hnext : u.nextId = s.nextId) (hrules : u.rules = s.rules.modify i f) : IdsIssued n u :=
    hs.mono hnext fun id hid => by
      rw [hrules, Table.find?_modify] at hid
      split at hid
      · rename_i hi
        rwa [hi, ← Option.isSome_map]
      · exact hid
  cases h with
  | read looks => exact hs.mono (by simp) fun id hid => by simpa using hid
  | grabbed => exact hs.mono rfl fun _ hid => hid
  | released => exact hs.mono rfl fun _ hid => hid
  | enabled => exact kept rfl rfl
  | updated => exact kept rfl rfl
  | deleted =>
    refine hs.mono rfl fun id hid => ?_
    rw [removed_rules, Table.find?_erase] at hid
    split at hid
    · cases hid
    · exact hid
  | created =>
    refine ⟨?_, fun id rule hid => ?_⟩
    · show s.nextId + 1 = issued (n + 1)
      rw [hs.next, issued_succ]
    · rw [added_rules, Table.find?_insert] at hid
      split at hid
      · rename_i hi
        exact ⟨n, Nat.lt_succ_self n, hi.trans hs.next⟩
      · obtain ⟨k, hk, rfl⟩ := hs.stored id rule hid
        exact ⟨k, Nat.lt_succ_of_lt hk, rfl⟩
  | namedRule => exact hs.mono rfl fun _ hid => hid
  | namedTenant => exact hs.mono rfl fun _ hid => hid
  | purged => exact hs.mono rfl fun _ hid => hid
  | renewed => exact hs.mono rfl fun _ hid => hid
  | elapsed => exact hs.mono rfl fun _ hid => hid
  | reordered => exact hs.mono rfl fun _ hid => hid

theorem IdsIssued.after (hs : IdsIssued n s) (steps : List Step) :
    IdsIssued (n + creations (s.history steps)) (s.after steps) := by
  induction steps generalizing n s with
  | nil => exact hs
  | cons step rest ih =>
    rw [creations_history_cons, after_cons, ← Nat.add_assoc]
    exact ih ((step.effect s).idsIssued hs)

/-- A store without records has issued none. -/
theorem idsIssued_start (policy : LockPolicy) (term : Option Nat) (clock : Clock) :
    IdsIssued 0 (start policy term clock) := ⟨rfl, fun _ _ h => by cases h⟩

/-- **A run issues as many ids as it creates records.** -/
theorem Run.idsIssued (run : Run) : IdsIssued (creations run.events) run.store := by
  have h := (idsIssued_start run.policy run.term run.clock).after run.steps
  rwa [Nat.zero_add] at h

/-! ## Ids that are issued again

Creations are counted over the whole run, from the empty store on, because it is from there that the
counter runs. What happens between the two creations under one id does not matter: the record may
have been changed, or deleted. -/

theorem Effect.created_id {caller : Caller} {id : Int64} {content : RuleContent}
    (h : Effect s step (some (.create caller id content)) t) : id = s.nextId := by
  cases h
  rfl

/-- The induction goes over the steps after the id was issued. As long as no creation gets it again,
its number among the issued ones only falls behind. -/
theorem IdsIssued.reissued {k : Nat} {steps : List Step} {caller : Caller} {content : RuleContent}
    (hs : IdsIssued n s) (hk : k < n)
    (hcreate : .create caller (issued k) content ∈ deeds (s.history steps)) :
    2 ^ 64 < n + creations (s.history steps) := by
  induction steps generalizing n s with
  | nil => cases hcreate
  | cons step rest ih =>
    have heffect := step.effect s
    rw [deeds_history_cons] at hcreate
    rw [creations_history_cons]
    rcases List.mem_append.mp hcreate with hnow | hlater
    · rw [Option.mem_toList.mp hnow] at heffect ⊢
      have hfull := le_of_issued_eq hk (heffect.created_id.trans hs.next)
      show 2 ^ 64 < n + (1 + creations ((step.on s).2.history rest))
      omega
    · have := ih (heffect.idsIssued hs) (Nat.lt_add_right _ hk) hlater
      omega

/-- **An id is issued again only after all others.** While a record is stored, no other one is
created under its id, unless more than `2 ^ 64` records are created altogether. -/
theorem Run.reissued {run : Run} {id : Int64} {rule : StoredRule} {steps : List Step}
    {caller : Caller} {content : RuleContent} (hstored : run.store.rules.find? id = some rule)
    (hcreate : .create caller id content ∈ deeds (run.store.history steps)) :
    2 ^ 64 < creations (run.followedBy steps).events := by
  obtain ⟨k, hk, rfl⟩ := run.idsIssued.stored _ _ hstored
  rw [Run.events_followedBy, creations_append]
  exact run.idsIssued.reissued hk hcreate

/-! ## Ids do run out

In the runs below Alice keeps her record while Bob creates one and deletes it, over and over. -/

/-- Short of the bound, ids that are issued at different times are different. -/
theorem issued_ne {k n : Nat} (hk : k < n) (hn : n < 2 ^ 64) : issued k ≠ issued n := fun h =>
  Nat.not_le.mpr hn (le_of_issued_eq hk h)

/-- What Bob creates. -/
def scrap : RuleContent := { code := "GLOBAL", name := "scrap" }

/-- Bob creates a record, which gets this id, and deletes it. -/
def turnover (id : Int64) : List Step :=
  [.ask bob (.saveRecord ⟨none, scrap⟩), .ask bob (.deleteRecord id)]

/-- Bob does so a number of times, from the second id on. -/
def turnovers : Nat → List Step
  | 0 => []
  | n + 1 => turnovers n ++ turnover (issued (n + 1))

/-- Alice's record is the only one, and so many others have come and gone. -/
structure Turned (n : Nat) (s : MemoryStore) : Prop where
  stored : ∀ id, s.rules.find? id = if id = issued 0 then some draftedRule else none
  owner : s.owner? (issued 0) = some alice.userId
  next : s.nextId = issued (n + 1)
  term : s.leases.term = none

/-- The name of what Bob creates is free each time, since what he created before is deleted. -/
theorem Turned.hasNamesake (hs : Turned n s) : s.hasNamesake scrap = false := by
  refine List.any_eq_false.mpr fun (id, rule) hmem => ?_
  rw [Table.mem_entries_iff, hs.stored] at hmem
  split at hmem
  · obtain rfl := Option.some_inj.mp hmem
    have hname : draftedRule.content.name ≠ scrap.name := by decide
    simp [hname]
  · cases hmem

/-- So Bob's creation is not refused. -/
theorem Turned.create_on (hs : Turned n s) :
    (Step.ask bob (.saveRecord ⟨none, scrap⟩)).on s = (.ok s.nextId, s.added bob scrap) := by
  have hvalid : (RuleForm.mk none scrap).validate s.lineOrder = .ok () := rfl
  show (saveRecord bob ⟨none, scrap⟩).on s = _
  rw [saveRecord_on, hvalid]
  show (create bob scrap).on s = _
  rw [MemoryStore.create_on, hs.hasNamesake]
  rfl

/-- Bob owns the lease of what he has just created, so his deletion is not refused either. -/
theorem Turned.delete_on (hs : Turned n s) :
    (Step.ask bob (.deleteRecord s.nextId)).on (s.added bob scrap)
      = (.ok (), (s.added bob scrap).tick.removed s.nextId) := by
  have hseen : (s.added bob scrap).existing? bob s.nextId = some (s.newRule bob scrap) :=
    (existing?_eq_some_iff ..).mpr ⟨by rw [added_rules, Table.find?_insert, if_pos rfl], rfl⟩
  have howner : (s.added bob scrap).owner? s.nextId = some bob.userId :=
    congrArg (Option.map LockHolder.owner) (LeaseTable.holder_assign hs.term ..)
  show (deleteRecord bob s.nextId).on (s.added bob scrap) = _
  rw [deleteRecord_on, hseen]
  show (if _ then _ else _) = _
  rw [if_pos howner]

/-- **One round.** Bob's record has come and gone; Alice's, with its lease, is as it was, because
the id in between was another (`issued_ne`). -/
theorem Turned.turnover (hs : Turned n s) (hn : n + 1 < 2 ^ 64) :
    Turned (n + 1) (s.after (turnover (issued (n + 1)))) := by
  have hne : issued 0 ≠ s.nextId := hs.next ▸ issued_ne (Nat.succ_pos n) hn
  have hafter : s.after (MemoryStore.turnover (issued (n + 1)))
      = (s.added bob scrap).tick.removed s.nextId := by
    rw [← hs.next, MemoryStore.turnover, after_cons, hs.create_on, after_cons, hs.delete_on,
      after_nil]
  rw [hafter]
  refine ⟨fun id => ?_, ?_, ?_, hs.term⟩
  · rw [removed_rules, tick_rules, added_rules, Table.find?_erase, Table.find?_insert, hs.stored]
    split
    · rename_i hid
      rw [if_neg (hid ▸ Ne.symm hne)]
    · rfl
  · rw [← hs.owner]
    refine congrArg (Option.map LockHolder.owner) ?_
    exact (LeaseTable.holder_forget_of_ne hne).trans ((LeaseTable.holder_assign_of_ne hne).trans
      (LeaseTable.holder_eq_holder hs.term ..))
  · show s.nextId + 1 = _
    rw [hs.next, issued_succ (n + 1)]

/-- Before the first round, Alice has created her record and holds its lease. -/
theorem turned_drafted (policy : LockPolicy) : Turned 0 (drafted policy).store := by
  refine ⟨fun id => ?_, ?_, ?_, ?_⟩
  · have hrules : (drafted policy).store.rules = Table.empty.insert (issued 0) draftedRule := by
      cases policy <;> rfl
    rw [hrules, Table.find?_insert]
    rfl
  all_goals cases policy <;> decide

/-- All rounds, by induction. The bound is what keeps each id of Bob's apart from Alice's. -/
theorem turned (policy : LockPolicy) (n : Nat) (hn : n < 2 ^ 64) :
    Turned n ((drafted policy).store.after (turnovers n)) := by
  induction n with
  | zero => exact turned_drafted policy
  | succ n ih =>
    rw [turnovers, after_append]
    exact (ih (Nat.lt_of_succ_lt hn)).turnover hn

/-- Alice keeps her record, and Bob goes on until the next id is hers again. -/
def exhausted (policy : LockPolicy) : Run := (drafted policy).followedBy (turnovers (2 ^ 64 - 1))

theorem turned_exhausted (policy : LockPolicy) : Turned (2 ^ 64 - 1) (exhausted policy).store := by
  rw [exhausted, Run.store_followedBy]
  exact turned policy (2 ^ 64 - 1) (by omega)

/-- After so many records the ids begin anew. -/
theorem Turned.nextId (hs : Turned (2 ^ 64 - 1) s) : s.nextId = 1 := hs.next

/-- What Bob creates then is given the id of Alice's record. -/
theorem Turned.reissue_on (hs : Turned (2 ^ 64 - 1) s) :
    (Step.ask bob (.saveRecord ⟨none, scrap⟩)).on s = (.ok (1 : Int64), s.added bob scrap) := by
  rw [hs.create_on, hs.nextId]

/-- **Once all ids were issued, a creation takes the place of a record that somebody else holds.**
What is said below about the records of others therefore cannot do without a bound on the creations
of a run. -/
theorem Turned.overwritten (hs : Turned (2 ^ 64 - 1) s) :
    (s.after [.ask bob (.saveRecord ⟨none, scrap⟩)]).rules.find? 1 = some (s.newRule bob scrap)
      ∧ (s.after [.ask bob (.saveRecord ⟨none, scrap⟩)]).owner? 1 = some bob.userId := by
  rw [after_cons, hs.reissue_on, after_nil, ← hs.nextId]
  constructor
  · rw [added_rules, Table.find?_insert, if_pos rfl]
  · exact congrArg (Option.map LockHolder.owner) (LeaseTable.holder_assign hs.term ..)

end MemoryStore
end Whitelist
