import Whitelist.Proofs.Store.Frame
import Whitelist.Proofs.Store.Freshness
import Whitelist.Proofs.Store.Lifetime

/-!
# Where changes land

A change is about one record, but the store keeps things in more than one place: the records, the
leases, the names, the next id. For each kind of change it is said here what is different after it
at the id that it is about, and that nothing is different elsewhere. What a caller has saved is what
the same caller then reads.

## What is here

* `Rewrites`, `Removes`, `Adds` — one record was changed, removed or added, and nothing else was.
* `rewrites_rewritten`, `removes_removed`, `adds_added` — the stores that changes leave.
* `unused_nextId` — the id of a creation is new.
* `effect_of_ok` — the effect of a call that was not refused.
* `ReadsBack` — the caller reads this content, under a lease of the caller's own.
* `writes_land` — each change lands at its id and nowhere else.

The effects are those of `Effect`, once more, but read in the other direction: there a change of the
store was given and its cause was asked for; here the call is given, and `effect_of_ok` leaves a
single case. `created_under_used_id` shows what becomes of the freshness of ids without a bound.
-/

set_option autoImplicit false
namespace Whitelist
namespace MemoryStore

variable {s t : MemoryStore} {caller : Caller} {id : Int64} {rule : StoredRule}
  {content : RuleContent} {change : RuleContent → RuleContent}

/-! ## What a change does

Each structure has a field `elsewhere`, which is the frame, and one or more that say what is new at
the id. A creation moves the counter on as well, so its frame starts from the store with the next
id. -/

/-- The content of one record was changed, and the time of its last change noted. All else of the
record is what it was, and so is the holder of its lease. -/
structure Rewrites (id : Int64) (change : RuleContent → RuleContent) (s t : MemoryStore) :
    Prop where
  elsewhere : OnlyAt id s t
  record : ∃ rule time, s.rules.find? id = some rule ∧ s.clock.now ≤ time ∧ time ≤ t.clock.now
    ∧ t.rules.find? id = some { rule with content := change rule.content, modifiedAt := time }
  holder : t.holder id = s.holder id

/-- One record was removed, and its lease with it. -/
structure Removes (id : Int64) (s t : MemoryStore) : Prop where
  elsewhere : OnlyAt id s t
  stored : ∃ rule, s.rules.find? id = some rule
  record : t.rules.find? id = none
  lease : t.leases.leases.find? id = none

/-- One record was put under an id, for the caller's tenant, in the caller's name and under the
caller's lease. The next id is another. -/
structure Adds (caller : Caller) (id : Int64) (content : RuleContent) (s t : MemoryStore) :
    Prop where
  elsewhere : OnlyAt id { s with nextId := s.nextId + 1 } t
  record : ∃ time, s.clock.now ≤ time ∧ time ≤ t.clock.now
    ∧ t.rules.find? id = some ⟨id, content, caller.tenantId, caller.username, time, time⟩
  holder : t.holder id = some ⟨caller.userId, caller.username⟩

theorem rewrites_rewritten (hstored : s.rules.find? id = some rule)
    (hterm : s.leases.term = none) (change : RuleContent → RuleContent) :
    Rewrites id change s (s.tick.rewritten id change) where
  elsewhere := (onlyAt_tick ..).trans (onlyAt_rewritten ..)
  record := by
    refine ⟨rule, s.tick.clock.now, hstored, now_le_tick s, now_le_tick s.tick, ?_⟩
    rw [rewritten_rules, Table.find?_modify, if_pos rfl, tick_rules, hstored]
    rfl
  holder := LeaseTable.holder_eq_holder hterm ..

/-- Counting the lease anew moves neither the record nor the holder. -/
theorem Rewrites.renewedFor (h : Rewrites id change s t) (hterm : t.leases.term = none)
    (caller : Caller) : Rewrites id change s (t.renewedFor caller id) where
  elsewhere := h.elsewhere.trans (onlyAt_renewedFor ..)
  record := by
    obtain ⟨rule, time, hstored, hbefore, hafter, hfind⟩ := h.record
    exact ⟨rule, time, hstored, hbefore, Nat.le_trans hafter (now_le_tick t), hfind⟩
  holder := (LeaseTable.holder_renew hterm).trans h.holder

theorem removes_removed (hstored : s.rules.find? id = some rule) :
    Removes id s (s.tick.removed id) where
  elsewhere := (onlyAt_tick ..).trans (onlyAt_removed ..)
  stored := ⟨rule, hstored⟩
  record := by rw [removed_rules, Table.find?_erase, if_pos rfl]
  lease := by rw [removed_leases, LeaseTable.forget, Table.find?_erase, if_pos rfl]

theorem adds_added (hterm : s.leases.term = none) (caller : Caller) (content : RuleContent) :
    Adds caller s.nextId content s (s.added caller content) where
  elsewhere :=
    { rules := fun k hk => by rw [added_rules, Table.find?_insert, if_neg hk]
      leases := fun k hk => by
        rw [added_leases, LeaseTable.assign, Table.find?_insert, if_neg hk]
      policy := rfl
      term := rfl
      ruleNames := rfl
      tenantNames := rfl
      nextId := rfl }
  record := by
    refine ⟨s.clock.now, Nat.le_refl _, Nat.le_trans (now_le_tick s) (now_le_tick s.tick), ?_⟩
    rw [added_rules, Table.find?_insert, if_pos rfl]
    rfl
  holder := LeaseTable.holder_assign hterm ..

/-- The id of a creation is new, unless all ids have been issued before. -/
theorem unused_nextId (run : Run) (hfew : creations run.events < 2 ^ 64) :
    run.store.nextId ∉ createdIds run.events ∧ run.store.rules.find? run.store.nextId = none := by
  have hids := run.idsIssued
  have hnew {k : Nat} (hk : k < creations run.events) : issued k ≠ run.store.nextId := by
    rw [hids.next]
    exact issued_ne hk hfew
  constructor
  · rw [run.createdIds_events]
    intro hmem
    obtain ⟨k, hk, hid⟩ := List.mem_map.mp hmem
    exact hnew (List.mem_range.mp hk) hid
  · by_contra hne
    obtain ⟨rule, hstored⟩ := Option.ne_none_iff_exists'.mp hne
    obtain ⟨k, hk, hid⟩ := hids.stored _ rule hstored
    exact hnew hk hid.symm

/-! ## Calls that were not refused

`ReadsBack` allows for any pause between the change and the read. Since leases do not run out, the
pause makes no difference, and this is the only place where the missing term is used for reading. -/

/-- What was done and left by a call with this answer. -/
theorem effect_of_ok {call : StoreCall} {answer : call.Answer}
    (hon : ((session caller).answer call).on s = (.ok answer, t)) :
    Effect s (.ask caller call) (callDeed? caller call answer) t := by
  have heffect := (Step.ask caller call).effect s
  have hstep : (Step.ask caller call).on s = (.ok answer, t) := hon
  rw [Step.event, hstep] at heffect
  exact heffect

/-- However much later the caller reads the record, it has this content, and its lease is the
caller's. -/
def ReadsBack (caller : Caller) (id : Int64) (content : RuleContent) (t : MemoryStore) : Prop :=
  ∀ pause, ∃ record later,
    ((session caller).getRecord id).on ((Step.elapse pause).on t).2 = (.ok record, later)
      ∧ record.id = id ∧ record.content = content ∧ record.lock.isLockHolder = true

/-- Whoever sees a record and owns its live lease reads it as its holder. -/
theorem readsBack_of_holder (hterm : t.leases.term = none)
    (hseen : t.existing? caller id = some rule)
    (howner : t.owner? id = some caller.userId) : ReadsBack caller id rule.content t := by
  intro pause
  have hlater : ((Step.elapse pause).on t).2.owner? id = some caller.userId := by
    rw [← howner]
    exact congrArg (Option.map LockHolder.owner) (LeaseTable.holder_eq_holder hterm ..)
  exact ⟨_, _, getRecord_snapshot hseen, id_of_existing? hseen, rfl,
    isEditable_snapshot_iff.mpr hlater⟩

/-- What was written into a record is what is read of it. -/
theorem readsBack_of_rewrites (h : Rewrites id (fun _ => content) s t)
    (hterm : s.leases.term = none) (hseen : s.existing? caller id = some rule)
    (howner : s.owner? id = some caller.userId) : ReadsBack caller id content t := by
  obtain ⟨hstored, hsee⟩ := (existing?_eq_some_iff ..).mp hseen
  obtain ⟨rule', time, hstored', -, -, hfind⟩ := h.record
  rw [hstored, Option.some_inj] at hstored'
  subst hstored'
  have hseen' := (existing?_eq_some_iff caller id t).mpr ⟨hfind, hsee⟩
  refine readsBack_of_holder (h.elsewhere.term.trans hterm) hseen' ?_
  rw [owner?, h.holder]
  exact howner

/-- So is what was put into a new record, which its creator sees and holds. -/
theorem readsBack_of_adds (h : Adds caller id content s t) (hterm : s.leases.term = none) :
    ReadsBack caller id content t := by
  obtain ⟨time, -, -, hfind⟩ := h.record
  have hsee : caller.canSee caller.tenantId = true := by simp [Caller.canSee]
  have hseen := (existing?_eq_some_iff caller id t).mpr ⟨hfind, hsee⟩
  refine readsBack_of_holder (h.elsewhere.term.trans hterm) hseen ?_
  rw [owner?, h.holder]
  rfl

/-! ## Every change -/

/-- **A change lands at its id and nowhere else.** Leases never run out. Whatever the store and the
policy of its leases: enabling changes the flag of the record and the time of its last change, and
no lease; a deletion takes away the record and its lease; an update replaces the content of the
record, that is, what a form edits, and the time of its last change; a creation puts one record
under the next id, which in a run has not been in use before, unless `2 ^ 64` records were created.
No other record, lease or name becomes another. And what was saved is what its author reads
afterwards, as the holder of the lease. -/
theorem writes_land (s : MemoryStore) (hterm : s.leases.term = none) (caller : Caller) :
    (∀ id enabled t, ((session caller).setEnabled id enabled).on s = (.ok (), t) →
      Rewrites id (fun content => { content with enabled }) s t ∧ t.leases = s.leases)
    ∧ (∀ id t, ((session caller).deleteRecord id).on s = (.ok (), t) → Removes id s t)
    ∧ (∀ id content saved t,
      ((session caller).saveRecord ⟨some id, content⟩).on s = (.ok saved, t) →
        saved = id ∧ Rewrites id (fun _ => content) s t ∧ ReadsBack caller id content t)
    ∧ ∀ content id t, ((session caller).saveRecord ⟨none, content⟩).on s = (.ok id, t) →
        Adds caller id content s t ∧ ReadsBack caller id content t
          ∧ ∀ run : Run, run.store = s → creations run.events < 2 ^ 64 →
            id ∉ createdIds run.events ∧ s.rules.find? id = none := by
  refine ⟨fun id enabled t hon => ?_, fun id t hon => ?_, fun id content saved t hon => ?_,
    fun content id t hon => ?_⟩
  · have heffect : Effect s _ (some (.enable caller id enabled)) t := effect_of_ok hon
    cases heffect with
    | enabled hreq hseen howner =>
      exact ⟨rewrites_rewritten (find?_of_existing? hseen) hterm _, rfl⟩
  · have heffect : Effect s _ (some (.delete caller id)) t := effect_of_ok hon
    cases heffect with
    | deleted hreq hseen howner =>
      exact removes_removed (find?_of_existing? hseen)
  · have heffect : Effect s _ (some (.update caller saved content)) t := effect_of_ok hon
    cases heffect with
    | updated hreq hseen howner =>
      cases hreq
      have hstored := find?_of_existing? hseen
      -- The renewal after the change sets the time of the lease, and leaves it with its holder.
      have hrewrites :=
        (rewrites_rewritten hstored hterm fun _ => content).renewedFor hterm caller
      exact ⟨rfl, hrewrites, readsBack_of_rewrites hrewrites hterm hseen howner⟩
  · have heffect : Effect s _ (some (.create caller id content)) t := effect_of_ok hon
    cases heffect with
    | created hreq hcheck hnew =>
      have hadds := adds_added hterm caller content
      refine ⟨hadds, readsBack_of_adds hadds hterm, ?_⟩
      rintro run rfl hfew
      exact unused_nextId run hfew

/-- Alice's record with another text. -/
def revised : RuleContent := { draft with description := some "revised" }

/-- Another record of hers. -/
def second : RuleContent := { draft with name := "second" }

/-- Alice disables, deletes or revises her record, or creates a second one. -/
theorem writes_land_drafted :
    (drafted .exclusive).store.leases.term = none
      ∧ (∃ t, ((session alice).setEnabled 1 false).on (drafted .exclusive).store = (.ok (), t)
        ∧ Rewrites 1 (fun content => { content with enabled := false })
          (drafted .exclusive).store t)
      ∧ (∃ t, ((session alice).deleteRecord 1).on (drafted .exclusive).store = (.ok (), t)
        ∧ Removes 1 (drafted .exclusive).store t)
      ∧ (∃ t, ((session alice).saveRecord ⟨some 1, revised⟩).on (drafted .exclusive).store
          = (.ok 1, t)
        ∧ Rewrites 1 (fun _ => revised) (drafted .exclusive).store t ∧ ReadsBack alice 1 revised t)
      ∧ ∃ t, ((session alice).saveRecord ⟨none, second⟩).on (drafted .exclusive).store
          = (.ok 2, t)
        ∧ Adds alice 2 second (drafted .exclusive).store t ∧ ReadsBack alice 2 second t
        ∧ 2 ∉ createdIds (drafted .exclusive).events := by
  have hterm : (drafted .exclusive).store.leases.term = none := by decide
  have hfew : creations (drafted .exclusive).events < 2 ^ 64 := by decide
  obtain ⟨henabled, hdeleted, hupdated, hcreated⟩ :=
    writes_land (drafted .exclusive).store hterm alice
  have hdisable : ((session alice).setEnabled 1 false).on (drafted .exclusive).store
      = (.ok (), (((session alice).setEnabled 1 false).on (drafted .exclusive).store).2) :=
    Prod.ext (by decide) rfl
  have hdelete : ((session alice).deleteRecord 1).on (drafted .exclusive).store
      = (.ok (), (((session alice).deleteRecord 1).on (drafted .exclusive).store).2) :=
    Prod.ext (by decide) rfl
  have hrevise : ((session alice).saveRecord ⟨some 1, revised⟩).on (drafted .exclusive).store
      = (.ok 1, (((session alice).saveRecord ⟨some 1, revised⟩).on (drafted .exclusive).store).2) :=
    Prod.ext (by decide) rfl
  have hcreate : ((session alice).saveRecord ⟨none, second⟩).on (drafted .exclusive).store
      = (.ok 2, (((session alice).saveRecord ⟨none, second⟩).on (drafted .exclusive).store).2) :=
    Prod.ext (by decide) rfl
  obtain ⟨-, hrewrites, hread⟩ := hupdated 1 revised 1 _ hrevise
  obtain ⟨hadds, hread', hunused⟩ := hcreated second 2 _ hcreate
  exact ⟨hterm, ⟨_, hdisable, (henabled 1 false _ hdisable).1⟩,
    ⟨_, hdelete, hdeleted 1 _ hdelete⟩, ⟨_, hrevise, hrewrites, hread⟩,
    _, hcreate, hadds, hread', (hunused _ rfl hfew).1⟩

/-- Without the bound a creation may be given the id of a stored record, as it is at the end of
`exhausted`. -/
theorem created_under_used_id :
    ¬ ∀ (run : Run) (caller : Caller) (content : RuleContent) (id : Int64) (t : MemoryStore),
      run.NeverExpires →
      ((session caller).saveRecord ⟨none, content⟩).on run.store = (.ok id, t) →
      id ∉ createdIds run.events ∧ run.store.rules.find? id = none := by
  intro hall
  have hturned := turned_exhausted .grab
  obtain ⟨-, hunused⟩ := hall (exhausted .grab) bob scrap 1 _ (.inl rfl) hturned.reissue_on
  have hused : (exhausted .grab).store.rules.find? 1 = some draftedRule := hturned.stored 1
  rw [hunused] at hused
  cases hused

end MemoryStore
end Whitelist
