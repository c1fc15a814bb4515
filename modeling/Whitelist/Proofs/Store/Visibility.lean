import Whitelist.Proofs.Rule.LineOrder
import Whitelist.Proofs.Store.Frame
import Whitelist.Proofs.Store.LockState
import Whitelist.Proofs.Table

/-!
# What a caller cannot see

A caller who is bound to a tenant sees the records of that tenant. The other records stand in the
same table, under ids from the same counter, and some calls go through all of them. Yet nothing
about them comes out: of two stores that differ only in what a caller does not see, the caller is
answered alike. And nothing is done to them: a call by id does not reach what the caller does not
see.

Only a creation may tell more, since the name of a new record must not be in use anywhere.

## What is here

* `SameView` — two stores are the same as far as a caller sees.
* `HidesFrom` — what a caller does not see has been left alone.
* `listRecords_answer` — asking for a creator who has made nothing is answered as any other query.
* `sameView_grabLock` and its like — each call is answered alike, and leaves the same for the caller
  to see.
* `hidden_from_caller` — nothing comes out of what a caller does not see, and nothing is done to it.

The proof is a relation between two stores, `SameView`, that every call keeps. It has two halves. A
call by id either finds the record in both stores, and then does the same at one id of both
(`SameView.of_onlyAt`), or finds it in neither, and then does nothing (`SameView.of_hidden`). A
listing goes through the whole table, and needs `SameView.visible`: what is filtered out of the two
tables is equal, though the tables are not.

`SameView` says nothing of `nextId` and of the clock, and it cannot: the counter runs on with every
creation of every tenant. This is why the law is about a single call with equal clocks, and why the
id of a new record is the one thing in which the two outcomes may differ.
-/

set_option autoImplicit false
namespace Whitelist
namespace MemoryStore

/-! ## The same view

Leases are compared entry by entry, and only at ids that the caller sees. The lease of a record that
is not seen can be held by anyone. -/

/-- Two stores have the same settings and names, and, as far as a caller sees, the same records with
the same leases. The next id and the time may differ. -/
structure SameView (caller : Caller) (s t : MemoryStore) : Prop where
  records : ∀ id, t.existing? caller id = s.existing? caller id
  leases : ∀ id rule, s.existing? caller id = some rule →
    t.leases.leases.find? id = s.leases.leases.find? id
  policy : t.leases.policy = s.leases.policy
  term : t.leases.term = s.leases.term
  ruleNames : t.ruleNames = s.ruleNames
  tenantNames : t.tenantNames = s.tenantNames

/-- The records and leases that the caller did not see are in the later store what they were. -/
def HidesFrom (caller : Caller) (s later : MemoryStore) : Prop :=
  ∀ id, s.existing? caller id = none →
    later.rules.find? id = s.rules.find? id
      ∧ later.leases.leases.find? id = s.leases.leases.find? id

/-- Two outcomes, under an order of lines each, are the same for a caller: so are the answers, and
so is what is seen after. -/
structure Alike {α : Type} (caller : Caller) (order order' : LineOrder)
    (o p : Except Fault α × MemoryStore) : Prop where
  answer : SameAnswer order order' o.1 p.1
  view : SameView caller o.2 p.2

variable {s t s' t' : MemoryStore} {caller : Caller} {id : Int64} {rule : StoredRule}
  {order order' : LineOrder}

namespace SameView

/-- The listed records are equal as lists, for both tables are in ascending order of their ids. -/
theorem visible (h : SameView caller s t) : t.visible caller = s.visible caller := by
  have hseen : t.rules.keep (fun _ rule => caller.canSee rule.tenantId)
      = s.rules.keep fun _ rule => caller.canSee rule.tenantId := by
    refine Table.ext_find? fun id => ?_
    rw [Table.find?_keep, Table.find?_keep]
    exact h.records id
  exact congrArg (fun table => table.entries.reverse) hseen

theorem holder (h : SameView caller s t) (hclock : t.clock = s.clock)
    (hseen : s.existing? caller id = some rule) : t.holder id = s.holder id := by
  rw [MemoryStore.holder, MemoryStore.holder, hclock]
  exact LeaseTable.holder_congr h.term (h.leases id rule hseen)

theorem record (h : SameView caller s t) (rule : StoredRule) (lock : LockStatus) :
    t.record rule lock = s.record rule lock := by
  unfold MemoryStore.record tenantName?
  rw [h.tenantNames]

/-- What is seen does not depend on the time. -/
theorem iterate_tick (h : SameView caller s t) (looks looks' : Nat) :
    SameView caller (tick^[looks] s) (tick^[looks'] t) := by
  rw [MemoryStore.iterate_tick, MemoryStore.iterate_tick looks' t]
  exact ⟨h.records, h.leases, h.policy, h.term, h.ruleNames, h.tenantNames⟩

theorem tick (h : SameView caller s t) : SameView caller s.tick t.tick := h.iterate_tick 1 1

end SameView

/-! ## Listings

A query by the name of a creator has a shortcut: where nobody of that name has made a record, the
answer is an empty page at once. The shortcut looks at all records, those of other tenants too, so
one of two stores may take it and the other not. `listRecords_answer` shows that the answer is the
same either way. -/

theorem paginate_nil {α : Type} (page size : UInt64) :
    paginate ([] : List α) page size = .new 0 (max page 1) size [] := by
  rw [paginate]
  split
  · rfl
  · simp only [List.drop_nil, List.take_nil]
    rfl

/-- A query for a creator who has made no record at all selects none. -/
theorem filter_rows_of_lacksCreator {query : RecordQuery} (h : s.lacksCreator query = true) :
    (rows caller s (s.visible caller)).filter query.selects = [] := by
  rw [lacksCreator] at h
  cases hcreator : query.creatorName with
  | none =>
    rw [hcreator] at h
    cases h
  | some creator =>
    rw [hcreator] at h
    have hnone : ∀ e ∈ s.rules.entries, e.2.creatorName ≠ creator := by simpa using h
    refine List.filter_eq_nil_iff.mpr fun row hrow hselected => ?_
    obtain ⟨looks, e, he, rfl⟩ := mem_rows caller hrow
    have hmade : e.2.creatorName = creator := by
      rw [RecordQuery.selects, hcreator] at hselected
      exact Option.some_inj.mp (of_decide_eq_true (Bool.and_eq_true_iff.mp hselected).2)
    exact hnone e (List.mem_of_mem_filter (List.mem_reverse.mp he)) hmade

/-- A creator who has made no record at all has made none that the caller sees. So such a creator is
answered with the very page that going through the records would have given. -/
theorem listRecords_answer (caller : Caller) (s : MemoryStore) (query : RecordQuery)
    (page size : UInt64) : ((listRecords caller query page size).on s).1
      = .ok (paginate ((rows caller s (s.visible caller)).filter query.selects) page size) := by
  rw [listRecords_on]
  split
  · rename_i hlacks
    rw [filter_rows_of_lacksCreator hlacks, paginate_nil]
  · rfl

theorem SameView.rows (h : SameView caller s t) (hclock : t.clock = s.clock)
    {l : List (Int64 × StoredRule)} (hl : ∀ e ∈ l, s.existing? caller e.1 = some e.2) :
    rows caller t l = rows caller s l := by
  induction l generalizing s t with
  | nil => rfl
  | cons e rest ih =>
    have hseen := hl e List.mem_cons_self
    have hrest := ih h.tick (congrArg (·.look.2) hclock) fun d hd =>
      hl d (List.mem_cons_of_mem e hd)
    have hlease : t.holder e.2.id = s.holder e.2.id := by
      rw [id_of_existing? hseen, h.holder hclock hseen]
    rw [MemoryStore.rows, MemoryStore.rows, hlease, h.record, hrest]

theorem sameView_listRecords (h : SameView caller s t) (hclock : t.clock = s.clock)
    (query : RecordQuery) (page size : UInt64) :
    Alike caller order order' ((listRecords caller query page size).on s)
      ((listRecords caller query page size).on t) where
  answer := .of_eq <| by
    rw [listRecords_answer, listRecords_answer, h.visible,
      h.rows hclock fun e he => mem_visible_iff.mp he]
  view := by
    -- The two listings need not take the same time: only one of them may use the shortcut.
    obtain ⟨looks, hs⟩ := exists_tick_listRecords caller s query page size
    obtain ⟨looks', ht⟩ := exists_tick_listRecords caller t query page size
    rw [hs, ht]
    exact h.iterate_tick looks looks'

theorem SameView.groups (h : SameView caller s t) (query : GroupQuery) :
    t.groups caller query = s.groups caller query := by
  have hgroup : t.groupOf = s.groupOf := by
    funext rule
    unfold groupOf ruleName?
    rw [h.ruleNames]
  rw [MemoryStore.groups, MemoryStore.groups, h.visible, hgroup]

theorem sameView_listGroups (h : SameView caller s t) (query : GroupQuery) (page size : UInt64) :
    Alike caller order order' ((listGroups caller query page size).on s)
      ((listGroups caller query page size).on t) where
  answer := .of_eq <| by rw [listGroups_on, listGroups_on, h.groups]
  view := h

/-! ## Calls by id

The lemmas come in pairs: what a call does to the two stores (`SameView.granted`,
`SameView.rewritten` and so on), and that the call is answered alike (`sameView_grabLock` and so
on), by a case split on whether the caller sees the record. -/

theorem HidesFrom.of_onlyAt (h : OnlyAt id s s') (hseen : s.existing? caller id = some rule) :
    HidesFrom caller s s' := by
  intro k hk
  have hne : k ≠ id := by
    rintro rfl
    rw [hk] at hseen
    cases hseen
  exact ⟨h.rules k hne, h.leases k hne⟩

/-- The same done at one id of both stores. -/
theorem SameView.of_onlyAt (h : SameView caller s t) (hs : OnlyAt id s s') (ht : OnlyAt id t t')
    (hrule : t'.rules.find? id = s'.rules.find? id)
    (hlease : t'.leases.leases.find? id = s'.leases.leases.find? id) : SameView caller s' t' where
  records k := by
    by_cases hk : k = id
    · rw [hk, existing?, existing?, hrule]
    · have hrecord := h.records k
      rw [existing?, existing?] at hrecord
      rw [existing?, existing?, hs.rules k hk, ht.rules k hk, hrecord]
  leases k rule hseen := by
    by_cases hk : k = id
    · rw [hk, hlease]
    · rw [existing?, hs.rules k hk] at hseen
      rw [hs.leases k hk, ht.leases k hk, h.leases k rule hseen]
  policy := ht.policy.trans (h.policy.trans hs.policy.symm)
  term := ht.term.trans (h.term.trans hs.term.symm)
  ruleNames := ht.ruleNames.trans (h.ruleNames.trans hs.ruleNames.symm)
  tenantNames := ht.tenantNames.trans (h.tenantNames.trans hs.tenantNames.symm)

/-- Whatever is done at an id where the caller sees nothing, before and after. -/
theorem SameView.of_hidden (h : OnlyAt id s t) (hs : s.existing? caller id = none)
    (ht : t.existing? caller id = none) : SameView caller s t where
  records k := by
    by_cases hk : k = id
    · rw [hk, hs, ht]
    · rw [existing?, existing?, h.rules k hk]
  leases k rule hseen := by
    refine h.leases k ?_
    rintro rfl
    rw [hs] at hseen
    cases hseen
  policy := h.policy
  term := h.term
  ruleNames := h.ruleNames
  tenantNames := h.tenantNames

section Seen

variable (h : SameView caller s t) (hclock : t.clock = s.clock)
  (hseen : s.existing? caller id = some rule)
include h hseen

theorem SameView.find?_rules : t.rules.find? id = s.rules.find? id := by
  have hs := find?_of_existing? hseen
  have ht := find?_of_existing? ((h.records id).trans hseen)
  rw [hs, ht]

theorem SameView.freed : SameView caller (s.freed caller id) (t.freed caller id) :=
  h.of_onlyAt (onlyAt_freed ..) (onlyAt_freed ..) (h.find?_rules hseen)
    (LeaseTable.find?_release_congr (h.leases id rule hseen))

omit hseen in
theorem SameView.removed : SameView caller (s.removed id) (t.removed id) := by
  refine h.of_onlyAt (onlyAt_removed ..) (onlyAt_removed ..) ?_ ?_
  · rw [removed_rules, removed_rules, Table.find?_erase, Table.find?_erase, if_pos rfl, if_pos rfl]
  · rw [removed_leases, removed_leases, LeaseTable.forget, LeaseTable.forget, Table.find?_erase,
      Table.find?_erase, if_pos rfl, if_pos rfl]

include hclock

theorem SameView.granted : SameView caller (s.granted caller id) (t.granted caller id) := by
  refine h.of_onlyAt (onlyAt_granted ..) (onlyAt_granted ..) (h.find?_rules hseen) ?_
  rw [granted_leases, granted_leases, hclock]
  exact LeaseTable.find?_acquire_congr h.term (h.leases id rule hseen) h.policy

theorem SameView.rewritten (change : RuleContent → RuleContent) :
    SameView caller (s.rewritten id change) (t.rewritten id change) := by
  refine h.of_onlyAt (onlyAt_rewritten ..) (onlyAt_rewritten ..) ?_ (h.leases id rule hseen)
  rw [rewritten_rules, rewritten_rules, Table.find?_modify, Table.find?_modify, if_pos rfl,
    if_pos rfl, h.find?_rules hseen, hclock]

theorem SameView.renewedFor :
    SameView caller (s.renewedFor caller id) (t.renewedFor caller id) := by
  refine h.of_onlyAt (onlyAt_renewedFor ..) (onlyAt_renewedFor ..) (h.find?_rules hseen) ?_
  rw [renewedFor_leases, renewedFor_leases, hclock]
  exact LeaseTable.find?_renew_congr h.term (h.leases id rule hseen)

theorem SameView.owner? : t.owner? id = s.owner? id := by
  rw [MemoryStore.owner?, MemoryStore.owner?, h.holder hclock hseen]

theorem SameView.lockRefusal : t.lockRefusal id = s.lockRefusal id := by
  rw [MemoryStore.lockRefusal, MemoryStore.lockRefusal, h.holder hclock hseen]

end Seen

/-- A change of the content leaves the record with its tenant, and so in the caller's sight. -/
theorem existing?_rewritten (hseen : s.existing? caller id = some rule)
    (change : RuleContent → RuleContent) :
    (s.rewritten id change).existing? caller id
      = some { rule with content := change rule.content, modifiedAt := s.clock.now } := by
  obtain ⟨hstored, hsee⟩ := (existing?_eq_some_iff ..).mp hseen
  refine (existing?_eq_some_iff ..).mpr ⟨?_, hsee⟩
  rw [rewritten_rules, Table.find?_modify, if_pos rfl, hstored]
  rfl

section Calls

variable (h : SameView caller s t) (hclock : t.clock = s.clock) (id : Int64)
include h hclock

theorem sameView_getRecord :
    Alike caller order order' ((getRecord caller id).on s) ((getRecord caller id).on t) := by
  rw [getRecord_on, getRecord_on, h.records id]
  cases hseen : s.existing? caller id with
  | none => exact ⟨.refl _, h⟩
  | some rule =>
    refine ⟨.of_eq ?_, h.tick⟩
    show Except.ok _ = Except.ok _
    rw [h.holder hclock hseen, h.record]

theorem sameView_grabLock :
    Alike caller order order' ((grabLock caller id).on s) ((grabLock caller id).on t) := by
  rw [grabLock_on, grabLock_on, h.records id]
  cases hseen : s.existing? caller id with
  | none => exact ⟨.refl _, h⟩
  | some rule =>
    have hgranted := h.granted hclock hseen
    have hlater : (t.granted caller id).clock = (s.granted caller id).clock :=
      congrArg (·.look.2) hclock
    have hseen' : (s.granted caller id).existing? caller id = some rule := hseen
    exact ⟨.of_eq (by rw [hgranted.holder hlater hseen']), hgranted.tick⟩

omit hclock in
theorem sameView_releaseLock :
    Alike caller order order' ((releaseLock caller id).on s) ((releaseLock caller id).on t) := by
  rw [releaseLock_on, releaseLock_on, h.records id]
  cases hseen : s.existing? caller id with
  | none => exact ⟨.refl _, h⟩
  | some rule => exact ⟨.refl _, h.freed hseen⟩

/-- A change that is made where the caller holds the live lease, and refused otherwise. -/
theorem sameView_underLock {α : Type} {answer : α} (hseen : s.existing? caller id = some rule)
    (hmade : SameView caller s' t') :
    Alike caller order order'
      (if s.owner? id = some caller.userId then (.ok answer, s')
        else (.error (s.lockRefusal id), s.tick))
      (if t.owner? id = some caller.userId then (.ok answer, t')
        else (.error (t.lockRefusal id), t.tick)) := by
  rw [h.owner? hclock hseen, h.lockRefusal hclock hseen]
  split
  · exact ⟨.refl _, hmade⟩
  · exact ⟨.refl _, h.tick⟩

theorem sameView_setEnabled (enabled : Bool) :
    Alike caller order order' ((setEnabled caller id enabled).on s)
      ((setEnabled caller id enabled).on t) := by
  rw [setEnabled_on, setEnabled_on, h.records id]
  cases hseen : s.existing? caller id with
  | none => exact ⟨.refl _, h⟩
  | some rule =>
    exact sameView_underLock h hclock id hseen
      (h.tick.rewritten (congrArg (·.look.2) hclock) hseen _)

theorem sameView_deleteRecord :
    Alike caller order order' ((deleteRecord caller id).on s) ((deleteRecord caller id).on t) := by
  rw [deleteRecord_on, deleteRecord_on, h.records id]
  cases hseen : s.existing? caller id with
  | none => exact ⟨.refl _, h⟩
  | some rule => exact sameView_underLock h hclock id hseen h.tick.removed

theorem sameView_update (content : RuleContent) :
    Alike caller order order' ((update caller id content).on s)
      ((update caller id content).on t) := by
  rw [update_on, update_on, h.records id]
  cases hseen : s.existing? caller id with
  | none => exact ⟨.refl _, h⟩
  | some rule =>
    have hlater : t.tick.clock = s.tick.clock := congrArg (·.look.2) hclock
    have hwritten := h.tick.rewritten hlater hseen fun _ => content
    have hstill := existing?_rewritten (s := s.tick) hseen fun _ => content
    exact sameView_underLock h hclock id hseen
      (hwritten.renewedFor (congrArg (·.look.2) hlater) hstill)

end Calls

/-! ## Every call but a creation -/

/-- A form that is refused is refused in both stores, before they are looked at. -/
theorem sameView_saveRecord (h : SameView caller s t) (hclock : t.clock = s.clock) (id : Int64)
    (content : RuleContent) :
    Alike caller s.lineOrder t.lineOrder ((saveRecord caller ⟨some id, content⟩).on s)
      ((saveRecord caller ⟨some id, content⟩).on t) := by
  rw [saveRecord_on, saveRecord_on]
  rcases ((RuleForm.mk (some id) content).sameAnswer_validate s.lineOrder
    t.lineOrder).passed_or_refused with ⟨hs, ht⟩ | ⟨f, g, hs, ht, hsame⟩
  · rw [hs, ht]
    exact sameView_update h hclock id content
  · rw [hs, ht]
    exact ⟨hsame, h⟩

/-- A step that a caller takes to do something at an id does it at a record that the caller sees. -/
theorem Effect.hidesFrom {step : Step} {deed : Option Deed} {call : StoreCall}
    (h : Effect s step deed t) (hreq : step.request? = some (caller, call))
    (hcall : ∀ content, call ≠ .saveRecord ⟨none, content⟩) : HidesFrom caller s t := by
  -- The other effects are those of creations and of steps that nobody asks for.
  have absurd_of_none {P : Prop} (hnone : step.request? = none) : P := by
    rw [hreq] at hnone
    cases hnone
  cases h with
  | read looks =>
    intro k _
    rw [iterate_tick_rules, iterate_tick_leases]
    exact ⟨rfl, rfl⟩
  | grabbed hreq' hseen =>
    obtain rfl := Step.caller_unique hreq hreq'
    exact .of_onlyAt ((onlyAt_granted ..).trans (onlyAt_tick ..)) hseen
  | released hreq' hseen =>
    obtain rfl := Step.caller_unique hreq hreq'
    exact .of_onlyAt (onlyAt_freed ..) hseen
  | enabled hreq' hseen =>
    obtain rfl := Step.caller_unique hreq hreq'
    exact .of_onlyAt ((onlyAt_tick ..).trans (onlyAt_rewritten ..)) hseen
  | updated hreq' hseen =>
    obtain rfl := Step.caller_unique hreq hreq'
    exact .of_onlyAt (((onlyAt_tick ..).trans (onlyAt_rewritten ..)).trans (onlyAt_renewedFor ..))
      hseen
  | deleted hreq' hseen =>
    obtain rfl := Step.caller_unique hreq hreq'
    exact .of_onlyAt ((onlyAt_tick ..).trans (onlyAt_removed ..)) hseen
  | @created y content hreq' =>
    rw [hreq, Option.some_inj, Prod.mk.injEq] at hreq'
    exact absurd hreq'.2 (hcall content)
  | namedRule hnone => exact absurd_of_none hnone
  | namedTenant hnone => exact absurd_of_none hnone
  | purged hnone => exact absurd_of_none hnone
  | renewed hnone => exact absurd_of_none hnone
  | elapsed hnone => exact absurd_of_none hnone
  | reordered hnone => exact absurd_of_none hnone

/-- **What a caller does not see stays hidden, and stays as it is.** Two stores with the same view
for a caller are asked for the same at the same time. Unless that is a creation, the answers are
equal, refusals included, and the caller's view is the same afterwards; and in each store the
records and leases that the caller does not see are left alone. This holds of listings too, for any
query: naming a creator finds out nothing about the records of others. Only where an update brings a
form that is refused for both of its text fields may the two refusals name them in another order. -/
theorem hidden_from_caller (caller : Caller) (s t : MemoryStore) (h : SameView caller s t)
    (hclock : t.clock = s.clock) (call : StoreCall)
    (hcall : ∀ content, call ≠ .saveRecord ⟨none, content⟩) :
    Alike caller s.lineOrder t.lineOrder (((session caller).answer call).on s)
        (((session caller).answer call).on t)
      ∧ ((∀ form, call ≠ .saveRecord form) →
        (((session caller).answer call).on t).1 = (((session caller).answer call).on s).1)
      ∧ HidesFrom caller s (((session caller).answer call).on s).2
      ∧ HidesFrom caller t (((session caller).answer call).on t).2 := by
  -- No other call looks at the order of lines, so what is said of it holds for all orders.
  have hother (hsave : ∀ form, call ≠ .saveRecord form) (order order' : LineOrder) :
      Alike caller order order' (((session caller).answer call).on s)
        (((session caller).answer call).on t) := by
    cases call with
    | grabLock id => exact sameView_grabLock h hclock id
    | releaseLock id => exact sameView_releaseLock h id
    | listRecords query page size => exact sameView_listRecords h hclock query page size
    | listGroups query page size => exact sameView_listGroups h query page size
    | getRecord id => exact sameView_getRecord h hclock id
    | setEnabled id enabled => exact sameView_setEnabled h hclock id enabled
    | deleteRecord id => exact sameView_deleteRecord h hclock id
    | saveRecord form => exact absurd rfl (hsave form)
    | operators => exact ⟨.refl _, h⟩
  refine ⟨?_, fun hsave => ((hother hsave .codeFirst .codeFirst).answer.eq_of_order rfl).symm,
    ((Step.ask caller call).effect s).hidesFrom rfl hcall,
    ((Step.ask caller call).effect t).hidesFrom rfl hcall⟩
  by_cases hsave : ∃ form, call = .saveRecord form
  · obtain ⟨⟨id?, content⟩, rfl⟩ := hsave
    cases id? with
    | none => exact absurd rfl (hcall content)
    | some id => exact sameView_saveRecord h hclock id content
  · exact hother (not_exists.mp hsave) _ _

/-- Alice and Bob each have a record, for two tenants. -/
def twoTenants : Run :=
  ⟨.grab, none, {}, [.ask { alice with tenantId := some 1 } (.saveRecord ⟨none, draft⟩),
    .ask { bob with tenantId := some 2 } (.saveRecord ⟨none, { code := "R1", name := "one" }⟩)]⟩

/-- Whether Alice has made any record is known to the store, which answers in different ways; Bob is
shown no difference. -/
theorem hidden_from_caller_twoTenants :
    SameView { bob with tenantId := some 2 } twoTenants.store (twoTenants.store.removed 1)
      ∧ twoTenants.store.lacksCreator { creatorName := some "Alice" } = false
      ∧ (twoTenants.store.removed 1).lacksCreator { creatorName := some "Alice" } = true
      ∧ ((listRecords { bob with tenantId := some 2 } { creatorName := some "Alice" } 1 10).on
          (twoTenants.store.removed 1)).1
        = ((listRecords { bob with tenantId := some 2 } { creatorName := some "Alice" } 1 10).on
          twoTenants.store).1 := by
  have hview : SameView { bob with tenantId := some 2 } twoTenants.store
      (twoTenants.store.removed 1) := .of_hidden (onlyAt_removed ..) (by decide) (by decide)
  obtain ⟨-, hanswer, -, -⟩ := hidden_from_caller { bob with tenantId := some 2 } twoTenants.store
    (twoTenants.store.removed 1) hview rfl (.listRecords { creatorName := some "Alice" } 1 10) nofun
  exact ⟨hview, by decide, by decide, hanswer nofun⟩

end MemoryStore
end Whitelist
