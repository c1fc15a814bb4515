import Whitelist.Proofs.Rule.LineOrder
import Whitelist.Proofs.Store.LockState
import Whitelist.Proofs.Store.Refusal

/-!
# Changes behind a fresh snapshot

The gateway decides by the lock in a snapshot, the store by the lease as it is. These are two ways
of looking at the same entry of the table. So where the snapshot has just been read, and the lease
has not run out since, the gateway lets through what the store would accept, and refuses the rest
with the very fault that the store would give.

Reading takes a look at the clock, so a change that goes through the gateway is made a little later
than one that does not. This shows in the time that is noted on the record (`AgreesButForTimes`).
The gateway and the store each check a form by themselves, and two refusals of a form need not name
its fields in one order. This shows in the text of the refusal (`SameAnswer`). Nothing else shows.

## What is here

* `Change`, `Change.direct`, `Change.guarded` — a change of a record, made by a call to the store,
  or through the gateway behind a snapshot that is read for it.
* `Change.direct_on`, `Change.guarded_on` — what comes of a change on either way.
* `AgreesButForTimes` — stores in which the same was done at different times.
* `SameOutcome` — what both ways have in common. `Change.sameOutcome` compares them from one store,
  `Change.guarded_direct` at one moment.
* `fresh_snapshot_decides` — both ways come to the same.
-/

set_option autoImplicit false
namespace Whitelist

/-- Behind a snapshot of its own record, an update is checked and then guarded. -/
theorem Console.save_update_on {σ : Type} (store : RuleStore σ) (content : RuleContent)
    (snapshot : RuleRecord) (order : LineOrder) (s : σ) :
    (Console.save store ⟨some snapshot.id, content⟩ (some snapshot) order).on s
      = match (RuleForm.mk (some snapshot.id) content).validate order with
        | .error fault => (.error fault, s)
        | .ok () =>
          (Console.guarded snapshot (store.saveRecord ⟨some snapshot.id, content⟩)).on s := by
  cases hcheck : (RuleForm.mk (some snapshot.id) content).check with
  | error e => rw [Console.save_on_of_invalid store s hcheck, RuleForm.validate, hcheck]
  | ok =>
    rw [Console.save_on_of_snapshot store s hcheck rfl rfl, RuleForm.validate_of_check hcheck]

namespace MemoryStore

/-! ## Changes

An update through the gateway goes through `Console.save`, which checks the form before it looks at
the snapshot; the other two changes go through `Console.guarded`. -/

/-- What a caller may want to change in a record. -/
inductive Change where
  | enable (enabled : Bool)
  | delete
  | save (content : RuleContent)

namespace Change

/-- The call that makes the change. -/
def call (id : Int64) : Change → StoreCall
  | enable enabled => .setEnabled id enabled
  | delete => .deleteRecord id
  | save content => .saveRecord ⟨some id, content⟩

/-- The change as the gateway makes it behind a snapshot. Where it refuses a form, it names the
fields in an order of its own. -/
def behind (store : RuleStore MemoryStore) (id : Int64) (snapshot : RuleRecord)
    (order : LineOrder) : (change : Change) → Attempt MemoryStore (change.call id).Answer
  | enable enabled => Console.setEnabled store snapshot enabled
  | delete => Console.delete store snapshot
  | save content => Console.save store ⟨some id, content⟩ (some snapshot) order

/-- The change made without the gateway. -/
def direct (caller : Caller) (id : Int64) (change : Change) :
    Attempt MemoryStore (change.call id).Answer := (session caller).answer (change.call id)

/-- The change made through the gateway, behind a snapshot that is read just before. -/
def guarded (caller : Caller) (id : Int64) (order : LineOrder) (change : Change) :
    Attempt MemoryStore (change.call id).Answer := do
  let snapshot ← getRecord caller id
  change.behind (session caller) id snapshot order

/-! ## What comes of a change

The store answers in two steps, a check that depends on the change only and a test of the owner, and
so does the gateway. The proof compares the two pairs of steps. -/

/-- What is looked at before the record is: the form of an update. -/
def check (id : Int64) (order : LineOrder) : Change → Except Fault Unit
  | save content => (RuleForm.mk (some id) content).validate order
  | _ => .ok ()

theorem sameAnswer_check (id : Int64) (order order' : LineOrder) (change : Change) :
    SameAnswer order order' (change.check id order) (change.check id order') := by
  cases change with
  | save content => exact RuleForm.sameAnswer_validate _ order order'
  | _ => exact .refl _

/-- What passes a check passes it again. -/
theorem check_of_check {id : Int64} {order order' : LineOrder} {change : Change}
    (h : change.check id order = .ok ()) : change.check id order' = .ok () := by
  have hsame := (change.sameAnswer_check id order order').upToLines
  rw [h] at hsame
  generalize change.check id order' = again at hsame ⊢
  cases hsame
  rfl

/-- What the change is answered with where it is made. -/
def answer (id : Int64) : (change : Change) → (change.call id).Answer
  | enable _ => ()
  | delete => ()
  | save _ => id

/-- The store that the change leaves where it is made. -/
def made (caller : Caller) (id : Int64) (s : MemoryStore) : Change → MemoryStore
  | enable enabled => s.tick.rewritten id fun content => { content with enabled }
  | delete => s.tick.removed id
  | save content => (s.tick.rewritten id fun _ => content).renewedFor caller id

variable {caller : Caller} {id : Int64} {rule : StoredRule} {s : MemoryStore}

/-- The store makes a change that passes its check, for the owner of the live lease. -/
theorem direct_on (hseen : s.existing? caller id = some rule) (change : Change) :
    (change.direct caller id).on s = match change.check id s.lineOrder with
      | .error fault => (.error fault, s)
      | .ok () =>
        if s.owner? id = some caller.userId then (.ok (change.answer id), change.made caller id s)
        else (.error (s.lockRefusal id), s.tick) := by
  cases change with
  | enable enabled =>
    refine (setEnabled_on caller id s enabled).trans ?_
    rw [hseen]
    rfl
  | delete =>
    refine (deleteRecord_on caller id s).trans ?_
    rw [hseen]
    rfl
  | save content =>
    refine (saveRecord_on caller s ⟨some id, content⟩).trans ?_
    rw [check]
    cases (RuleForm.mk (some id) content).validate s.lineOrder with
    | error fault => rfl
    | ok =>
      refine (update_on caller id s content).trans ?_
      rw [hseen]
      rfl

/-- Behind a snapshot of the record, the gateway checks the form and the snapshot, and leaves the
rest to the store. -/
theorem behind_on {snapshot : RuleRecord} (hid : snapshot.id = id) (order : LineOrder)
    (change : Change) :
    (change.behind (session caller) id snapshot order).on s = match change.check id order with
      | .error fault => (.error fault, s)
      | .ok () =>
        if snapshot.isEditable then (change.direct caller id).on s
        else (.error snapshot.notEditable, s) := by
  subst hid
  cases change with
  | enable enabled => exact Console.guarded_on ..
  | delete => exact Console.guarded_on ..
  | save content =>
    refine (Console.save_update_on (session caller) content snapshot order s).trans ?_
    rw [check]
    cases (RuleForm.mk (some snapshot.id) content).validate order with
    | error fault => rfl
    | ok => exact Console.guarded_on ..

end Change

/-! ## A snapshot that has just been read -/

variable {caller : Caller} {id : Int64} {rule : StoredRule} {s : MemoryStore}

/-- What a caller reads of a record now. -/
def snapshot (s : MemoryStore) (caller : Caller) (id : Int64) (rule : StoredRule) : RuleRecord :=
  s.record rule (lockFor caller (s.holder id))

theorem getRecord_snapshot (hseen : s.existing? caller id = some rule) :
    (getRecord caller id).on s = (.ok (s.snapshot caller id rule), s.tick) := by
  rw [getRecord_on, hseen]
  rfl

/-- A snapshot lets a change through where the store would. -/
theorem isEditable_snapshot_iff :
    (s.snapshot caller id rule).isEditable = true ↔ s.owner? id = some caller.userId := by
  have hmine := (shows_lockFor caller (s.holder id)).mine
  rw [LockState.owner?_ofHolder?] at hmine
  exact hmine

/-- A snapshot that does not gives the name that the store would give. -/
theorem notEditable_snapshot (hid : rule.id = id) (hother : s.owner? id ≠ some caller.userId) :
    (s.snapshot caller id rule).notEditable = s.lockRefusal id := by
  subst hid
  rw [owner?] at hother
  rw [lockRefusal, RuleRecord.notEditable, snapshot]
  cases hholder : s.holder rule.id with
  | none => rfl
  | some h =>
    rw [hholder, Option.map_some, Ne, Option.some_inj] at hother
    rw [lockFor, if_neg hother]
    rfl

/-- What comes of a change behind a fresh snapshot, where the lease has not run out since. -/
theorem Change.guarded_on (hseen : s.existing? caller id = some rule)
    (hlive : s.tick.holder id = s.holder id) (order : LineOrder) (change : Change) :
    (change.guarded caller id order).on s = match change.check id order with
      | .error fault => (.error fault, s.tick)
      | .ok () =>
        if s.owner? id = some caller.userId then
          (.ok (change.answer id), change.made caller id s.tick)
        else (.error (s.lockRefusal id), s.tick) := by
  have hid : rule.id = id := id_of_existing? hseen
  have hread : (s.snapshot caller id rule).id = id := hid
  have howner : s.tick.owner? id = s.owner? id := congrArg (Option.map LockHolder.owner) hlive
  rw [guarded, Attempt.on_bind_ok (getRecord_snapshot hseen), behind_on hread]
  cases hcheck : change.check id order with
  | error fault => rfl
  | ok =>
    -- The store checks the form again, in its own order, and finds it right again.
    have hagain : change.check id s.tick.lineOrder = .ok () := check_of_check hcheck
    by_cases hmine : s.owner? id = some caller.userId
    · have heditable : (s.snapshot caller id rule).isEditable = true :=
        isEditable_snapshot_iff.mpr hmine
      simp only [heditable, hmine, if_true, direct_on (s := s.tick) hseen, hagain, howner]
    · have hlocked : (s.snapshot caller id rule).isEditable = false :=
        Bool.eq_false_iff.mpr fun h => hmine (isEditable_snapshot_iff.mp h)
      simp only [hlocked, hmine, Bool.false_eq_true, if_false, notEditable_snapshot hid hmine]

/-! ## The same done at different times

Two looks at the clock lie between the two ways of making a change, so times differ and nothing else
does. -/

/-- The record without the time of its last change. -/
def undated (rule : StoredRule) : StoredRule := { rule with modifiedAt := 0 }

/-- Two stores have the same records under the same leases, but for the times at which records were
changed and from which leases are counted. -/
structure AgreesButForTimes (s t : MemoryStore) : Prop where
  rules : ∀ id, (t.rules.find? id).map undated = (s.rules.find? id).map undated
  holders : ∀ id, (t.leases.leases.find? id).map (·.holder)
    = (s.leases.leases.find? id).map (·.holder)
  policy : t.leases.policy = s.leases.policy
  term : t.leases.term = s.leases.term
  ruleNames : t.ruleNames = s.ruleNames
  tenantNames : t.tenantNames = s.tenantNames
  nextId : t.nextId = s.nextId

theorem Keeps.agreesButForTimes {s t : MemoryStore} (h : Keeps s t) : AgreesButForTimes s t where
  rules id := by rw [h.rules]
  holders id := by rw [h.leases]
  policy := by rw [h.leases]
  term := by rw [h.leases]
  ruleNames := h.ruleNames
  tenantNames := h.tenantNames
  nextId := h.nextId

theorem undated_rewritten (s : MemoryStore) (id : Int64) (f : RuleContent → RuleContent)
    (k : Int64) : ((s.tick.rewritten id f).rules.find? k).map undated
      = ((s.rewritten id f).rules.find? k).map undated := by
  rw [rewritten_rules, rewritten_rules, Table.find?_modify, Table.find?_modify]
  split
  · rw [Option.map_map, Option.map_map]
    rfl
  · rfl

/-- A change that is made a little later. -/
theorem agrees_made (caller : Caller) (id : Int64) (s : MemoryStore) (change : Change) :
    AgreesButForTimes (change.made caller id s) (change.made caller id s.tick) := by
  cases change with
  | enable enabled =>
    exact ⟨undated_rewritten s.tick id _, fun _ => rfl, rfl, rfl, rfl, rfl, rfl⟩
  | delete => exact ⟨fun _ => rfl, fun _ => rfl, rfl, rfl, rfl, rfl, rfl⟩
  | save content =>
    refine ⟨undated_rewritten s.tick id fun _ => content, fun k => ?_, ?_, ?_, rfl, rfl, rfl⟩
    · exact (LeaseTable.map_holder_renew ..).trans (LeaseTable.map_holder_renew ..).symm
    · exact LeaseTable.renew_policy.trans LeaseTable.renew_policy.symm
    · exact LeaseTable.renew_term.trans LeaseTable.renew_term.symm

/-! ## Both ways of making a change

`SameOutcome` compares answers and stores. It is proved once from the same store and once from the
store after the reading. -/

/-- A refusal because somebody else, or nobody, holds the lock. -/
def IsLockRefusal {α : Type} (outcome : Except Fault α) : Prop :=
  ∃ id holder, outcome = .error (.lockNotHeld id holder)

/-- What a change comes to at once, where refusals of the store have one order of lines, and behind
a fresh snapshot, where those of the gateway have another. -/
structure SameOutcome {α : Type} (order order' : LineOrder)
    (direct guarded : Except Fault α × MemoryStore) : Prop where
  answer : SameAnswer order order' direct.1 guarded.1
  store : AgreesButForTimes direct.2 guarded.2

/-- The change made at once. -/
theorem Change.sameOutcome (hseen : s.existing? caller id = some rule)
    (hlive : s.tick.holder id = s.holder id) (order : LineOrder) (change : Change) :
    SameOutcome s.lineOrder order ((change.direct caller id).on s)
      ((change.guarded caller id order).on s) := by
  rw [direct_on hseen, guarded_on hseen hlive]
  rcases (change.sameAnswer_check id s.lineOrder order).passed_or_refused with
    ⟨hcheck, hcheck'⟩ | ⟨fault, fault', hcheck, hcheck', hsame⟩ <;> rw [hcheck, hcheck']
  · by_cases hmine : s.owner? id = some caller.userId
    · simp only [hmine, if_true]
      exact ⟨.refl _, agrees_made caller id s change⟩
    · simp only [hmine, if_false]
      exact ⟨.refl _, (Keeps.refl s.tick).agreesButForTimes⟩
  · exact ⟨hsame, (keeps_tick s).agreesButForTimes⟩

/-- The change made at the same moment, after the same reading. -/
theorem Change.guarded_direct (hseen : s.existing? caller id = some rule)
    (hlive : s.tick.holder id = s.holder id) (order : LineOrder) (change : Change) :
    SameAnswer s.lineOrder order ((change.direct caller id).on s.tick).1
        ((change.guarded caller id order).on s).1
      ∧ Keeps ((change.guarded caller id order).on s).2
        ((change.direct caller id).on s.tick).2 := by
  have hseen' : s.tick.existing? caller id = some rule := hseen
  have howner : s.tick.owner? id = s.owner? id := congrArg (Option.map LockHolder.owner) hlive
  have hrefusal : s.tick.lockRefusal id = s.lockRefusal id := by
    rw [lockRefusal, lockRefusal, hlive]
  rw [guarded_on hseen hlive, direct_on hseen', howner, hrefusal, tick_lineOrder]
  rcases (change.sameAnswer_check id s.lineOrder order).passed_or_refused with
    ⟨hcheck, hcheck'⟩ | ⟨fault, fault', hcheck, hcheck', hsame⟩ <;> rw [hcheck, hcheck']
  · by_cases hmine : s.owner? id = some caller.userId
    · simp only [hmine, if_true]
      exact ⟨.refl _, .refl _⟩
    · simp only [hmine, if_false]
      exact ⟨.refl _, keeps_tick _⟩
  · exact ⟨hsame, .refl _⟩

/-- The store refuses a change that needs no check for its lock, or it does not refuse it at all. -/
theorem not_isLockRefusal_iff (hseen : s.existing? caller id = some rule) {change : Change}
    (hcheck : change.check id s.lineOrder = .ok ()) :
    ¬ IsLockRefusal ((change.direct caller id).on s).1 ↔ s.owner? id = some caller.userId := by
  rw [Change.direct_on hseen, hcheck]
  by_cases hmine : s.owner? id = some caller.userId
  · simp [hmine, IsLockRefusal]
  · simp [hmine, IsLockRefusal, lockRefusal]

/-- **A fresh snapshot decides as the store does.** On every store, where a caller reads a record
and at once makes a change of it through the gateway, and the lease does not run out in between, the
change is answered as it would have been without the gateway, refusals and the holders that they
name included, and leaves the same behind. Where a form is refused for two fields, the gateway may
name them in another order than the store would; that is the only difference, and where both have
the same order there is none. The snapshot says that the lock is the caller's exactly where the
store would not refuse for the sake of the lock.

The direct change is looked at twice: made at once, so that only times differ in what it leaves; and
made at the moment at which the gateway makes it, so that nothing differs. -/
theorem fresh_snapshot_decides (s : MemoryStore) (caller : Caller) (id : Int64) (rule : StoredRule)
    (hseen : s.existing? caller id = some rule) (hlive : s.tick.holder id = s.holder id) :
    (∀ (change : Change) (order : LineOrder),
        SameOutcome s.lineOrder order ((change.direct caller id).on s)
          ((change.guarded caller id order).on s)
        ∧ SameAnswer s.lineOrder order ((change.direct caller id).on s.tick).1
          ((change.guarded caller id order).on s).1
        ∧ Keeps ((change.guarded caller id order).on s).2 ((change.direct caller id).on s.tick).2)
      ∧ ∃ snapshot, (getRecord caller id).on s = (.ok snapshot, s.tick)
        ∧ (∀ enabled, snapshot.isEditable = true
          ↔ ¬ IsLockRefusal (((Change.enable enabled).direct caller id).on s).1)
        ∧ (snapshot.isEditable = true
          ↔ ¬ IsLockRefusal ((Change.delete.direct caller id).on s).1) := by
  refine ⟨fun change order =>
      ⟨change.sameOutcome hseen hlive order, change.guarded_direct hseen hlive order⟩,
    s.snapshot caller id rule, getRecord_snapshot hseen, fun enabled => ?_, ?_⟩
  · rw [not_isLockRefusal_iff hseen rfl, isEditable_snapshot_iff]
  · rw [not_isLockRefusal_iff hseen rfl, isEditable_snapshot_iff]

/-- Bob is refused by his snapshot of Alice's record as he would be by the store. -/
theorem fresh_snapshot_decides_drafted :
    (drafted .grab).store.existing? bob 1 = some draftedRule
      ∧ (drafted .grab).store.tick.holder 1 = (drafted .grab).store.holder 1
      ∧ ((Change.delete.guarded bob 1 .codeFirst).on (drafted .grab).store).1
        = .error (.lockNotHeld 1 (some "Alice")) := by
  have hseen : (drafted .grab).store.existing? bob 1 = some draftedRule := by decide
  have hlive : (drafted .grab).store.tick.holder 1 = (drafted .grab).store.holder 1 := by decide
  refine ⟨hseen, hlive, ?_⟩
  obtain ⟨hsame, -⟩ := fresh_snapshot_decides (drafted .grab).store bob 1 draftedRule hseen hlive
  exact ((hsame .delete .codeFirst).1.answer.eq_of_order rfl).symm.trans rfl

end MemoryStore
end Whitelist
