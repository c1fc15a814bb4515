import Whitelist.Proofs.Console.Gateway
import Whitelist.Proofs.Lease
import Whitelist.Proofs.Store.Outcome

/-!
# Runs of the in-process store

A run is a list of steps, taken one after another by any number of callers: calls, changes through
the gateway behind any snapshot at all, and what happens beside them: names made known, leases swept
or renewed, time passing, and another order coming up in which refusals name fields. What nobody
decides, the time and that order, is in the store as data, and the steps `elapse` and `reorder` may
change it between any two others; so a statement on all runs is one on all that may come of them.

## What is here

* `Step`, `Step.on` — the steps, and what comes of each.
* `Event`, `Deed`, `Event.deed?` — a step with its answer, and what was done by it.
* `after`, `history`, `deeds` — the store after some steps, their events, and what was done by them.
* `holds_after` — what every step keeps, a run keeps.
* `Run` — steps taken from a store without records. `drafted` is one of a single step.
* `Effect` — everything that one step can do to a store. `Step.effect` says that there is nothing
  else; later statements about steps are proved by going through the cases of `Effect`.
* `Effect.changes` — who changes a record.

`Effect` is the inversion of `Step.on`: a step is one of thirteen things, each with the guards it
has passed. It is proved once, from the equations of `Proofs.Store.Outcome`; an invariant of runs is
then a proof by cases on `Effect` and an appeal to `holds_after`, with no call in sight.
-/

set_option autoImplicit false
namespace Whitelist

/-- The record that a call is to change. -/
def StoreCall.target? : StoreCall → Option Int64
  | .setEnabled id _ => some id
  | .deleteRecord id => some id
  | .saveRecord form => form.id
  | _ => none

namespace MemoryStore

/-! ## Steps

A step is either the call of some caller, made directly or behind a snapshot of the record, or
something that happens without a caller. `request?` tells the two apart, and that is how `Effect`
makes sure that nobody's record is changed by a sweep or by the time. -/

/-- One step of a run. -/
inductive Step where
  | ask (caller : Caller) (call : StoreCall)
  | guardedEnable (caller : Caller) (snapshot : RuleRecord) (enabled : Bool)
  | guardedDelete (caller : Caller) (snapshot : RuleRecord)
  | guardedSave (caller : Caller) (form : RuleForm) (snapshot : Option RuleRecord)
  | registerRule (code name : String)
  | registerTenant (tenantId : Int64) (name : String)
  | purge
  | sweep
  | renew (id : Int64) (owner : String)
  | elapse (pause : Nat)
  | reorder (order : LineOrder)

namespace Step

/-- What a step is answered with where it is not refused. -/
@[reducible] def Answer : Step → Type
  | ask _ call => call.Answer
  | guardedEnable .. => Unit
  | guardedDelete .. => Unit
  | guardedSave .. => Int64
  | registerRule .. => Unit
  | registerTenant .. => Unit
  | purge => Nat
  | sweep => Bool
  | renew .. => Bool
  | elapse _ => Unit
  | reorder _ => Unit

/-- A step as an attempt on the store. -/
def attempt : (step : Step) → Attempt MemoryStore step.Answer
  | ask caller call => (session caller).answer call
  | guardedEnable caller snapshot enabled => Console.setEnabled (session caller) snapshot enabled
  | guardedDelete caller snapshot => Console.delete (session caller) snapshot
  -- The form is checked here and again by the store, but only one of the two checks can refuse it.
  | guardedSave caller form snapshot => .of fun s =>
    (Console.save (session caller) form snapshot s.lineOrder).on s
  | registerRule code name => .of fun s => (.ok (), s.registerRule code name)
  | registerTenant tenantId name => .of fun s => (.ok (), s.registerTenant tenantId name)
  | purge => .of fun s => (.ok s.purgeLeases.1, s.purgeLeases.2)
  | sweep => .of fun s =>
    (.ok (s.leases.sweep s.clock.now).1, { s with leases := (s.leases.sweep s.clock.now).2 })
  | renew id owner => .of fun s => (.ok (s.renewLease id owner).1, (s.renewLease id owner).2)
  | elapse pause => .of fun s => (.ok (), { s with clock := s.clock.elapse pause })
  | reorder order => .of fun s => (.ok (), { s with lineOrder := order })

/-- What comes of a step. -/
def on (step : Step) (s : MemoryStore) : Except Fault step.Answer × MemoryStore :=
  step.attempt.on s

/-- Who takes a step, and the call that it makes to the store, if it makes one. A step that a caller
takes through the gateway may be refused before it makes its call. -/
def request? : Step → Option (Caller × StoreCall)
  | ask caller call => some (caller, call)
  | guardedEnable caller snapshot enabled => some (caller, .setEnabled snapshot.id enabled)
  | guardedDelete caller snapshot => some (caller, .deleteRecord snapshot.id)
  | guardedSave caller form _ => some (caller, .saveRecord form)
  | _ => none

/-- A step has one caller. -/
theorem caller_unique {step : Step} {x y : Caller} {call call' : StoreCall}
    (hx : step.request? = some (x, call)) (hy : step.request? = some (y, call')) : y = x := by
  rw [hx, Option.some_inj, Prod.mk.injEq] at hy
  exact hy.1.symm

end Step

/-! ## Events

An event keeps the whole answer, so that statements about answers are statements about events. Most
statements ask for less, namely what was done: `Deed` forgets refusals and reads. -/

/-- What was done by a call that was not refused, other than reading. -/
inductive Deed where
  | grab (caller : Caller) (id : Int64)
  | release (caller : Caller) (id : Int64)
  | enable (caller : Caller) (id : Int64) (enabled : Bool)
  | update (caller : Caller) (id : Int64) (content : RuleContent)
  | delete (caller : Caller) (id : Int64)
  | create (caller : Caller) (id : Int64) (content : RuleContent)
  deriving DecidableEq

/-- What was done by a call with this answer. -/
def callDeed? (caller : Caller) : (call : StoreCall) → call.Answer → Option Deed
  | .grabLock id, _ => some (.grab caller id)
  | .releaseLock id, _ => some (.release caller id)
  | .setEnabled id enabled, _ => some (.enable caller id enabled)
  | .deleteRecord id, _ => some (.delete caller id)
  | .saveRecord form, id =>
    if form.isUpdate then some (.update caller id form.content)
    else some (.create caller id form.content)
  | _, _ => none

/-- What was done by a step with this answer. -/
def Step.deed? : (step : Step) → step.Answer → Option Deed
  | ask caller call, answer => callDeed? caller call answer
  | guardedEnable caller snapshot enabled, answer =>
    callDeed? caller (.setEnabled snapshot.id enabled) answer
  | guardedDelete caller snapshot, answer => callDeed? caller (.deleteRecord snapshot.id) answer
  | guardedSave caller form _, answer => callDeed? caller (.saveRecord form) answer
  | _, _ => none

/-- A step with its answer. -/
structure Event where
  step : Step
  answer : Except Fault step.Answer

/-- What was done, if the step was not refused and did not only read. -/
def Event.deed? (event : Event) : Option Deed := event.answer.toOption.bind event.step.deed?

/-- Who did it. -/
def Deed.caller : Deed → Caller
  | grab caller _ | release caller _ | enable caller _ _ | update caller _ _ | delete caller _
  | create caller _ _ => caller

/-- Whether a record was created. -/
def Deed.isCreation : Deed → Bool
  | create .. => true
  | _ => false

/-- The step with the answer that it gets from a store. -/
def Step.event (step : Step) (s : MemoryStore) : Event := ⟨step, (step.on s).1⟩

/-! ## Runs

`after` is what a run leaves and `history` what it says. Both start at any store, so that the
induction can go on from the middle of a run; `Run` fixes where a run of the program starts. -/

/-- A store without records, whose leases follow a policy and last so long. -/
def start (policy : LockPolicy) (term : Option Nat) (clock : Clock) : MemoryStore :=
  { leases := .new policy term, clock }

/-- The store after a run. -/
def after (s : MemoryStore) (steps : List Step) : MemoryStore :=
  steps.foldl (fun s step => (step.on s).2) s

/-- The events of a run. -/
def history : MemoryStore → List Step → List Event
  | _, [] => []
  | s, step :: rest => step.event s :: history (step.on s).2 rest

/-- What was done in a run, in order. -/
def deeds (events : List Event) : List Deed := events.filterMap Event.deed?

/-- How many records were created. -/
def creations (events : List Event) : Nat := (deeds events).countP Deed.isCreation

@[simp] theorem after_nil (s : MemoryStore) : s.after [] = s := rfl

@[simp] theorem after_cons (s : MemoryStore) (step : Step) (rest : List Step) :
    s.after (step :: rest) = (step.on s).2.after rest := rfl

theorem after_append (s : MemoryStore) (l m : List Step) :
    s.after (l ++ m) = (s.after l).after m := List.foldl_append

/-- What every step keeps, a run keeps. -/
theorem holds_after {P : MemoryStore → Prop} {s : MemoryStore} (hs : P s)
    (hstep : ∀ (t : MemoryStore) (step : Step), P t → P (step.on t).2) (steps : List Step) :
    P (s.after steps) := by
  induction steps generalizing s with
  | nil => exact hs
  | cons step rest ih => exact ih (hstep s step hs)

/-- The events of a longer run: those of its first part, and those of the rest from where that part
ended. -/
theorem history_append (s : MemoryStore) (l m : List Step) :
    s.history (l ++ m) = s.history l ++ (s.after l).history m := by
  induction l generalizing s with
  | nil => rfl
  | cons step rest ih => rw [List.cons_append, history, ih, history, after_cons, List.cons_append]

theorem deeds_history_cons (s : MemoryStore) (step : Step) (rest : List Step) :
    deeds (s.history (step :: rest))
      = (step.event s).deed?.toList ++ deeds ((step.on s).2.history rest) := by
  rw [history, deeds, List.filterMap_cons]
  cases (step.event s).deed? <;> rfl

/-- What a step does in the middle of a run stands in the deeds of the run. -/
theorem mem_deeds_history {s : MemoryStore} {l m : List Step} {step : Step} {d : Deed}
    (h : (step.event (s.after l)).deed? = some d) : d ∈ deeds (s.history (l ++ step :: m)) := by
  rw [history_append, history]
  exact List.mem_filterMap.mpr ⟨_, List.mem_append_right _ List.mem_cons_self, h⟩

theorem creations_history_cons (s : MemoryStore) (step : Step) (rest : List Step) :
    creations (s.history (step :: rest)) = (step.event s).deed?.toList.countP Deed.isCreation
      + creations ((step.on s).2.history rest) := by
  rw [creations, deeds_history_cons, List.countP_append, creations]

theorem creations_append (l m : List Event) : creations (l ++ m) = creations l + creations m := by
  rw [creations, deeds, List.filterMap_append, List.countP_append, creations, creations, deeds,
    deeds]

/-- A run of a store that starts without records, under some lock policy and length of leases. -/
structure Run where
  policy : LockPolicy
  term : Option Nat
  clock : Clock
  steps : List Step

namespace Run

/-- The store after the run. -/
def store (run : Run) : MemoryStore := (start run.policy run.term run.clock).after run.steps

/-- The events of the run. -/
def events (run : Run) : List Event := (start run.policy run.term run.clock).history run.steps

/-- The run with more steps after it. -/
def followedBy (run : Run) (steps : List Step) : Run := { run with steps := run.steps ++ steps }

/-- No lease ever runs out. A term of no length counts as none. -/
def NeverExpires (run : Run) : Prop := run.term = none ∨ run.term = some 0

theorem store_followedBy (run : Run) (steps : List Step) :
    (run.followedBy steps).store = run.store.after steps := after_append ..

theorem events_followedBy (run : Run) (steps : List Step) :
    (run.followedBy steps).events = run.events ++ run.store.history steps := history_append ..

end Run

/-! ## A first record

The smallest run in which there is something to hold: one user has created one record. -/

def alice : Caller := { userId := "u-alice", username := "Alice" }

def bob : Caller := { userId := "u-bob", username := "Bob" }

def draft : RuleContent := { code := "GLOBAL", name := "draft", enabled := true }

/-- Alice has created a record. -/
def drafted (policy : LockPolicy) : Run :=
  ⟨policy, none, {}, [.ask alice (.saveRecord ⟨none, draft⟩)]⟩

/-- The record as it is stored. -/
def draftedRule : StoredRule := ⟨1, draft, none, "Alice", 0, 0⟩

/-- The record as the holder of its lease sees it. -/
def draftedRecord (holder : Caller) : RuleRecord :=
  record {} draftedRule (.heldByCaller holder.username)

/-! ## What a step can do

The constructors carry what the call has checked before it came this far: that the caller sees the
record (`hseen`), that the caller holds its live lease (`howner`), that the content passed
(`hcheck`), that the name was free (`hnew`). All refusals are `read`: apart from some looks at the
clock, a refused call leaves what it found. -/

variable {s t : MemoryStore} {step : Step} {deed : Option Deed}

/-- Everything that a step can do to a store: which call made by whom, what has to hold for it, and
the store that it leaves. -/
inductive Effect (s : MemoryStore) (step : Step) : Option Deed → MemoryStore → Prop
  | read (looks : Nat) : Effect s step none (tick^[looks] s)
  | grabbed {caller : Caller} {id : Int64} {rule : StoredRule}
      (hreq : step.request? = some (caller, .grabLock id))
      (hseen : s.existing? caller id = some rule) :
      Effect s step (some (.grab caller id)) (s.granted caller id).tick
  | released {caller : Caller} {id : Int64} {rule : StoredRule}
      (hreq : step.request? = some (caller, .releaseLock id))
      (hseen : s.existing? caller id = some rule) :
      Effect s step (some (.release caller id)) (s.freed caller id)
  | enabled {caller : Caller} {id : Int64} {rule : StoredRule} {enabled : Bool}
      (hreq : step.request? = some (caller, .setEnabled id enabled))
      (hseen : s.existing? caller id = some rule) (howner : s.owner? id = some caller.userId) :
      Effect s step (some (.enable caller id enabled))
        (s.tick.rewritten id fun content => { content with enabled })
  | updated {caller : Caller} {id : Int64} {rule : StoredRule} {content : RuleContent}
      (hreq : step.request? = some (caller, .saveRecord ⟨some id, content⟩))
      (hseen : s.existing? caller id = some rule) (howner : s.owner? id = some caller.userId)
      (hcheck : RuleForm.checkContent content = .ok ()) :
      Effect s step (some (.update caller id content))
        ((s.tick.rewritten id fun _ => content).renewedFor caller id)
  | deleted {caller : Caller} {id : Int64} {rule : StoredRule}
      (hreq : step.request? = some (caller, .deleteRecord id))
      (hseen : s.existing? caller id = some rule) (howner : s.owner? id = some caller.userId) :
      Effect s step (some (.delete caller id)) (s.tick.removed id)
  | created {caller : Caller} {content : RuleContent}
      (hreq : step.request? = some (caller, .saveRecord ⟨none, content⟩))
      (hcheck : RuleForm.checkContent content = .ok ()) (hnew : s.hasNamesake content = false) :
      Effect s step (some (.create caller s.nextId content)) (s.added caller content)
  | namedRule (hreq : step.request? = none) (code name : String) :
      Effect s step none (s.registerRule code name)
  | namedTenant (hreq : step.request? = none) (tenantId : Int64) (name : String) :
      Effect s step none (s.registerTenant tenantId name)
  | purged (hreq : step.request? = none) : Effect s step none s.purgeLeases.2
  | renewed (hreq : step.request? = none) (id : Int64) (owner : String) :
      Effect s step none (s.renewLease id owner).2
  | elapsed (hreq : step.request? = none) (pause : Nat) :
      Effect s step none { s with clock := s.clock.elapse pause }
  | reordered (hreq : step.request? = none) (order : LineOrder) :
      Effect s step none { s with lineOrder := order }

/-- A form that has passed is one whose content passes, in whatever order its lines would have come.
-/
theorem checkContent_of_validate {form : RuleForm} {order : LineOrder}
    (h : form.validate order = .ok ()) : RuleForm.checkContent form.content = .ok () := by
  rw [RuleForm.validate, RuleForm.check] at h
  split at h
  · assumption
  · cases h

/-- What is done and left by a call that has this outcome. -/
theorem Effect.of_on {caller : Caller} {call : StoreCall}
    {outcome : Except Fault call.Answer × MemoryStore}
    (hon : ((session caller).answer call).on s = outcome)
    (h : Effect s step (outcome.1.toOption.bind (callDeed? caller call)) outcome.2) :
    Effect s step ((((session caller).answer call).on s).1.toOption.bind (callDeed? caller call))
      (((session caller).answer call).on s).2 := by
  rwa [hon]

/-- The effect of a call that a step makes. -/
theorem effect_call (s : MemoryStore) {caller : Caller} {call : StoreCall}
    (hreq : step.request? = some (caller, call)) :
    Effect s step
      ((((session caller).answer call).on s).1.toOption.bind (callDeed? caller call))
      (((session caller).answer call).on s).2 := by
  cases call with
  | grabLock id =>
    refine .of_on (grabLock_on caller id s) ?_
    split
    · exact .grabbed hreq ‹_›
    · exact .read 0
  | releaseLock id =>
    refine .of_on (releaseLock_on caller id s) ?_
    split
    · exact .released hreq ‹_›
    · exact .read 0
  | listRecords query page size =>
    refine .of_on (listRecords_on caller s query page size) ?_
    split
    · exact .read 0
    · exact .read (s.visible caller).length
  | listGroups query page size => exact .read 0
  | getRecord id =>
    refine .of_on (getRecord_on caller id s) ?_
    split
    · exact .read 1
    · exact .read 0
  | setEnabled id enabled =>
    refine .of_on (setEnabled_on caller id s enabled) ?_
    split
    · split
      · exact .enabled hreq ‹_› ‹_›
      · exact .read 1
    · exact .read 0
  | deleteRecord id =>
    refine .of_on (deleteRecord_on caller id s) ?_
    split
    · split
      · exact .deleted hreq ‹_› ‹_›
      · exact .read 1
    · exact .read 0
  | saveRecord form =>
    -- The form is checked before the record is looked for, so its cases come first here too.
    obtain ⟨id?, content⟩ := form
    have hon := saveRecord_on caller s ⟨id?, content⟩
    cases hvalid : (RuleForm.mk id? content).validate s.lineOrder with
    | error f =>
      rw [hvalid] at hon
      exact .of_on hon (.read 0)
    | ok =>
      have hcheck := checkContent_of_validate hvalid
      rw [hvalid] at hon
      cases id? with
      | some id =>
        refine .of_on (hon.trans (update_on caller id s content)) ?_
        split
        · split
          · exact .updated hreq ‹_› ‹_› hcheck
          · exact .read 1
        · exact .read 0
      | none =>
        refine .of_on (hon.trans (create_on caller s content)) ?_
        split
        · exact .read 0
        · exact .created hreq hcheck (Bool.eq_false_iff.mpr ‹_›)
  | operators => exact .read 0

/-- A snapshot stops a call, or lets it through as it is. -/
theorem effect_guarded (s : MemoryStore) {caller : Caller} {call : StoreCall}
    (hreq : step.request? = some (caller, call)) (snapshot : RuleRecord) :
    Effect s step
      (((Console.guarded snapshot ((session caller).answer call)).on s).1.toOption.bind
        (callDeed? caller call))
      ((Console.guarded snapshot ((session caller).answer call)).on s).2 := by
  rw [Console.guarded_on]
  split
  · exact effect_call s hreq
  · exact .read 0

/-- **A step does nothing but what `Effect` says.** -/
theorem Step.effect (step : Step) (s : MemoryStore) :
    Effect s step (step.event s).deed? (step.on s).2 := by
  cases step with
  | ask caller call => exact effect_call s rfl
  | guardedEnable caller snapshot enabled => exact effect_guarded s rfl snapshot
  | guardedDelete caller snapshot => exact effect_guarded s rfl snapshot
  | guardedSave caller form snapshot =>
    show Effect s _
      (((Console.save (session caller) form snapshot s.lineOrder).on s).1.toOption.bind
        (callDeed? caller (.saveRecord form)))
      ((Console.save (session caller) form snapshot s.lineOrder).on s).2
    rcases Console.save_on (session caller) s form snapshot s.lineOrder with ⟨f, hon⟩ | hon <;>
      rw [hon]
    · exact .read 0
    · exact effect_call s rfl
  | registerRule code name => exact .namedRule rfl code name
  | registerTenant tenantId name => exact .namedTenant rfl tenantId name
  | purge => exact .purged rfl
  | sweep =>
    show Effect s _ none { s with leases := (s.leases.sweep s.clock.now).2 }
    rw [LeaseTable.sweep]
    split
    · exact .read 0
    · exact .purged rfl
  | renew id owner => exact .renewed rfl id owner
  | elapse pause => exact .elapsed rfl pause
  | reorder order => exact .reordered rfl order

/-! ## Who changes a record

This is the lemma behind all statements on who may write. The second disjunct is there because the
counter of ids is a word and comes round: a creation may then fall on an id that is in use. -/

/-- A record is changed by a change of that very record, which a caller asked for who sees it and
holds its live lease. Otherwise a new record was put in its place, under the next id. -/
theorem Effect.changes {id : Int64} (h : Effect s step deed t)
    (hchanged : t.rules.find? id ≠ s.rules.find? id) :
    (∃ caller call rule, step.request? = some (caller, call) ∧ call.target? = some id
        ∧ s.existing? caller id = some rule ∧ s.owner? id = some caller.userId)
      ∨ ∃ caller content, step.request? = some (caller, .saveRecord ⟨none, content⟩)
        ∧ deed = some (.create caller id content) ∧ id = s.nextId := by
  have at_of_modify {i : Int64} {f : StoredRule → StoredRule}
      (hne : (s.rules.modify i f).find? id ≠ s.rules.find? id) : id = i := by
    by_contra hi
    exact hne (by rw [Table.find?_modify, if_neg hi])
  cases h with
  | read looks => exact absurd (by simp) hchanged
  | grabbed => exact absurd rfl hchanged
  | released => exact absurd rfl hchanged
  | enabled hreq hseen howner =>
    obtain rfl := at_of_modify hchanged
    exact .inl ⟨_, _, _, hreq, rfl, hseen, howner⟩
  | updated hreq hseen howner =>
    obtain rfl := at_of_modify hchanged
    exact .inl ⟨_, _, _, hreq, rfl, hseen, howner⟩
  | @deleted caller i rule hreq hseen howner =>
    have hi : id = i := by
      by_contra hi
      exact hchanged (by rw [removed_rules, tick_rules, Table.find?_erase, if_neg hi])
    obtain rfl := hi
    exact .inl ⟨_, _, _, hreq, rfl, hseen, howner⟩
  | @created caller content hreq =>
    have hid : id = s.nextId := by
      by_contra hid
      exact hchanged (by rw [added_rules, Table.find?_insert, if_neg hid])
    obtain rfl := hid
    exact .inr ⟨_, _, hreq, rfl, rfl⟩
  | namedRule => exact absurd rfl hchanged
  | namedTenant => exact absurd rfl hchanged
  | purged => exact absurd rfl hchanged
  | renewed => exact absurd rfl hchanged
  | elapsed => exact absurd rfl hchanged
  | reordered => exact absurd rfl hchanged

/-! ## Who comes to hold a lease

A lease is never handed to somebody who has not asked for it. `Deed.Takes` is the asking, and
`Effect.holder_of` says that a new holder has always done it in that very step. -/

/-- The caller has asked for the lease of a record, or has created the record. -/
def Deed.Takes (caller : Caller) (id : Int64) (deed : Deed) : Prop :=
  deed = .grab caller id ∨ ∃ content, deed = .create caller id content

/-- Whoever holds a lease after a step held it before, unless that step took it. -/
theorem Effect.holder_of {id : Int64} {holder : LockHolder} (h : Effect s step deed t)
    (hh : t.holder id = some holder) :
    (∃ caller d, deed = some d ∧ d.Takes caller id
        ∧ holder = ⟨caller.userId, caller.username⟩)
      ∨ s.holder id = some holder := by
  cases h with
  | read looks =>
    rw [MemoryStore.holder, iterate_tick_leases] at hh
    exact .inr (LeaseTable.holder_mono (now_le_iterate_tick looks s) hh)
  | @grabbed caller i =>
    rcases LeaseTable.holder_of_acquire hh with ⟨rfl, rfl⟩ | hold
    · exact .inl ⟨caller, _, rfl, .inl rfl, rfl⟩
    · exact .inr (LeaseTable.holder_mono (Nat.le_trans (now_le_tick s) (now_le_tick _)) hold)
  | released => exact .inr (LeaseTable.holder_of_release hh)
  | enabled => exact .inr (LeaseTable.holder_mono (Nat.le_trans (now_le_tick s) (now_le_tick _)) hh)
  | @updated caller i rule content =>
    have hold := LeaseTable.holder_of_renew (t := s.leases)
      (now_le_tick (s.tick.rewritten i fun _ => content)) hh
    exact .inr (LeaseTable.holder_mono (Nat.le_trans (now_le_tick s) (now_le_tick _)) hold)
  | deleted => exact .inr (LeaseTable.holder_mono (now_le_tick s) (LeaseTable.holder_of_forget hh))
  | @created caller content =>
    rcases LeaseTable.holder_of_assign hh with ⟨rfl, rfl⟩ | ⟨-, hold⟩
    · exact .inl ⟨caller, _, rfl, .inr ⟨content, rfl⟩, rfl⟩
    · exact .inr (LeaseTable.holder_mono (Nat.le_trans (now_le_tick s) (now_le_tick _)) hold)
  | namedRule => exact .inr hh
  | namedTenant => exact .inr hh
  | purged => exact .inr (LeaseTable.holder_of_purge hh)
  | renewed => exact .inr (LeaseTable.holder_of_renew (Nat.le_refl _) hh)
  | elapsed _ pause => exact .inr (LeaseTable.holder_mono (Nat.le_add_right ..) hh)
  | reordered => exact .inr hh

/-- What is done is done by whoever takes the step. -/
theorem Effect.caller_eq {d : Deed} {caller : Caller} {call : StoreCall}
    (h : Effect s step (some d) t) (hreq : step.request? = some (caller, call)) :
    d.caller = caller := by
  cases h with
  | grabbed hreq' => exact Step.caller_unique hreq hreq'
  | released hreq' => exact Step.caller_unique hreq hreq'
  | enabled hreq' => exact Step.caller_unique hreq hreq'
  | updated hreq' => exact Step.caller_unique hreq hreq'
  | deleted hreq' => exact Step.caller_unique hreq hreq'
  | created hreq' => exact Step.caller_unique hreq hreq'

/-- The policy and the term of leases never change. -/
theorem Effect.settings (h : Effect s step deed t) :
    t.leases.policy = s.leases.policy ∧ t.leases.term = s.leases.term := by
  cases h with
  | read looks => simp
  | grabbed => exact ⟨LeaseTable.acquire_policy, LeaseTable.acquire_term⟩
  | released => exact ⟨LeaseTable.release_policy, LeaseTable.release_term⟩
  | enabled => exact ⟨rfl, rfl⟩
  | updated => exact ⟨LeaseTable.renew_policy, LeaseTable.renew_term⟩
  | deleted => exact ⟨rfl, rfl⟩
  | created => exact ⟨rfl, rfl⟩
  | namedRule => exact ⟨rfl, rfl⟩
  | namedTenant => exact ⟨rfl, rfl⟩
  | purged => exact ⟨rfl, rfl⟩
  | renewed => exact ⟨LeaseTable.renew_policy, LeaseTable.renew_term⟩
  | elapsed => exact ⟨rfl, rfl⟩
  | reordered => exact ⟨rfl, rfl⟩

theorem after_settings (s : MemoryStore) (steps : List Step) :
    (s.after steps).leases.policy = s.leases.policy
      ∧ (s.after steps).leases.term = s.leases.term := by
  refine holds_after (P := fun t =>
    t.leases.policy = s.leases.policy ∧ t.leases.term = s.leases.term) ⟨rfl, rfl⟩ ?_ steps
  intro t step ht
  obtain ⟨hpolicy, hterm⟩ := (step.effect t).settings
  exact ⟨hpolicy.trans ht.1, hterm.trans ht.2⟩

theorem Run.policy_store (run : Run) : run.store.leases.policy = run.policy :=
  (after_settings ..).1

theorem Run.term_store (run : Run) (h : run.NeverExpires) : run.store.leases.term = none := by
  refine (after_settings ..).2.trans ?_
  show run.term.filter (· ≠ 0) = none
  rcases h with h | h <;> rw [h] <;> rfl

end MemoryStore
end Whitelist
