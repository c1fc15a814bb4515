import Whitelist.Proofs.Lease.Live
import Whitelist.Proofs.Rule.LineOrder
import Whitelist.Proofs.Store.Run

/-!
# Sweeping out leases is not seen

A store may be told to take out the entries of leases that have run out, by a call or by a sweeper
that passes from time to time. Nobody notices. Where the entries are still there, each call treats
them as if they were not: two stores that differ in nothing else answer every call alike and differ
in nothing else afterwards.

## What is here

* `SameButExpired` — two stores differ only in entries of leases that have run out.
* `SameButExpired.granted`, `SameButExpired.renewedFor` and their like — so they do after the same
  was done to both.
* `Unaffected` — two outcomes differ in nothing that can be seen. `unaffected_grabLock` and its like
  say so of each call, `Step.unaffected` of each step.
* `Step.evicts`, `Step.reorders`, `Step.isOptional` — the steps that sweep, those that change the
  order of lines, and both. `Step.sameButExpired_of_isOptional` is what they do.
* `sameEvents_neededSteps`, `history_neededSteps` — a run and the same run without its optional
  steps, side by side: the same events up to the order of lines, and equal ones where that order
  does not change.
* `eviction_unobservable` — two runs that differ in their optional steps only.

Two stores under `SameButExpired` are the same but for their leases and their order of lines, and of
the leases a call sees no more than `holder` and `owner?`. So each `unaffected_…` rewrites both
sides with the equation of its call (`grabLock_on` and its like), and is left with two stores to
which the same was done.
-/

set_option autoImplicit false
namespace Whitelist
namespace MemoryStore

open Attempt

/-! ## Stores that differ in what has run out

A lease that has run out stays so, for the clock is not set back. That is
`LeaseTable.SameLive.mono`, and it is why two stores still differ in nothing else after a call that
looks at the clock. -/

/-- The second store is the first with another table of leases, in which the same leases are live
now. It may also have another order for the lines of a refusal, which no rule fixes. -/
def SameButExpired (s t : MemoryStore) : Prop :=
  ∃ leases lineOrder, s.leases.SameLive s.clock.now leases ∧ t = { s with leases, lineOrder }

variable {s t : MemoryStore} {caller : Caller} {id : Int64} {order order' : LineOrder}

namespace SameButExpired

theorem refl (s : MemoryStore) : SameButExpired s s := ⟨s.leases, s.lineOrder, .refl .., rfl⟩

theorem symm (h : SameButExpired s t) : SameButExpired t s := by
  obtain ⟨leases, lineOrder, h, rfl⟩ := h
  exact ⟨s.leases, s.lineOrder, h.symm, rfl⟩

theorem trans {u : MemoryStore} (h : SameButExpired s t) (h' : SameButExpired t u) :
    SameButExpired s u := by
  obtain ⟨leases, lineOrder, h, rfl⟩ := h
  obtain ⟨leases', lineOrder', h', rfl⟩ := h'
  exact ⟨leases', lineOrder', h.trans h', rfl⟩

variable (h : SameButExpired s t)
include h

theorem rules : t.rules = s.rules := by
  obtain ⟨leases, lineOrder, -, rfl⟩ := h
  rfl

theorem existing? (caller : Caller) (id : Int64) :
    t.existing? caller id = s.existing? caller id := by
  rw [MemoryStore.existing?, MemoryStore.existing?, h.rules]

theorem visible (caller : Caller) : t.visible caller = s.visible caller := by
  rw [MemoryStore.visible, MemoryStore.visible, h.rules]

theorem record (rule : StoredRule) (lock : LockStatus) :
    t.record rule lock = s.record rule lock := by
  obtain ⟨leases, lineOrder, -, rfl⟩ := h
  rfl

theorem holder (id : Int64) : t.holder id = s.holder id := by
  obtain ⟨leases, lineOrder, h, rfl⟩ := h
  exact h.holder id

theorem owner? (id : Int64) : t.owner? id = s.owner? id := by
  rw [MemoryStore.owner?, MemoryStore.owner?, h.holder]

theorem lockRefusal (id : Int64) : t.lockRefusal id = s.lockRefusal id := by
  rw [MemoryStore.lockRefusal, MemoryStore.lockRefusal, h.holder]

/-! ### The same done to both -/

theorem tick : SameButExpired s.tick t.tick := by
  obtain ⟨leases, lineOrder, h, rfl⟩ := h
  exact ⟨leases, lineOrder, h.mono (now_le_tick s), rfl⟩

theorem iterate_tick (looks : Nat) :
    SameButExpired (MemoryStore.tick^[looks] s) (MemoryStore.tick^[looks] t) := by
  induction looks with
  | zero => exact h
  | succ n ih =>
    rw [Function.iterate_succ_apply', Function.iterate_succ_apply']
    exact ih.tick

theorem granted (caller : Caller) (id : Int64) :
    SameButExpired (s.granted caller id) (t.granted caller id) := by
  obtain ⟨leases, lineOrder, h, rfl⟩ := h
  exact ⟨_, lineOrder, (h.acquire id caller.userId caller.username).mono (now_le_tick s), rfl⟩

theorem freed (caller : Caller) (id : Int64) :
    SameButExpired (s.freed caller id) (t.freed caller id) := by
  obtain ⟨leases, lineOrder, h, rfl⟩ := h
  exact ⟨_, lineOrder, h.release id caller.userId, rfl⟩

theorem rewritten (id : Int64) (change : RuleContent → RuleContent) :
    SameButExpired (s.rewritten id change) (t.rewritten id change) := by
  obtain ⟨leases, lineOrder, h, rfl⟩ := h
  exact ⟨leases, lineOrder, h.mono (now_le_tick s), rfl⟩

theorem renewedFor (caller : Caller) (id : Int64) :
    SameButExpired (s.renewedFor caller id) (t.renewedFor caller id) := by
  obtain ⟨leases, lineOrder, h, rfl⟩ := h
  exact ⟨_, lineOrder, (h.renew id caller.userId).2.mono (now_le_tick s), rfl⟩

theorem removed (id : Int64) : SameButExpired (s.removed id) (t.removed id) := by
  obtain ⟨leases, lineOrder, h, rfl⟩ := h
  exact ⟨_, lineOrder, h.forget id, rfl⟩

theorem added (caller : Caller) (content : RuleContent) :
    SameButExpired (s.added caller content) (t.added caller content) := by
  obtain ⟨leases, lineOrder, h, rfl⟩ := h
  have hgiven := (h.mono (now_le_tick s)).assign s.nextId caller.userId caller.username
  exact ⟨_, lineOrder, hgiven.mono (now_le_tick s.tick), rfl⟩

end SameButExpired

/-! ## Calls

A guard asks who holds the lease now, and an entry that has run out has no holder. So a guard that
is met in one store is met in the other, and what follows is one of the changes above. -/

/-- Two outcomes, under an order of lines each, have the same answer and leave the same, but for
what has run out. -/
structure Unaffected {α : Type} (order order' : LineOrder)
    (o p : Except Fault α × MemoryStore) : Prop where
  answer : SameAnswer order order' o.1 p.1
  store : SameButExpired o.2 p.2

section Calls

variable (h : SameButExpired s t) (caller : Caller) (id : Int64)
include h

theorem unaffected_grabLock :
    Unaffected order order' ((grabLock caller id).on s) ((grabLock caller id).on t) := by
  have hgranted := h.granted caller id
  rw [grabLock_on, grabLock_on, h.existing?, hgranted.holder]
  cases s.existing? caller id with
  | none => exact ⟨.refl _, h⟩
  | some rule => exact ⟨.refl _, hgranted.tick⟩

theorem unaffected_releaseLock :
    Unaffected order order' ((releaseLock caller id).on s) ((releaseLock caller id).on t) := by
  rw [releaseLock_on, releaseLock_on, h.existing?]
  cases s.existing? caller id with
  | none => exact ⟨.refl _, h⟩
  | some rule => exact ⟨.refl _, h.freed caller id⟩

theorem unaffected_getRecord :
    Unaffected order order' ((getRecord caller id).on s) ((getRecord caller id).on t) := by
  rw [getRecord_on, getRecord_on, h.existing?, h.holder]
  cases s.existing? caller id with
  | none => exact ⟨.refl _, h⟩
  | some rule => exact ⟨.of_eq (congrArg Except.ok (h.record ..).symm), h.tick⟩

omit id in
theorem SameButExpired.rows (l : List (Int64 × StoredRule)) :
    rows caller t l = rows caller s l := by
  induction l generalizing s t with
  | nil => rfl
  | cons e rest ih => rw [MemoryStore.rows, MemoryStore.rows, h.holder, h.record, ih h.tick]

omit id in
theorem unaffected_listRecords (query : RecordQuery) (page size : UInt64) :
    Unaffected order order' ((listRecords caller query page size).on s)
      ((listRecords caller query page size).on t) := by
  have hlacks : t.lacksCreator query = s.lacksCreator query := by
    rw [lacksCreator, lacksCreator, h.rules]
  rw [listRecords_on, listRecords_on, hlacks, h.visible, h.rows]
  split
  · exact ⟨.refl _, h⟩
  · exact ⟨.refl _, h.iterate_tick _⟩

omit id in
theorem unaffected_listGroups (query : GroupQuery) (page size : UInt64) :
    Unaffected order order' ((listGroups caller query page size).on s)
      ((listGroups caller query page size).on t) := by
  obtain ⟨leases, lineOrder, hlive, rfl⟩ := h
  exact ⟨.refl _, leases, lineOrder, hlive, rfl⟩

/-- A change that is made where the caller holds the live lease, and refused otherwise. -/
theorem unaffected_underLock {α : Type} {answer : α} {s' t' : MemoryStore}
    (hmade : SameButExpired s' t') :
    Unaffected order order'
      (if s.owner? id = some caller.userId then (.ok answer, s')
        else (.error (s.lockRefusal id), s.tick))
      (if t.owner? id = some caller.userId then (.ok answer, t')
        else (.error (t.lockRefusal id), t.tick)) := by
  rw [h.owner?, h.lockRefusal]
  split
  · exact ⟨.refl _, hmade⟩
  · exact ⟨.refl _, h.tick⟩

theorem unaffected_setEnabled (enabled : Bool) :
    Unaffected order order' ((setEnabled caller id enabled).on s)
      ((setEnabled caller id enabled).on t) := by
  rw [setEnabled_on, setEnabled_on, h.existing?]
  cases s.existing? caller id with
  | none => exact ⟨.refl _, h⟩
  | some rule => exact unaffected_underLock h caller id (h.tick.rewritten id _)

theorem unaffected_deleteRecord :
    Unaffected order order' ((deleteRecord caller id).on s)
      ((deleteRecord caller id).on t) := by
  rw [deleteRecord_on, deleteRecord_on, h.existing?]
  cases s.existing? caller id with
  | none => exact ⟨.refl _, h⟩
  | some rule => exact unaffected_underLock h caller id (h.tick.removed id)

theorem unaffected_update (content : RuleContent) :
    Unaffected order order' ((update caller id content).on s)
      ((update caller id content).on t) := by
  rw [update_on, update_on, h.existing?]
  cases s.existing? caller id with
  | none => exact ⟨.refl _, h⟩
  | some rule =>
    exact unaffected_underLock h caller id ((h.tick.rewritten id _).renewedFor caller id)

omit id in
theorem unaffected_create (content : RuleContent) :
    Unaffected order order' ((create caller content).on s) ((create caller content).on t) := by
  have hnamesake : t.hasNamesake content = s.hasNamesake content := by
    rw [hasNamesake, hasNamesake, h.rules]
  have hnext : t.nextId = s.nextId := by
    obtain ⟨leases, lineOrder, -, rfl⟩ := h
    rfl
  rw [create_on, create_on, hnamesake, hnext]
  split
  · exact ⟨.refl _, h⟩
  · exact ⟨.refl _, h.added caller content⟩

omit id in
/-- A form that is refused is refused before the store is looked at. -/
theorem unaffected_saveRecord (form : RuleForm) :
    Unaffected s.lineOrder t.lineOrder ((saveRecord caller form).on s)
      ((saveRecord caller form).on t) := by
  rw [saveRecord_on, saveRecord_on]
  rcases (form.sameAnswer_validate s.lineOrder t.lineOrder).passed_or_refused with
    ⟨hs, ht⟩ | ⟨f, g, hs, ht, hsame⟩
  · rw [hs, ht]
    cases form.id with
    | none => exact unaffected_create h caller form.content
    | some id => exact unaffected_update h caller id form.content
  · rw [hs, ht]
    exact ⟨hsame, h⟩

omit id in
/-- **No call is affected** by entries of leases that have run out. -/
theorem unaffected_call (call : StoreCall) :
    Unaffected s.lineOrder t.lineOrder (((session caller).answer call).on s)
      (((session caller).answer call).on t) := by
  cases call with
  | grabLock id => exact unaffected_grabLock h caller id
  | releaseLock id => exact unaffected_releaseLock h caller id
  | listRecords query page size => exact unaffected_listRecords h caller query page size
  | listGroups query page size => exact unaffected_listGroups h caller query page size
  | getRecord id => exact unaffected_getRecord h caller id
  | setEnabled id enabled => exact unaffected_setEnabled h caller id enabled
  | deleteRecord id => exact unaffected_deleteRecord h caller id
  | saveRecord form => exact unaffected_saveRecord h caller form
  | operators => exact ⟨.refl _, h⟩

omit id in
/-- A snapshot stops a call or lets it through, whatever the store. -/
theorem unaffected_guarded (snapshot : RuleRecord) (call : StoreCall) :
    Unaffected s.lineOrder t.lineOrder
      ((Console.guarded snapshot ((session caller).answer call)).on s)
      ((Console.guarded snapshot ((session caller).answer call)).on t) := by
  rw [Console.guarded_on, Console.guarded_on]
  split
  · exact unaffected_call h caller call
  · exact ⟨.refl _, h⟩

omit id in
theorem unaffected_save (form : RuleForm) (snapshot : Option RuleRecord) :
    Unaffected s.lineOrder t.lineOrder
      ((Console.save (session caller) form snapshot s.lineOrder).on s)
      ((Console.save (session caller) form snapshot t.lineOrder).on t) := by
  cases hcheck : form.check with
  | error e =>
    rw [Console.save_on_of_invalid _ s hcheck, Console.save_on_of_invalid _ t hcheck]
    exact ⟨e.sameAnswer_error _ _, h⟩
  | ok =>
    rw [Console.save_eq_of_check _ hcheck t.lineOrder]
    rcases Console.admitted_or_refused form snapshot t.lineOrder with
      hadmitted | ⟨fault, hrefused⟩
    · rw [Console.save_on_of_admitted _ s hadmitted, Console.save_on_of_admitted _ t hadmitted]
      exact unaffected_call h caller (.saveRecord form)
    · rw [Console.save_on_of_refused _ s hrefused, Console.save_on_of_refused _ t hrefused]
      exact ⟨.refl _, h⟩

end Calls

/-! ## Steps

`reorder` is among the optional steps although it sweeps nothing. The order in which a refusal names
its fields is not for the store to keep, so a run that is compared with another may have its own. -/

/-- Whether the step sweeps out what has run out. -/
def Step.evicts : Step → Bool
  | purge | sweep => true
  | _ => false

/-- Whether the step changes the order in which a refusal names the fields. -/
def Step.reorders : Step → Bool
  | reorder _ => true
  | _ => false

/-- Whether a run may do the step or leave it: a sweep, or a change of an order that no rule
fixes. -/
def Step.isOptional (step : Step) : Bool := step.evicts || step.reorders

/-- **A step is affected by nothing that has run out**, unless it counts what it sweeps out. -/
theorem Step.unaffected (h : SameButExpired s t) {step : Step} (hstep : step.isOptional = false) :
    Unaffected s.lineOrder t.lineOrder (step.on s) (step.on t) := by
  cases step with
  | ask caller call => exact unaffected_call h caller call
  | guardedEnable caller snapshot enabled =>
    exact unaffected_guarded h caller snapshot (.setEnabled snapshot.id enabled)
  | guardedDelete caller snapshot =>
    exact unaffected_guarded h caller snapshot (.deleteRecord snapshot.id)
  | guardedSave caller form snapshot => exact unaffected_save h caller form snapshot
  | registerRule code name =>
    obtain ⟨leases, lineOrder, hlive, rfl⟩ := h
    exact ⟨.refl _, leases, lineOrder, hlive, rfl⟩
  | registerTenant tenantId name =>
    obtain ⟨leases, lineOrder, hlive, rfl⟩ := h
    exact ⟨.refl _, leases, lineOrder, hlive, rfl⟩
  | purge => cases hstep
  | sweep => cases hstep
  | renew id owner =>
    obtain ⟨leases, lineOrder, hlive, rfl⟩ := h
    obtain ⟨hanswer, hrenewed⟩ := hlive.renew id owner
    exact ⟨.of_eq (congrArg Except.ok hanswer.symm), _, lineOrder, hrenewed, rfl⟩
  | elapse pause =>
    obtain ⟨leases, lineOrder, hlive, rfl⟩ := h
    exact ⟨.refl _, leases, lineOrder, hlive.mono (Nat.le_add_right ..), rfl⟩
  | reorder order => cases hstep

/-- **A sweep takes out nothing else**, and an order of lines is nothing that is stored. -/
theorem Step.sameButExpired_of_isOptional {step : Step} (hstep : step.isOptional = true)
    (s : MemoryStore) : SameButExpired s (step.on s).2 := by
  cases step with
  | purge => exact ⟨_, s.lineOrder, LeaseTable.sameLive_purge s.clock.now s.leases, rfl⟩
  | sweep => exact ⟨_, s.lineOrder, LeaseTable.sameLive_sweep s.clock.now s.leases, rfl⟩
  | reorder order => exact ⟨s.leases, order, .refl .., rfl⟩
  | _ => cases hstep

theorem Effect.lineOrder {step : Step} {deed : Option Deed} (h : Effect s step deed t)
    (hstep : step.request? ≠ none) : t.lineOrder = s.lineOrder := by
  cases h with
  | read looks => rw [iterate_tick_lineOrder]
  | reordered hreq => exact absurd hreq hstep
  | _ => rfl

theorem Step.lineOrder_on {step : Step} (hstep : step.reorders = false) (s : MemoryStore) :
    (step.on s).2.lineOrder = s.lineOrder := by
  cases step with
  | ask caller call => exact ((Step.ask caller call).effect s).lineOrder nofun
  | guardedEnable caller snapshot enabled =>
    exact ((Step.guardedEnable caller snapshot enabled).effect s).lineOrder nofun
  | guardedDelete caller snapshot =>
    exact ((Step.guardedDelete caller snapshot).effect s).lineOrder nofun
  | guardedSave caller form snapshot =>
    exact ((Step.guardedSave caller form snapshot).effect s).lineOrder nofun
  | reorder order => cases hstep
  | _ => rfl

/-! ## Runs

The induction of `sameEvents_neededSteps` goes over the longer of two runs. Where it takes an
optional step the other run stands still; where it takes a needed one, both take it. Two runs with
their own sweeps are then compared through a third that has none, which is why `SameEvents` has to
be symmetric and transitive. -/

/-- The steps that are not optional. -/
def neededSteps (steps : List Step) : List Step := steps.filter fun step => !step.isOptional

/-- The events of a run whose steps are not optional. -/
def neededEvents (events : List Event) : List Event :=
  events.filter fun event => !event.step.isOptional

section Cons

variable {step : Step} {rest : List Step}

theorem neededSteps_cons_of_isOptional (h : step.isOptional = true) :
    neededSteps (step :: rest) = neededSteps rest := by
  simp [neededSteps, h]

theorem neededSteps_cons (h : step.isOptional = false) :
    neededSteps (step :: rest) = step :: neededSteps rest := by
  simp [neededSteps, h]

theorem neededEvents_cons_of_isOptional (h : step.isOptional = true) (s : MemoryStore) :
    neededEvents (s.history (step :: rest)) = neededEvents ((step.on s).2.history rest) := by
  simp [neededEvents, history, Step.event, h]

theorem neededEvents_cons (h : step.isOptional = false) (s : MemoryStore) :
    neededEvents (s.history (step :: rest))
      = step.event s :: neededEvents ((step.on s).2.history rest) := by
  simp [neededEvents, history, Step.event, h]

end Cons

/-- The same step, answered the same up to the order of lines. -/
inductive Event.SameUpToLines : Event → Event → Prop
  | mk {step : Step} {a b : Except Fault step.Answer} (h : UpToLines a b) :
    SameUpToLines ⟨step, a⟩ ⟨step, b⟩

namespace Event.SameUpToLines

variable {e f g : Event}

theorem symm (h : e.SameUpToLines f) : f.SameUpToLines e := by
  obtain ⟨h⟩ := h
  exact .mk h.symm

theorem trans (h : e.SameUpToLines f) (h' : f.SameUpToLines g) : e.SameUpToLines g := by
  obtain ⟨h⟩ := h
  obtain ⟨h'⟩ := h'
  exact .mk (h.trans h')

end Event.SameUpToLines

/-- The same events one by one, up to the order of lines in their answers. -/
def SameEvents (l m : List Event) : Prop := List.Forall₂ Event.SameUpToLines l m

theorem SameEvents.symm {l m : List Event} (h : SameEvents l m) : SameEvents m l :=
  .flip (h.imp fun _ _ => Event.SameUpToLines.symm)

theorem SameEvents.trans {l m k : List Event} (h : SameEvents l m) (h' : SameEvents m k) :
    SameEvents l k := by
  induction h generalizing k with
  | nil => exact h'
  | cons hevent _ ih =>
    obtain _ | ⟨hevent', hrest⟩ := h'
    exact .cons (hevent.trans hevent') (ih hrest)

/-- Side by side, a run and the same run without its optional steps go through the same events, and
end in stores that differ only in what has run out. -/
theorem sameEvents_neededSteps (h : SameButExpired s t) (steps : List Step) :
    SameEvents (neededEvents (s.history steps)) (t.history (neededSteps steps))
      ∧ SameButExpired (s.after steps) (t.after (neededSteps steps)) := by
  induction steps generalizing s t with
  | nil => exact ⟨.nil, h⟩
  | cons step rest ih =>
    cases hstep : step.isOptional with
    | true =>
      -- Only the first run takes the step, and it may lose entries that the second one keeps.
      have hswept := (Step.sameButExpired_of_isOptional hstep s).symm.trans h
      rw [neededEvents_cons_of_isOptional hstep, neededSteps_cons_of_isOptional hstep, after_cons]
      exact ih hswept
    | false =>
      have hnext := Step.unaffected h hstep
      obtain ⟨hevents, hafter⟩ := ih hnext.store
      rw [neededEvents_cons hstep, neededSteps_cons hstep, history]
      exact ⟨.cons (.mk hnext.answer.upToLines) hevents, hafter⟩

/-- Where the order of lines is the same in both and stays as it is, not even that tells the two
runs apart. -/
theorem history_neededSteps (h : SameButExpired s t) (horder : s.lineOrder = t.lineOrder)
    {steps : List Step} (hsteps : ∀ step ∈ steps, step.reorders = false) :
    neededEvents (s.history steps) = t.history (neededSteps steps) := by
  induction steps generalizing s t with
  | nil => rfl
  | cons step rest ih =>
    have hkeeps := Step.lineOrder_on (hsteps step List.mem_cons_self)
    have hrest (st : Step) (hst : st ∈ rest) := hsteps st (List.mem_cons_of_mem step hst)
    cases hstep : step.isOptional with
    | true =>
      have hswept := (Step.sameButExpired_of_isOptional hstep s).symm.trans h
      rw [neededEvents_cons_of_isOptional hstep, neededSteps_cons_of_isOptional hstep]
      exact ih hswept ((hkeeps s).trans horder) hrest
    | false =>
      have hnext := Step.unaffected h hstep
      have hevent : step.event s = step.event t := by
        rw [Step.event, Step.event, hnext.answer.eq_of_order horder]
      have hlater : (step.on s).2.lineOrder = (step.on t).2.lineOrder := by
        rw [hkeeps, hkeeps, horder]
      rw [neededEvents_cons hstep, neededSteps_cons hstep, history, hevent,
        ih hnext.store hlater hrest]

/-- **Sweeping is not seen.** Two runs of a store with the same settings and the same time take the
same steps, but for purges and passes of the sweeper, of which each run has its own at any points.
Then all other steps of both, calls and changes through the gateway with any snapshots, are answered
alike; and in the end the same records are stored, and the same callers hold the same leases. Two
refusals of one form may still name its fields in different orders, since that order may change on
its own in either run; where it does not change, the answers are equal. -/
theorem eviction_unobservable (policy : LockPolicy) (term : Option Nat) (clock : Clock)
    (steps more : List Step) (h : neededSteps more = neededSteps steps) :
    SameEvents (neededEvents (Run.mk policy term clock more).events)
        (neededEvents (Run.mk policy term clock steps).events)
      ∧ ((∀ step ∈ more ++ steps, step.reorders = false) →
        neededEvents (Run.mk policy term clock more).events
          = neededEvents (Run.mk policy term clock steps).events)
      ∧ (Run.mk policy term clock more).store.rules = (Run.mk policy term clock steps).store.rules
      ∧ ∀ id, (Run.mk policy term clock more).store.holder id
        = (Run.mk policy term clock steps).store.holder id := by
  obtain ⟨hmore, hafter⟩ := sameEvents_neededSteps (.refl (start policy term clock)) more
  obtain ⟨hsteps, hafter'⟩ := sameEvents_neededSteps (.refl (start policy term clock)) steps
  rw [h] at hmore hafter
  have hstores := hafter'.trans hafter.symm
  refine ⟨hmore.trans hsteps.symm, fun hkeep => ?_, hstores.rules, hstores.holder⟩
  have hkept {l : List Step} (hl : l ⊆ more ++ steps) :
      neededEvents ((start policy term clock).history l)
        = (start policy term clock).history (neededSteps l) :=
    history_neededSteps (.refl _) rfl fun step hstep => hkeep step (hl hstep)
  rw [Run.events, Run.events, hkept (List.subset_append_left ..),
    hkept (List.subset_append_right ..), h]

/-- Alice has created a record, and then let her lease run out. -/
def lapsed : List Step := [.ask alice (.saveRecord ⟨none, draft⟩), .elapse 10]

/-- Whether or not the entry of Alice's lease is still in the table, Bob gets the lease. -/
theorem eviction_unobservable_lapsed :
    ((start .exclusive (some 5) {}).after lapsed).leases.leases.size = 1
      ∧ ((start .exclusive (some 5) {}).after (lapsed ++ [.purge])).leases.leases.size = 0
      ∧ neededSteps (lapsed ++ [.purge, .sweep, .ask bob (.grabLock 1)])
        = neededSteps (lapsed ++ [.ask bob (.grabLock 1)])
      ∧ neededEvents (Run.mk .exclusive (some 5) {}
          (lapsed ++ [.purge, .sweep, .ask bob (.grabLock 1)])).events
        = (Run.mk .exclusive (some 5) {} (lapsed ++ [.ask bob (.grabLock 1)])).events
      ∧ (Run.mk .exclusive (some 5) {} (lapsed ++ [.ask bob (.grabLock 1)])).store.holder 1
        = some ⟨bob.userId, bob.username⟩ := by
  have hsteps : neededSteps (lapsed ++ [.purge, .sweep, .ask bob (.grabLock 1)])
      = neededSteps (lapsed ++ [.ask bob (.grabLock 1)]) := rfl
  obtain ⟨-, hevents, -, hholder⟩ :=
    eviction_unobservable .exclusive (some 5) {} (lapsed ++ [.ask bob (.grabLock 1)])
      (lapsed ++ [.purge, .sweep, .ask bob (.grabLock 1)]) hsteps
  have hswept : (Run.mk .exclusive (some 5) {}
      (lapsed ++ [.purge, .sweep, .ask bob (.grabLock 1)])).store.holder 1
        = some ⟨bob.userId, bob.username⟩ := by decide
  exact ⟨by decide, by decide, hsteps, hevents (by decide), (hholder 1).symm.trans hswept⟩

end MemoryStore
end Whitelist
