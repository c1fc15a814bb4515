import Whitelist.Proofs.Store.Ids
import Whitelist.Proofs.Store.LockState

/-!
# Records belong to the holder of their lease

In every run, whatever snapshots the callers bring to the gateway, a stored record is changed or
removed only by a change of that very record, asked for by a caller who sees it and who holds its
live lease at that moment.

Where leases stay with their holders and never run out, that leaves the record to one user: nothing
that others do takes the lease away or shows in the record.

## What is here

* `Effect.changes` is the step behind both; here are the statements on runs.
* `changed_by_lease_owner` — who changes a record.
* `Held`, `held_after` — a record under somebody's lease, and what becomes of it under the steps of
  others.
* `exclusive_isolation` — under the exclusive policy, what others do never reaches the record.

Both statements end in a case for runs in which ids have come round. The two counterexamples,
`changed_without_lease` and `exclusive_lease_lost`, show that the case cannot be left out. They are
taken from `exhausted`, at whose end the next creation is given the id of a record that another user
holds.
-/

set_option autoImplicit false
namespace Whitelist
namespace MemoryStore

variable {s t : MemoryStore} {step : Step} {deed : Option Deed}

/-! ## Who changes a record -/

/-- **A record is changed only under its lease.** A step that changes or removes a stored record is
an enabling, a deletion or an update of that very record, by a caller who sees it and who owned its
live lease just before. Ids are words of 64 bits; only once more than `2 ^ 64` records have been
created is an id issued again, and can a creation put its record in the place of another one. -/
theorem changed_by_lease_owner (run : Run) (step : Step) (id : Int64) (rule : StoredRule)
    (hstored : run.store.rules.find? id = some rule)
    (hchanged : (run.followedBy [step]).store.rules.find? id ≠ some rule) :
    (∃ caller call, step.request? = some (caller, call) ∧ call.target? = some id
        ∧ caller.canSee rule.tenantId = true ∧ run.store.owner? id = some caller.userId)
      ∨ ∃ caller content, (step.event run.store).deed? = some (.create caller id content)
        ∧ 2 ^ 64 < creations (run.followedBy [step]).events := by
  have heffect := step.effect run.store
  rw [Run.store_followedBy, ← hstored] at hchanged
  rcases heffect.changes hchanged with
    ⟨caller, call, r, hreq, htarget, hseen, howner⟩ | ⟨caller, content, -, hdeed, -⟩
  · obtain ⟨hr, hsee⟩ := (existing?_eq_some_iff ..).mp hseen
    rw [hstored, Option.some_inj] at hr
    exact .inl ⟨caller, call, hreq, htarget, hr ▸ hsee, howner⟩
  · have hcreate : .create caller id content ∈ deeds (run.store.history [step]) := by
      rw [deeds_history_cons, hdeed]
      exact List.mem_singleton_self _
    exact .inr ⟨caller, content, hdeed, Run.reissued hstored hcreate⟩

/-- Where asking takes the lease, Bob can delete Alice's record once he has asked for it. -/
theorem changed_by_lease_owner_grabbed :
    ((drafted .grab).followedBy [.ask bob (.grabLock 1)]).store.rules.find? 1 = some draftedRule
      ∧ (((drafted .grab).followedBy [.ask bob (.grabLock 1)]).followedBy
        [.ask bob (.deleteRecord 1)]).store.rules.find? 1 ≠ some draftedRule
      ∧ ((drafted .grab).followedBy [.ask bob (.grabLock 1)]).store.owner? 1 = some bob.userId := by
  have hstored : ((drafted .grab).followedBy [.ask bob (.grabLock 1)]).store.rules.find? 1
      = some draftedRule := by decide
  have hchanged : (((drafted .grab).followedBy [.ask bob (.grabLock 1)]).followedBy
      [.ask bob (.deleteRecord 1)]).store.rules.find? 1 ≠ some draftedRule := by decide
  refine ⟨hstored, hchanged, ?_⟩
  rcases changed_by_lease_owner _ _ _ _ hstored hchanged with
    ⟨caller, call, hreq, -, -, howner⟩ | ⟨caller, content, -, hfull⟩
  · cases hreq
    exact howner
  · exact absurd hfull (by decide)

/-- Without the bound a record is changed by somebody who does not hold its lease: at the end of
`exhausted` Bob creates a record in the place of Alice's. -/
theorem changed_without_lease :
    ¬ ∀ (run : Run) (step : Step) (id : Int64) (rule : StoredRule),
      run.store.rules.find? id = some rule →
      (run.followedBy [step]).store.rules.find? id ≠ some rule →
      ∃ caller call, step.request? = some (caller, call) ∧ call.target? = some id
        ∧ caller.canSee rule.tenantId = true ∧ run.store.owner? id = some caller.userId := by
  intro hall
  have hturned := turned_exhausted .grab
  have hchanged : ((exhausted .grab).followedBy
      [.ask bob (.saveRecord ⟨none, scrap⟩)]).store.rules.find? 1 ≠ some draftedRule := by
    rw [Run.store_followedBy, hturned.overwritten.1]
    intro heq
    have hname := congrArg (·.content.name) (Option.some_inj.mp heq)
    exact absurd hname (by decide : scrap.name ≠ draftedRule.content.name)
  obtain ⟨caller, call, hreq, htarget, -⟩ := hall _ _ 1 _ (hturned.stored 1) hchanged
  -- A creation names no record.
  cases hreq
  cases htarget

/-! ## A record that others cannot touch

`Held` collects what has to stay as it is for the answer to a read to be literally the same: the
record, its holder, the names of tenants, which a record shows, and the two settings of leases. The
lock itself goes by the automaton of `Proofs.Store.LockState`, where `LockState.next_held_of_other`
says that others do not move it. -/

/-- A record under a lease that its holder keeps: leases stay with their holders and never run
out. -/
structure Held (id : Int64) (rule : StoredRule) (holder : LockHolder)
    (tenantNames : List (Int64 × String)) (s : MemoryStore) : Prop where
  stored : s.rules.find? id = some rule
  held : s.holder id = some holder
  names : s.tenantNames = tenantNames
  policy : s.leases.policy = .exclusive
  term : s.leases.term = none

variable {id : Int64} {rule : StoredRule} {holder : LockHolder}
  {tenantNames : List (Int64 × String)}

theorem Held.owner? (hs : Held id rule holder tenantNames s) : s.owner? id = some holder.owner := by
  rw [MemoryStore.owner?, hs.held]
  rfl

/-- A call by somebody else leaves the lease with its holder, unless it creates a record under the
same id. -/
theorem Effect.holder_eq (h : Effect s step deed t) (hs : Held id rule holder tenantNames s)
    {caller : Caller} {call : StoreCall} (hreq : step.request? = some (caller, call))
    (hother : caller.userId ≠ holder.owner)
    (hfresh : ∀ y content, deed ≠ some (.create y id content)) : t.holder id = some holder := by
  have hstate : s.lockState id = .held holder := by
    rw [lockState_eq_of_stored hs.stored, hs.held]
    rfl
  apply holder_of_lockState
  rw [h.lockState hs.term, hs.policy, hstate]
  cases deed with
  | none => rfl
  | some d =>
    obtain rfl := h.caller_eq hreq
    refine LockState.next_held_of_other hother ?_ ?_
    · rintro y rfl
      cases h with
      | deleted _ _ howner =>
        rw [hs.owner?, Option.some_inj] at howner
        exact hother howner.symm
    · rintro y content rfl
      exact hfresh y content rfl

/-- Steps by somebody else leave a held record as it is. -/
theorem Effect.held (h : Effect s step deed t) (hs : Held id rule holder tenantNames s)
    {caller : Caller} {call : StoreCall} (hreq : step.request? = some (caller, call))
    (hother : caller.userId ≠ holder.owner)
    (hfresh : ∀ y content, deed ≠ some (.create y id content)) :
    Held id rule holder tenantNames t where
  stored := by
    by_contra hne
    rw [← hs.stored] at hne
    rcases h.changes hne with ⟨y, call', r, hreq', -, -, howner⟩ | ⟨y, content, -, hdeed, -⟩
    · obtain rfl := Step.caller_unique hreq hreq'
      rw [hs.owner?, Option.some_inj] at howner
      exact hother howner.symm
    · exact hfresh y content hdeed
  held := h.holder_eq hs hreq hother hfresh
  names := by
    rw [← hs.names]
    cases h with
    | read looks => simp
    | namedTenant hreq' => rw [hreq] at hreq'; cases hreq'
    | _ => rfl
  policy := h.settings.1.trans hs.policy
  term := h.settings.2.trans hs.term

/-- Two stores in which a record is held alike are read alike by whoever may see it. -/
theorem Held.getRecord_on (hs : Held id rule holder tenantNames s)
    (ht : Held id rule holder tenantNames t) {x : Caller} (hsee : x.canSee rule.tenantId = true) :
    ∃ record, ((getRecord x id).on s).1 = .ok record ∧ ((getRecord x id).on t).1 = .ok record := by
  have hseen {u : MemoryStore} (hu : Held id rule holder tenantNames u) :
      u.existing? x id = some rule := (existing?_eq_some_iff ..).mpr ⟨hu.stored, hsee⟩
  have hrecord (lock : LockStatus) : t.record rule lock = s.record rule lock := by
    unfold record tenantName?
    rw [hs.names, ht.names]
  refine ⟨s.record rule (lockFor x (some holder)), ?_, ?_⟩
  · rw [MemoryStore.getRecord_on, hseen hs, hs.held]
  · rw [MemoryStore.getRecord_on, hseen ht, ht.held, ← hrecord]

/-- A held record outlasts all steps of others, unless its id is issued again. -/
theorem held_after {steps : List Step} (hs : Held id rule holder tenantNames s)
    (hothers : ∀ step ∈ steps, ∃ caller call,
      step.request? = some (caller, call) ∧ caller.userId ≠ holder.owner)
    (hfresh : ∀ y content, .create y id content ∉ deeds (s.history steps)) :
    Held id rule holder tenantNames (s.after steps) := by
  induction steps generalizing s with
  | nil => exact hs
  | cons step rest ih =>
    obtain ⟨caller, call, hreq, hother⟩ := hothers step List.mem_cons_self
    simp only [deeds_history_cons, List.mem_append, not_or] at hfresh
    have ht := (step.effect s).held hs hreq hother fun y content hdeed =>
      (hfresh y content).1 (Option.mem_toList.mpr hdeed)
    exact ih ht (fun st hst => hothers st (List.mem_cons_of_mem _ hst)) fun y content =>
      (hfresh y content).2

/-- **Under the exclusive policy a record is its editor's alone.** While a caller holds the lease of
a record and leases never run out, nothing that other users do, through the gateway or past it,
takes the lease away, and reading the record goes on to give the very same answer. Only the creation
of more than `2 ^ 64` records, after which ids are issued again, can put an end to that. -/
theorem exclusive_isolation (run : Run) (hpolicy : run.policy = .exclusive)
    (hterm : run.NeverExpires) (x : Caller) (id : Int64) (rule : StoredRule)
    (hseen : run.store.existing? x id = some rule) (hheld : run.store.owner? id = some x.userId)
    (steps : List Step)
    (hothers : ∀ step ∈ steps, ∃ caller call,
      step.request? = some (caller, call) ∧ caller.userId ≠ x.userId) :
    ((run.followedBy steps).store.owner? id = some x.userId
        ∧ ∃ record, ((getRecord x id).on run.store).1 = .ok record
          ∧ ((getRecord x id).on (run.followedBy steps).store).1 = .ok record)
      ∨ 2 ^ 64 < creations (run.followedBy steps).events := by
  obtain ⟨holder, hholder, hx⟩ := Option.map_eq_some_iff.mp hheld
  obtain ⟨hstored, hsee⟩ := (existing?_eq_some_iff ..).mp hseen
  have hs : Held id rule holder run.store.tenantNames run.store :=
    ⟨hstored, hholder, rfl, run.policy_store.trans hpolicy, run.term_store hterm⟩
  by_cases hcreate : ∃ y content, .create y id content ∈ deeds (run.store.history steps)
  · obtain ⟨y, content, hcreate⟩ := hcreate
    exact .inr (Run.reissued hstored hcreate)
  · have ht := held_after hs (hx ▸ hothers) fun y content h => hcreate ⟨y, content, h⟩
    rw [Run.store_followedBy]
    exact .inl ⟨ht.owner?.trans (congrArg some hx), hs.getRecord_on ht hsee⟩

/-- What Bob might try, with a snapshot forged to say that he holds the lease. -/
def intrusion : List Step :=
  [.ask bob (.grabLock 1), .guardedEnable bob (draftedRecord bob) false,
    .guardedDelete bob (draftedRecord bob), .ask bob (.releaseLock 1)]

theorem exclusive_isolation_intrusion :
    (∀ step ∈ intrusion, ∃ caller call,
        step.request? = some (caller, call) ∧ caller.userId ≠ alice.userId)
      ∧ (drafted .exclusive).store.existing? alice 1 = some draftedRule
      ∧ (drafted .exclusive).store.owner? 1 = some alice.userId
      ∧ ((drafted .exclusive).followedBy intrusion).store.owner? 1 = some alice.userId
      ∧ ∃ record, ((getRecord alice 1).on (drafted .exclusive).store).1 = .ok record
        ∧ ((getRecord alice 1).on ((drafted .exclusive).followedBy intrusion).store).1
          = .ok record := by
  have hothers : ∀ step ∈ intrusion, ∃ caller call,
      step.request? = some (caller, call) ∧ caller.userId ≠ alice.userId := by
    simp [intrusion, Step.request?, alice, bob]
  have hseen : (drafted .exclusive).store.existing? alice 1 = some draftedRule := by decide
  have hheld : (drafted .exclusive).store.owner? 1 = some alice.userId := by decide
  refine ⟨hothers, hseen, hheld, ?_⟩
  rcases exclusive_isolation (drafted .exclusive) rfl (.inl rfl) alice 1 draftedRule hseen hheld
    intrusion hothers with h | hfull
  · exact h
  · exact absurd hfull (by decide)

/-- Without the bound the lease is lost to somebody else: at the end of `exhausted` a creation
leases Alice's id to Bob. -/
theorem exclusive_lease_lost :
    ¬ ∀ (run : Run), run.policy = .exclusive → run.NeverExpires →
      ∀ (x : Caller) (id : Int64) (rule : StoredRule), run.store.existing? x id = some rule →
      run.store.owner? id = some x.userId → ∀ steps : List Step,
      (∀ step ∈ steps, ∃ caller call,
        step.request? = some (caller, call) ∧ caller.userId ≠ x.userId) →
      (run.followedBy steps).store.owner? id = some x.userId
        ∧ ∃ record, ((getRecord x id).on run.store).1 = .ok record
          ∧ ((getRecord x id).on (run.followedBy steps).store).1 = .ok record := by
  intro hall
  have hturned := turned_exhausted .exclusive
  have hseen : (exhausted .exclusive).store.existing? alice 1 = some draftedRule :=
    (existing?_eq_some_iff ..).mpr ⟨hturned.stored 1, rfl⟩
  have hother : bob.userId ≠ alice.userId := by decide
  have hothers : ∀ step ∈ [Step.ask bob (.saveRecord ⟨none, scrap⟩)], ∃ caller call,
      step.request? = some (caller, call) ∧ caller.userId ≠ alice.userId := by
    intro step hstep
    rw [List.mem_singleton.mp hstep]
    exact ⟨_, _, rfl, hother⟩
  obtain ⟨howner, -⟩ := hall (exhausted .exclusive) rfl (.inl rfl) alice 1 _ hseen hturned.owner _
    hothers
  rw [Run.store_followedBy, hturned.overwritten.2, Option.some_inj] at howner
  exact hother howner

end MemoryStore
end Whitelist
