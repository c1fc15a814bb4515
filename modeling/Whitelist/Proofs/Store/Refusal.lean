import Whitelist.Proofs.Store.Run

/-!
# What a refusal leaves

A call may be refused for many reasons: the record does not exist, or belongs to another tenant, the
form is wrong, its name is taken, the lease is somebody else's. All of these come up before anything
is written. So a caller who is refused may go on from what was there before, and nobody else notices
but for the time that has passed.

One request is turned down without a refusal: where leases stay with their holders, asking for a
lease that is live is answered with the lock as it is.

## What is here

* `Keeps` — a store keeps all that another one has. Only its clock may show a later time.
* `Effect.keeps` — a caller's step by which nothing was done, refused or only reading, keeps all.
* `keeps_of_refused` — whatever is refused changes nothing, and neither does a request for a lease
  that stays with its holder.

By `Effect` a step without a deed is either `read` or one of the steps that nobody asks for. So a
refused call leaves the store as some looks at the clock would, and `Keeps` says which fields that
leaves equal.
-/

set_option autoImplicit false
namespace Whitelist
namespace MemoryStore

/-! ## Stores that differ by their clocks

The clock is left out because a refused call may have looked at it. -/

/-- The second store keeps all that the first one has; only the clock may show another time. -/
structure Keeps (s t : MemoryStore) : Prop where
  rules : t.rules = s.rules
  ruleNames : t.ruleNames = s.ruleNames
  tenantNames : t.tenantNames = s.tenantNames
  leases : t.leases = s.leases
  nextId : t.nextId = s.nextId

theorem Keeps.refl (s : MemoryStore) : Keeps s s := ⟨rfl, rfl, rfl, rfl, rfl⟩

theorem Keeps.trans {s t u : MemoryStore} (h : Keeps s t) (h' : Keeps t u) : Keeps s u where
  rules := h'.rules.trans h.rules
  ruleNames := h'.ruleNames.trans h.ruleNames
  tenantNames := h'.tenantNames.trans h.tenantNames
  leases := h'.leases.trans h.leases
  nextId := h'.nextId.trans h.nextId

theorem keeps_tick (s : MemoryStore) : Keeps s s.tick := ⟨rfl, rfl, rfl, rfl, rfl⟩

theorem keeps_iterate_tick (looks : Nat) (s : MemoryStore) : Keeps s (tick^[looks] s) := by
  rw [iterate_tick]
  exact ⟨rfl, rfl, rfl, rfl, rfl⟩

/-! ## Refused steps -/

variable {s t : MemoryStore} {step : Step} {caller : Caller} {call : StoreCall}

/-- A caller's step by which nothing was done has only read. -/
theorem Effect.keeps (h : Effect s step none t) (hreq : step.request? = some (caller, call)) :
    Keeps s t := by
  -- The other effects without a deed are those of steps that nobody asks for.
  have absurd_of_none {P : Prop} (hnone : step.request? = none) : P := by
    rw [hreq] at hnone
    cases hnone
  cases h with
  | read looks => exact keeps_iterate_tick looks s
  | namedRule hnone => exact absurd_of_none hnone
  | namedTenant hnone => exact absurd_of_none hnone
  | purged hnone => exact absurd_of_none hnone
  | renewed hnone => exact absurd_of_none hnone
  | elapsed hnone => exact absurd_of_none hnone
  | reordered hnone => exact absurd_of_none hnone

/-- A refused step of a caller changes nothing, whether it goes through the gateway or past it. -/
theorem Step.keeps_of_error (step : Step) (hreq : step.request? = some (caller, call))
    {fault : Fault} (h : (step.on s).1 = .error fault) : Keeps s (step.on s).2 := by
  have heffect := step.effect s
  have hdeed : (step.event s).deed? = none := by
    rw [Step.event, Event.deed?, h]
    rfl
  rw [hdeed] at heffect
  exact heffect.keeps hreq

/-! ## Requests that are turned down

A request for a lease is answered with a lock in either case, so its answer has to be looked at: it
does not say that the lock is the caller's. -/

variable {id : Int64} {holder : LockHolder}

/-- Where leases stay with their holders, asking for somebody else's leaves the table alone. -/
theorem granted_leases_of_other (hpolicy : s.leases.policy = .exclusive)
    (hheld : s.holder id = some holder) (hother : holder.owner ≠ caller.userId) :
    (s.granted caller id).leases = s.leases := by
  have hlive : s.leases.holder s.clock.now id = some holder := hheld
  rw [granted_leases, LeaseTable.acquire, hpolicy, hlive]
  exact congrArg Prod.snd (if_pos hother)

/-- Nobody is told to hold a lease that is somebody else's, or that has run out by now. -/
theorem lockFor_of_other {later? : Option LockHolder} (hother : holder.owner ≠ caller.userId)
    (hlater : ∀ h, later? = some h → h = holder) :
    (lockFor caller later?).isLockHolder = false := by
  cases later? with
  | none => rfl
  | some h =>
    obtain rfl := hlater h rfl
    rw [lockFor, if_neg hother]
    rfl

theorem grabLock_keeps (hpolicy : s.leases.policy = .exclusive)
    (hheld : s.holder id = some holder) (hother : holder.owner ≠ caller.userId) :
    Keeps s ((grabLock caller id).on s).2 := by
  rw [grabLock_on]
  split
  · have hgranted : Keeps s (s.granted caller id) :=
      ⟨rfl, rfl, rfl, granted_leases_of_other hpolicy hheld hother, rfl⟩
    exact hgranted.trans (keeps_tick _)
  · exact .refl s

theorem grabLock_answer {rule : StoredRule} (hseen : s.existing? caller id = some rule)
    (hpolicy : s.leases.policy = .exclusive) (hheld : s.holder id = some holder)
    (hother : holder.owner ≠ caller.userId) :
    ∃ status, ((grabLock caller id).on s).1 = .ok status ∧ status.isLockHolder = false := by
  rw [grabLock_on, hseen]
  refine ⟨_, rfl, lockFor_of_other hother fun h hh => ?_⟩
  -- The lock is read once more for the answer, at a time that may be later.
  rw [MemoryStore.holder, granted_leases_of_other hpolicy hheld hother] at hh
  have hbefore := LeaseTable.holder_mono (now_le_tick s) hh
  rw [← MemoryStore.holder, hheld] at hbefore
  exact (Option.some_inj.mp hbefore).symm

/-- **What is refused changes nothing.** Under any policy and any length of leases, a call that is
answered with a fault leaves records, names, leases and the next id as they were. Where leases stay
with their holders, so does a request for a lease that somebody else holds, although it is answered
with a lock, and not with a fault, if the caller sees the record. -/
theorem keeps_of_refused (s : MemoryStore) (caller : Caller) :
    (∀ call fault, (((session caller).answer call).on s).1 = .error fault →
        Keeps s (((session caller).answer call).on s).2)
      ∧ ∀ id holder, s.leases.policy = .exclusive → s.holder id = some holder →
        holder.owner ≠ caller.userId → Keeps s ((grabLock caller id).on s).2
          ∧ ∀ rule, s.existing? caller id = some rule →
            ∃ status, ((grabLock caller id).on s).1 = .ok status ∧ status.isLockHolder = false := by
  refine ⟨fun call fault h => ?_, fun id holder hpolicy hheld hother => ⟨?_, fun rule hseen => ?_⟩⟩
  · exact (Step.ask caller call).keeps_of_error rfl h
  · exact grabLock_keeps hpolicy hheld hother
  · exact grabLock_answer hseen hpolicy hheld hother

/-- Alice holds the lease of her record. Bob cannot delete it, and asking for the lease is answered,
but does not help. -/
theorem keeps_of_refused_drafted :
    ((deleteRecord bob 1).on (drafted .exclusive).store).1 = .error (.lockNotHeld 1 (some "Alice"))
      ∧ Keeps (drafted .exclusive).store ((deleteRecord bob 1).on (drafted .exclusive).store).2
      ∧ ((grabLock bob 1).on (drafted .exclusive).store).1 = .ok (.heldByOther (some "Alice"))
      ∧ Keeps (drafted .exclusive).store ((grabLock bob 1).on (drafted .exclusive).store).2 := by
  obtain ⟨hrefused, hturned⟩ := keeps_of_refused (drafted .exclusive).store bob
  have hdelete : ((deleteRecord bob 1).on (drafted .exclusive).store).1
      = .error (.lockNotHeld 1 (some "Alice")) := rfl
  have hheld : (drafted .exclusive).store.holder 1 = some ⟨alice.userId, alice.username⟩ := by
    decide
  exact ⟨hdelete, hrefused (.deleteRecord 1) _ hdelete, rfl,
    (hturned 1 _ rfl hheld (by decide)).1⟩

end MemoryStore
end Whitelist
