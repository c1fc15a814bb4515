import Whitelist.Proofs.Lease
import Whitelist.Proofs.Store.Outcome

/-!
# What a call at one record leaves alone

Every call that takes or gives back a lease, or changes a record, is about one id. The entry of the
record and the entry of its lease may become others; all other entries, the names and the settings
stay.

## What is here

* `OnlyAt` — two stores differ at one id only, and perhaps in their times.
* `onlyAt_granted`, `onlyAt_freed`, `onlyAt_rewritten`, `onlyAt_renewedFor`, `onlyAt_removed` — the
  stores that such calls leave.

`OnlyAt id` is closed under `OnlyAt.trans`, so that an update, which rewrites the record and then
renews the lease, is two steps of it. The clock is left out on purpose, for every call moves it; for
the same reason the structure speaks of entries and not of live holders, which the time could
change.
-/

set_option autoImplicit false
namespace Whitelist
namespace MemoryStore

/-- The second store has all that the first one has, except at one id, and for the time. -/
structure OnlyAt (id : Int64) (s t : MemoryStore) : Prop where
  rules : ∀ k, k ≠ id → t.rules.find? k = s.rules.find? k
  leases : ∀ k, k ≠ id → t.leases.leases.find? k = s.leases.leases.find? k
  policy : t.leases.policy = s.leases.policy
  term : t.leases.term = s.leases.term
  ruleNames : t.ruleNames = s.ruleNames
  tenantNames : t.tenantNames = s.tenantNames
  nextId : t.nextId = s.nextId

theorem OnlyAt.trans {id : Int64} {s t u : MemoryStore} (h : OnlyAt id s t) (h' : OnlyAt id t u) :
    OnlyAt id s u where
  rules k hk := (h'.rules k hk).trans (h.rules k hk)
  leases k hk := (h'.leases k hk).trans (h.leases k hk)
  policy := h'.policy.trans h.policy
  term := h'.term.trans h.term
  ruleNames := h'.ruleNames.trans h.ruleNames
  tenantNames := h'.tenantNames.trans h.tenantNames
  nextId := h'.nextId.trans h.nextId

variable (id : Int64) (s : MemoryStore) (caller : Caller)

theorem onlyAt_tick : OnlyAt id s s.tick :=
  ⟨fun _ _ => rfl, fun _ _ => rfl, rfl, rfl, rfl, rfl, rfl⟩

theorem onlyAt_granted : OnlyAt id s (s.granted caller id) :=
  ⟨fun _ _ => rfl, fun _ hk => LeaseTable.find?_acquire_of_ne hk, LeaseTable.acquire_policy,
    LeaseTable.acquire_term, rfl, rfl, rfl⟩

theorem onlyAt_freed : OnlyAt id s (s.freed caller id) :=
  ⟨fun _ _ => rfl, fun _ hk => LeaseTable.find?_release_of_ne hk, LeaseTable.release_policy,
    LeaseTable.release_term, rfl, rfl, rfl⟩

theorem onlyAt_rewritten (change : RuleContent → RuleContent) :
    OnlyAt id s (s.rewritten id change) where
  rules k hk := by rw [rewritten_rules, Table.find?_modify, if_neg hk]
  leases _ _ := rfl
  policy := rfl
  term := rfl
  ruleNames := rfl
  tenantNames := rfl
  nextId := rfl

theorem onlyAt_renewedFor : OnlyAt id s (s.renewedFor caller id) :=
  ⟨fun _ _ => rfl, fun _ hk => LeaseTable.find?_renew_of_ne hk, LeaseTable.renew_policy,
    LeaseTable.renew_term, rfl, rfl, rfl⟩

theorem onlyAt_removed : OnlyAt id s (s.removed id) where
  rules k hk := by rw [removed_rules, Table.find?_erase, if_neg hk]
  leases _ hk := LeaseTable.find?_forget_of_ne hk
  policy := rfl
  term := rfl
  ruleNames := rfl
  tenantNames := rfl
  nextId := rfl

end MemoryStore
end Whitelist
