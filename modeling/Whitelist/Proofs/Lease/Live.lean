import Whitelist.Proofs.Lease

/-!
# Leases that have run out

The entry of a lease that has run out stays in the table until something takes it out. Each
operation decides for itself what to make of such an entry. Here it is said for each of them that it
makes of it what it makes of no entry: which leases are live afterwards follows from which were live
before. So a table may lose such entries at any time, and nothing comes of it.

## What is here

* `live?_later`, `live?_insert`, `live?_forget`, `live?_release`, `live?_purge` — what is live after
  some time, and after an operation.
* `SameLive` — two tables have the same live leases.
* `SameLive.acquire`, `SameLive.renew`, `SameLive.release` and their like — the same done to both
  tables leaves the same leases live.
* `sameLive_purge`, `sameLive_sweep` — taking out the entries of leases that have run out.

The view taken is that of `live?`, the entry at an id unless it has run out. For each operation
there is an equation that gives `live?` afterwards in terms of `live?` before. Two tables that agree
on `live?` therefore go on agreeing (`SameLive`), although their entries may differ; and a purge
does not change `live?` at all.
-/

set_option autoImplicit false
namespace Whitelist
namespace LeaseTable

variable {t u : LeaseTable} {now later : Nat} {id k : Int64} {owner name : String}

/-! ## What is live afterwards

Times go in one direction: an entry that has run out does not become live again. -/

theorem isExpired_congr (hterm : u.term = t.term) : u.isExpired now = t.isExpired now := by
  funext lease
  rw [isExpired, isExpired, hterm]

/-- Of the leases that are live now, those that have not run out by then are live later. -/
theorem live?_later (hle : now ≤ later) :
    t.live? later k = (t.live? now k).filter fun lease => !t.isExpired later lease := by
  rw [live?, live?, Option.filter_filter]
  refine congrArg (fun test => (t.leases.find? k).filter test) (funext fun lease => ?_)
  cases hnow : t.isExpired now lease with
  | false => rfl
  | true => rw [isExpired_mono hle hnow]; rfl

theorem live?_insert (lease : Lease) :
    { t with leases := t.leases.insert id lease }.live? now k
      = if k = id then (some lease).filter fun lease => !t.isExpired now lease
        else t.live? now k := by
  rw [live?, Table.find?_insert]
  split <;> rfl

theorem live?_forget :
    (t.forget id).live? now k = if k = id then none else t.live? now k := by
  rw [live?, forget, Table.find?_erase]
  split <;> rfl

theorem find?_release : (t.release id owner).2.leases.find? k
    = if k = id then (t.leases.find? id).filter fun lease => lease.holder.owner ≠ owner
      else t.leases.find? k := by
  by_cases hk : k = id
  · rw [if_pos hk, hk, release]
    cases hfind : t.leases.find? id with
    | none => exact hfind
    | some lease =>
      by_cases howner : lease.holder.owner = owner
      · simp only [howner, if_true]
        rw [Table.find?_erase, if_pos rfl, Option.filter_some, if_neg (by simpa using howner)]
      · simp only [howner, if_false]
        rw [hfind, Option.filter_some, if_pos (by simpa using howner)]
  · rw [if_neg hk, find?_release_of_ne hk]

/-- An entry that is given back is live no more, and one that has run out was not live before. -/
theorem live?_release : (t.release id owner).2.live? now k
    = if k = id then (t.live? now id).filter fun lease => lease.holder.owner ≠ owner
      else t.live? now k := by
  have hexp : (t.release id owner).2.isExpired now = t.isExpired now :=
    isExpired_congr release_term
  rw [live?, find?_release, hexp]
  split
  · rw [live?, Option.filter_filter, Option.filter_filter]
    exact congrArg (fun test => (t.leases.find? id).filter test) (funext fun _ => Bool.and_comm ..)
  · rfl

/-- Only entries that are not live are taken out. -/
theorem live?_purge (hle : now ≤ later) : (t.purge now).2.live? later k = t.live? later k := by
  have hkept : (t.purge now).2.live? later k
      = (t.live? now k).filter fun lease => !t.isExpired later lease := by
    rw [purge, live?, Table.find?_keep]
    rfl
  rw [hkept, ← live?_later hle]

/-! ## The same live leases

`SameLive` is an equivalence, and compatible with every operation. This is what
`Proofs.Store.Eviction` uses for whole stores. -/

/-- Both tables have the same policy, the same term of leases, and now the same live leases. -/
structure SameLive (now : Nat) (t u : LeaseTable) : Prop where
  policy : u.policy = t.policy
  term : u.term = t.term
  live : ∀ id, u.live? now id = t.live? now id

namespace SameLive

theorem refl (now : Nat) (t : LeaseTable) : SameLive now t t := ⟨rfl, rfl, fun _ => rfl⟩

theorem symm (h : SameLive now t u) : SameLive now u t :=
  ⟨h.policy.symm, h.term.symm, fun id => (h.live id).symm⟩

theorem trans {v : LeaseTable} (h : SameLive now t u) (h' : SameLive now u v) :
    SameLive now t v :=
  ⟨h'.policy.trans h.policy, h'.term.trans h.term, fun id => (h'.live id).trans (h.live id)⟩

/-- In two tables with the same live leases, the same ones run out. -/
theorem mono (h : SameLive now t u) (hle : now ≤ later) : SameLive later t u where
  policy := h.policy
  term := h.term
  live id := by rw [live?_later hle, live?_later hle, h.live, isExpired_congr h.term]

variable (h : SameLive now t u)
include h

theorem holder (id : Int64) : u.holder now id = t.holder now id :=
  congrArg (Option.map Lease.holder) (h.live id)

theorem insert (id : Int64) (lease : Lease) :
    SameLive now { t with leases := t.leases.insert id lease }
      { u with leases := u.leases.insert id lease } where
  policy := h.policy
  term := h.term
  live k := by rw [live?_insert, live?_insert, h.live, isExpired_congr h.term]

theorem assign (id : Int64) (owner name : String) :
    SameLive now (t.assign now id owner name).2 (u.assign now id owner name).2 := h.insert id _

theorem forget (id : Int64) : SameLive now (t.forget id) (u.forget id) where
  policy := h.policy
  term := h.term
  live k := by rw [live?_forget, live?_forget, h.live]

/-- A request looks at the live lease only: it does nothing to both tables, or gives the lease in
both. -/
theorem acquire_cases (id : Int64) (owner name : String) :
    (∃ other, t.acquire now id owner name = (other, t) ∧ u.acquire now id owner name = (other, u))
      ∨ t.acquire now id owner name = t.assign now id owner name
        ∧ u.acquire now id owner name = u.assign now id owner name := by
  rw [LeaseTable.acquire, LeaseTable.acquire, h.policy, h.holder]
  split
  · split
    · exact .inl ⟨_, rfl, rfl⟩
    · exact .inr ⟨rfl, rfl⟩
  · exact .inr ⟨rfl, rfl⟩

theorem acquire (id : Int64) (owner name : String) :
    SameLive now (t.acquire now id owner name).2 (u.acquire now id owner name).2 := by
  rcases h.acquire_cases id owner name with ⟨other, ht, hu⟩ | ⟨ht, hu⟩ <;> rw [ht, hu]
  · exact h
  · exact h.assign id owner name

/-- And so does a renewal. -/
theorem renew_cases (id : Int64) (owner : String) :
    (t.renew now id owner = (false, t) ∧ u.renew now id owner = (false, u))
      ∨ ∃ lease, t.renew now id owner = (true, { t with leases := t.leases.insert id lease })
        ∧ u.renew now id owner = (true, { u with leases := u.leases.insert id lease }) := by
  rw [LeaseTable.renew, LeaseTable.renew, h.live]
  split
  · split
    · exact .inr ⟨_, rfl, rfl⟩
    · exact .inl ⟨rfl, rfl⟩
  · exact .inl ⟨rfl, rfl⟩

theorem renew (id : Int64) (owner : String) :
    (u.renew now id owner).1 = (t.renew now id owner).1
      ∧ SameLive now (t.renew now id owner).2 (u.renew now id owner).2 := by
  rcases h.renew_cases id owner with ⟨ht, hu⟩ | ⟨lease, ht, hu⟩ <;> rw [ht, hu]
  · exact ⟨rfl, h⟩
  · exact ⟨rfl, h.insert id lease⟩

/-- One table may have an entry that the other has lost; then it is not live. -/
theorem release (id : Int64) (owner : String) :
    SameLive now (t.release id owner).2 (u.release id owner).2 where
  policy := by rw [release_policy, release_policy, h.policy]
  term := by rw [release_term, release_term, h.term]
  live k := by rw [live?_release, live?_release, h.live, h.live]

end SameLive

/-! ## Taking out what has run out

The sweeper does nothing where there is no term, and purges otherwise. -/

theorem sameLive_purge (now : Nat) (t : LeaseTable) : SameLive now t (t.purge now).2 :=
  ⟨rfl, rfl, fun _ => live?_purge (Nat.le_refl now)⟩

theorem sameLive_sweep (now : Nat) (t : LeaseTable) : SameLive now t (t.sweep now).2 := by
  rw [sweep]
  split
  · exact .refl now t
  · exact sameLive_purge now t

end LeaseTable
end Whitelist
