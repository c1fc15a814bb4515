import Whitelist.Lease

/-!
# Who holds a lease

What can be said of the holder of a lease after something was done to the table. Where leases can
run out, time takes holders away, and the statements go from the table after to the table before:
whoever holds a lease now held it then, unless it was just given to them. Where no lease ever runs
out, the holder after is known exactly.

## What is here

* `acquire_cases`, `renew_cases`, `release_cases` — all that can become of a table.
* `find?_acquire_of_ne`, `holder_assign_of_ne` and their like — what is done at one id leaves the
  entries and the holders at others alone.
* `find?_acquire_congr` and its like — what becomes of an entry depends on that entry, the policy
  and the term of leases.
* `holder_of_assign`, `holder_of_acquire`, `holder_of_renew`, `holder_of_release`,
  `holder_of_forget`, `holder_of_purge` — where a holder comes from.
* `holder_assign`, `holder_acquire`, `holder_renew`, `holder_release`, `holder_forget`,
  `holder_purge` — the holder in a table of leases that never run out.

The table is read through `holder`, which looks for an entry and asks whether it is live. Most
lemmas are therefore about an entry first (`find?_acquire_of_ne` and the like), and about its holder
by `holder_congr`. Three operations may leave the table as it was, and for each of them there is an
equation with two cases (`acquire_cases`, `renew_cases`, `release_cases`); later proofs split on
these and not on the definitions.
-/

set_option autoImplicit false
namespace Whitelist
namespace LeaseTable

variable {t : LeaseTable} {now later : Nat} {id k : Int64} {owner name : String} {h : LockHolder}

/-- A holder is that of an entry which is live. -/
theorem holder_eq_some_iff : t.holder now id = some h
    ↔ ∃ lease, t.leases.find? id = some lease ∧ t.isExpired now lease = false
      ∧ lease.holder = h := by
  simp [holder, live?, and_assoc]

/-- A lease that has run out stays so. -/
theorem isExpired_mono {lease : Lease} (hle : now ≤ later) (hexp : t.isExpired now lease = true) :
    t.isExpired later lease = true := by
  unfold isExpired at hexp ⊢
  split
  · simp_all
  · simp_all
    omega

/-- Whoever holds a lease later holds it now, if nothing is done to it. -/
theorem holder_mono (hle : now ≤ later) (hh : t.holder later id = some h) :
    t.holder now id = some h := by
  obtain ⟨lease, hfind, hlive, rfl⟩ := holder_eq_some_iff.mp hh
  refine holder_eq_some_iff.mpr ⟨lease, hfind, ?_, rfl⟩
  cases hexp : t.isExpired now lease with
  | false => rfl
  | true =>
    rw [isExpired_mono hle hexp] at hlive
    cases hlive

/-- The live lease at an id depends on the entry there and on the term of leases. -/
theorem live?_congr {u : LeaseTable} (hterm : u.term = t.term)
    (hfind : u.leases.find? k = t.leases.find? k) : u.live? now k = t.live? now k := by
  have hexp : u.isExpired now = t.isExpired now := by
    funext lease
    rw [isExpired, isExpired, hterm]
  rw [live?, live?, hfind, hexp]

/-- And so does its holder. -/
theorem holder_congr {u : LeaseTable} (hterm : u.term = t.term)
    (hfind : u.leases.find? k = t.leases.find? k) : u.holder now k = t.holder now k :=
  congrArg (Option.map Lease.holder) (live?_congr hterm hfind)

/-! ## What can become of a table

Policy and term are settings, which nothing changes. -/

/-- A request changes nothing, or it gives the lease to whoever asks. -/
theorem acquire_cases (t : LeaseTable) (now : Nat) (id : Int64) (owner name : String) :
    (t.acquire now id owner name).2 = t
      ∨ (t.acquire now id owner name).2 = (t.assign now id owner name).2 := by
  rw [acquire]
  split
  · split
    · exact .inl rfl
    · exact .inr rfl
  · exact .inr rfl

/-- A renewal changes nothing, or it counts the term of a live lease anew. -/
theorem renew_cases (t : LeaseTable) (now : Nat) (id : Int64) (owner : String) :
    (t.renew now id owner).2 = t ∨ ∃ lease, t.live? now id = some lease
      ∧ (t.renew now id owner).2
        = { t with leases := t.leases.insert id { lease with since := now } } := by
  rw [renew]
  split
  · rename_i lease hlive
    split
    · exact .inr ⟨lease, hlive, rfl⟩
    · exact .inl rfl
  · exact .inl rfl

/-- A release changes nothing, or it takes the entry out. -/
theorem release_cases (t : LeaseTable) (id : Int64) (owner : String) :
    (t.release id owner).2 = t ∨ (t.release id owner).2 = t.forget id := by
  rw [release]
  split
  · split
    · exact .inr rfl
    · exact .inl rfl
  · exact .inl rfl

@[simp] theorem acquire_policy : (t.acquire now id owner name).2.policy = t.policy := by
  rcases t.acquire_cases now id owner name with h | h <;> rw [h]
  rfl

@[simp] theorem acquire_term : (t.acquire now id owner name).2.term = t.term := by
  rcases t.acquire_cases now id owner name with h | h <;> rw [h]
  rfl

@[simp] theorem renew_policy : (t.renew now id owner).2.policy = t.policy := by
  rcases t.renew_cases now id owner with h | ⟨lease, -, h⟩ <;> rw [h]

@[simp] theorem renew_term : (t.renew now id owner).2.term = t.term := by
  rcases t.renew_cases now id owner with h | ⟨lease, -, h⟩ <;> rw [h]

@[simp] theorem release_policy : (t.release id owner).2.policy = t.policy := by
  rcases t.release_cases id owner with h | h <;> rw [h]
  rfl

@[simp] theorem release_term : (t.release id owner).2.term = t.term := by
  rcases t.release_cases id owner with h | h <;> rw [h]
  rfl

/-! ## Entries

An operation at one id leaves all other entries alone, whatever it does at its own. -/

theorem find?_forget_of_ne (hk : k ≠ id) : (t.forget id).leases.find? k = t.leases.find? k := by
  rw [forget, Table.find?_erase, if_neg hk]

theorem find?_acquire_of_ne (hk : k ≠ id) :
    (t.acquire now id owner name).2.leases.find? k = t.leases.find? k := by
  rcases t.acquire_cases now id owner name with h | h <;> rw [h]
  rw [assign, Table.find?_insert, if_neg hk]

theorem find?_renew_of_ne (hk : k ≠ id) :
    (t.renew now id owner).2.leases.find? k = t.leases.find? k := by
  rcases t.renew_cases now id owner with h | ⟨lease, -, h⟩ <;> rw [h]
  rw [Table.find?_insert, if_neg hk]

theorem find?_release_of_ne (hk : k ≠ id) :
    (t.release id owner).2.leases.find? k = t.leases.find? k := by
  rcases t.release_cases id owner with h | h <;> rw [h]
  exact find?_forget_of_ne hk

section Congr

variable {u : LeaseTable} (hterm : u.term = t.term)
  (hfind : u.leases.find? id = t.leases.find? id)
include hfind

theorem find?_release_congr :
    (u.release id owner).2.leases.find? id = (t.release id owner).2.leases.find? id := by
  rw [release, release, hfind]
  cases t.leases.find? id with
  | none => exact hfind
  | some lease =>
    by_cases howner : lease.holder.owner = owner
    · simp only [howner, if_true]
      rw [Table.find?_erase, Table.find?_erase, if_pos rfl, if_pos rfl]
    · simpa only [howner, if_false] using hfind

include hterm

theorem find?_acquire_congr (hpolicy : u.policy = t.policy) :
    (u.acquire now id owner name).2.leases.find? id
      = (t.acquire now id owner name).2.leases.find? id := by
  have hgive : (u.assign now id owner name).2.leases.find? id
      = (t.assign now id owner name).2.leases.find? id := by
    rw [assign, assign, Table.find?_insert, Table.find?_insert, if_pos rfl, if_pos rfl]
  rw [acquire, acquire, hpolicy, holder_congr hterm hfind]
  cases t.policy with
  | grab => exact hgive
  | exclusive =>
    cases t.holder now id with
    | none => exact hgive
    | some h =>
      by_cases howner : h.owner = owner
      · simpa only [howner, ne_eq, not_true, if_false] using hgive
      · simpa only [howner, ne_eq, not_false_iff, if_true] using hfind

theorem find?_renew_congr :
    (u.renew now id owner).2.leases.find? id = (t.renew now id owner).2.leases.find? id := by
  rw [renew, renew, live?_congr hterm hfind]
  cases t.live? now id with
  | none => exact hfind
  | some lease =>
    by_cases howner : lease.holder.owner = owner
    · simp only [howner, if_true]
      rw [Table.find?_insert, Table.find?_insert, if_pos rfl, if_pos rfl]
    · simpa only [howner, if_false] using hfind

end Congr

/-! ## Holders at other ids

The same for holders. The times before and after may be different here, so these lemmas do not ask
who held the lease before, only who holds it at some one moment in both tables. -/

theorem holder_set_of_ne {lease : Lease} (hk : k ≠ id) :
    { t with leases := t.leases.insert id lease }.holder later k = t.holder later k :=
  holder_congr rfl (by rw [Table.find?_insert, if_neg hk])

theorem holder_assign_of_ne (hk : k ≠ id) :
    (t.assign now id owner name).2.holder later k = t.holder later k := holder_set_of_ne hk

theorem holder_acquire_of_ne (hk : k ≠ id) :
    (t.acquire now id owner name).2.holder later k = t.holder later k := by
  rcases t.acquire_cases now id owner name with h | h <;> rw [h]
  exact holder_assign_of_ne hk

theorem holder_forget_of_ne (hk : k ≠ id) : (t.forget id).holder later k = t.holder later k :=
  holder_congr rfl (by rw [forget, Table.find?_erase, if_neg hk])

theorem holder_release_of_ne (hk : k ≠ id) :
    (t.release id owner).2.holder later k = t.holder later k := by
  rcases t.release_cases id owner with h | h <;> rw [h]
  exact holder_forget_of_ne hk

/-! ## Where a holder comes from

These go backwards in time. They are what a statement on runs with a term needs: a holder at the end
was there before the last operation, or was put there by it. -/

/-- A lease that is given is held by whoever it was given to. -/
theorem holder_of_assign (hh : (t.assign now id owner name).2.holder later k = some h) :
    (k = id ∧ h = ⟨owner, name⟩) ∨ (k ≠ id ∧ t.holder later k = some h) := by
  by_cases hk : k = id
  · subst hk
    obtain ⟨lease, hfind, -, rfl⟩ := holder_eq_some_iff.mp hh
    rw [assign, Table.find?_insert, if_pos rfl, Option.some_inj] at hfind
    exact .inl ⟨rfl, by rw [← hfind]⟩
  · rw [holder_assign_of_ne hk] at hh
    exact .inr ⟨hk, hh⟩

/-- A request gives the lease to whoever asks, or leaves it with its holder. -/
theorem holder_of_acquire (hh : (t.acquire now id owner name).2.holder later k = some h) :
    (k = id ∧ h = ⟨owner, name⟩) ∨ t.holder later k = some h := by
  rcases t.acquire_cases now id owner name with he | he <;> rw [he] at hh
  · exact .inr hh
  · exact (holder_of_assign hh).imp_right And.right

/-- A renewal keeps the holder, and only a live lease is renewed. -/
theorem holder_of_renew (hle : now ≤ later)
    (hh : (t.renew now id owner).2.holder later k = some h) : t.holder now k = some h := by
  rcases t.renew_cases now id owner with he | ⟨lease, hlive, he⟩ <;> rw [he] at hh
  · exact holder_mono hle hh
  · by_cases hk : k = id
    · subst hk
      obtain ⟨new, hfind, -, rfl⟩ := holder_eq_some_iff.mp hh
      rw [Table.find?_insert, if_pos rfl, Option.some_inj] at hfind
      rw [holder, hlive, ← hfind]
      rfl
    · rw [holder_set_of_ne hk] at hh
      exact holder_mono hle hh

/-- A renewal puts no other name on any entry, live or not. -/
theorem map_holder_renew (t : LeaseTable) (now : Nat) (id : Int64) (owner : String) (k : Int64) :
    ((t.renew now id owner).2.leases.find? k).map (·.holder)
      = (t.leases.find? k).map (·.holder) := by
  rcases t.renew_cases now id owner with he | ⟨lease, hlive, he⟩ <;> rw [he]
  rw [Table.find?_insert]
  split
  · rename_i hk
    have hfind := (Option.filter_eq_some_iff.mp hlive).1
    rw [hk, hfind]
    rfl
  · rfl

/-- Nobody comes to hold a lease because another is forgotten. -/
theorem holder_of_forget (hh : (t.forget id).holder later k = some h) :
    t.holder later k = some h := by
  by_cases hk : k = id
  · obtain ⟨lease, hfind, -⟩ := holder_eq_some_iff.mp hh
    rw [forget, Table.find?_erase, if_pos hk] at hfind
    cases hfind
  · rwa [holder_forget_of_ne hk] at hh

/-- Nor because one is given back. -/
theorem holder_of_release (hh : (t.release id owner).2.holder later k = some h) :
    t.holder later k = some h := by
  rcases t.release_cases id owner with he | he <;> rw [he] at hh
  · exact hh
  · exact holder_of_forget hh

/-- Nor because what has run out is swept away. -/
theorem holder_of_purge (hh : (t.purge now).2.holder later k = some h) :
    t.holder later k = some h := by
  obtain ⟨lease, hfind, hlive, rfl⟩ := holder_eq_some_iff.mp hh
  rw [purge, Table.find?_keep, Option.filter_eq_some_iff] at hfind
  exact holder_eq_some_iff.mpr ⟨lease, hfind.1, hlive, rfl⟩

/-! ## Leases that never run out

Here the operations can be described outright, as functions from holders to holders. -/

section NeverExpires

variable (hterm : t.term = none)
include hterm

/-- Without a term every entry is live. -/
theorem live?_eq_find? : t.live? now k = t.leases.find? k := by
  have hlive (lease : Lease) : t.isExpired now lease = false := by
    rw [isExpired, hterm]
  rw [live?]
  cases t.leases.find? k with
  | none => rfl
  | some lease => simp [hlive]

/-- Time does not matter. -/
theorem holder_eq_holder (later now : Nat) (k : Int64) : t.holder later k = t.holder now k := by
  rw [holder, holder, live?_eq_find? hterm, live?_eq_find? hterm]

/-- A lease that is given is held, at any time after. -/
theorem holder_assign (now later : Nat) (id : Int64) (owner name : String) :
    (t.assign now id owner name).2.holder later id = some ⟨owner, name⟩ := by
  rw [holder, live?_eq_find? (by exact hterm), assign, Table.find?_insert, if_pos rfl]
  rfl

/-- A lease that is forgotten is held by nobody. -/
theorem holder_forget (later : Nat) (id : Int64) : (t.forget id).holder later id = none := by
  rw [holder, live?_eq_find? (by exact hterm), forget, Table.find?_erase, if_pos rfl]
  rfl

/-- A request gives the lease to whoever asks, unless leases stay with their holders and somebody
else has it. -/
theorem holder_acquire : (t.acquire now id owner name).2.holder later id
    = match t.policy, t.holder now id with
      | .exclusive, some h => if h.owner = owner then some ⟨owner, name⟩ else some h
      | _, _ => some ⟨owner, name⟩ := by
  have hgive := holder_assign hterm now later id owner name
  rw [acquire]
  cases hpolicy : t.policy with
  | grab => exact hgive
  | exclusive =>
    cases hh : t.holder now id with
    | none => exact hgive
    | some h =>
      by_cases ho : h.owner = owner
      · simpa [ho] using hgive
      · simpa [ho] using (holder_eq_holder hterm later now id).trans hh

/-- A renewal keeps all holders. -/
theorem holder_renew : (t.renew now id owner).2.holder later k = t.holder now k := by
  rw [← holder_eq_holder hterm later now]
  rcases t.renew_cases now id owner with h | ⟨lease, hlive, h⟩ <;> rw [h]
  rw [live?_eq_find? hterm] at hlive
  rw [holder, holder, live?_eq_find? (by exact hterm), live?_eq_find? hterm, Table.find?_insert]
  split
  · rename_i hk
    rw [hk, hlive]
    rfl
  · rfl

/-- A lease given back is free if it was the owner's. -/
theorem holder_release : (t.release id owner).2.holder later id
    = match t.holder now id with
      | some h => if h.owner = owner then none else some h
      | none => none := by
  have hhold (m : Nat) : t.holder m id = (t.leases.find? id).map (·.holder) := by
    rw [holder, live?_eq_find? hterm]
  rw [release]
  cases hfind : t.leases.find? id with
  | none => simp [hhold, hfind]
  | some lease =>
    rw [hhold, hfind]
    by_cases ho : lease.holder.owner = owner
    · have hfree := holder_forget hterm later id
      rw [forget] at hfree
      simpa [ho] using hfree
    · simpa [ho, hfind] using hhold later

/-- Nothing is swept away. -/
theorem holder_purge : (t.purge now).2.holder later k = t.holder now k := by
  rw [← holder_eq_holder hterm later now]
  refine holder_congr rfl ?_
  rw [purge, Table.find?_keep]
  exact live?_eq_find? hterm

end NeverExpires

end LeaseTable
end Whitelist
