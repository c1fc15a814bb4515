import Whitelist.Proofs.Lease.Run

/-!
# One lease, seen in several ways

A lease can be asked about in several ways: who holds it, whether this owner does, whether something
may be done under it, and whether it can be renewed. Each of them decides for itself whether there
is a live lease and whose it is. This file says that they all decide alike, and that a request for
the lease decides as they do.

## What is here

* `whileHeld_eq`, `renew_eq_true_iff`, `acquire_of_other`, `acquire_of_free` — each operation in
  terms of the holder. These hold of any table.
* `Sound` — no lease of a table was given in the future, and a lease that is given lasts some time.
  `Sound.on` says that every call keeps it so, and `sound_afterCalls` that it is so in every run.
* `KeepsHolders` — what a call makes of the holders that only asks about leases, or renews one.
* `lease_seen_alike` — all of this, in every table that a run can lead to.

All operations look for the live entry first, except a release, and then at its owner. The equations
of the first section make this explicit, for any table. What they do not say is that a lease which
is given is then live: with a term of 0, or with an entry from the future, it would not be. `Sound`
excludes both, and is an invariant, since entries are written with the time of the call and the time
of calls only grows.
-/

set_option autoImplicit false
namespace Whitelist
namespace LeaseTable

variable {α β : Type} {t u : LeaseTable} {now later : Nat} {id k : Int64} {owner name : String}
  {h : LockHolder}

/-! ## Each operation in terms of the holder

Whatever the table is, an operation decides by the holder and by nothing else. -/

/-- An action runs under a lease of its owner; what stands against it otherwise is the holder. -/
theorem whileHeld_eq (action : Unit → β) : t.whileHeld now id owner action
    = if t.isHeldBy now id owner = true then .ok (action ()) else .error (t.holder now id) := by
  rw [whileHeld, isHeldBy]
  cases t.holder now id with
  | none => rfl
  | some h => by_cases howner : h.owner = owner <;> simp [howner]

theorem whileHeld_eq_ok_iff (action : Unit → β) :
    t.whileHeld now id owner action = .ok (action ()) ↔ t.isHeldBy now id owner = true := by
  rw [whileHeld_eq]
  split <;> simp_all

/-- A lease is renewed for its owner. -/
theorem renew_eq_true_iff : (t.renew now id owner).1 = true ↔ t.isHeldBy now id owner = true := by
  rw [isHeldBy_iff_holder, holder, renew]
  cases t.live? now id with
  | none => simp
  | some lease => by_cases howner : lease.holder.owner = owner <;> simp [howner]

/-- Where leases stay with their holders, whoever asks for the lease of somebody else is told who it
is, and nothing comes of it. -/
theorem acquire_of_other (hpolicy : t.policy = .exclusive) (hh : t.holder now id = some h)
    (hother : h.owner ≠ owner) : t.acquire now id owner name = (h, t) := by
  rw [acquire, hpolicy, hh]
  exact if_pos hother

/-- In all other cases the lease is given. -/
theorem acquire_of_free
    (hfree : t.policy = .exclusive → ∀ h, t.holder now id = some h → h.owner = owner) :
    t.acquire now id owner name = t.assign now id owner name := by
  rw [acquire]
  split
  · rename_i hpolicy hh
    exact if_neg (not_not.mpr (hfree hpolicy _ hh))
  · rfl

/-! ## Tables that a run leads to

`Sound.of_entries` is the one lemma on preservation; each call is a case of it. -/

/-- A lease that is given lasts some time, and none was given, or renewed, in the future. -/
structure Sound (now : Nat) (t : LeaseTable) : Prop where
  lasts : t.term ≠ some 0
  since_le : ∀ id lease, t.leases.find? id = some lease → lease.since ≤ now

theorem sound_new (policy : LockPolicy) (term : Option Nat) (now : Nat) :
    Sound now (new policy term) where
  lasts hzero := by
    have hpositive := (Option.filter_eq_some_iff.mp hzero).2
    cases hpositive
  since_le _ _ hfind := by cases hfind

namespace Sound

/-- What becomes of a table whose entries stay, go, or are put there now. -/
theorem of_entries (hsound : Sound now t) (hle : now ≤ later) (hterm : u.term = t.term)
    (hentries : ∀ id lease, u.leases.find? id = some lease →
      t.leases.find? id = some lease ∨ lease.since = later) : Sound later u where
  lasts := hterm ▸ hsound.lasts
  since_le id lease hfind := by
    rcases hentries id lease hfind with hold | hnew
    · exact Nat.le_trans (hsound.since_le id lease hold) hle
    · exact Nat.le_of_eq hnew

theorem mono (hsound : Sound now t) (hle : now ≤ later) : Sound later t :=
  hsound.of_entries hle rfl fun _ _ => .inl

theorem insert (hsound : Sound now t) (id : Int64) {lease : Lease} (hnow : lease.since = now) :
    Sound now { t with leases := t.leases.insert id lease } := by
  refine hsound.of_entries (Nat.le_refl now) rfl fun k new hfind => ?_
  rw [Table.find?_insert] at hfind
  split at hfind
  · exact .inr (Option.some_inj.mp hfind ▸ hnow)
  · exact .inl hfind

theorem keep (hsound : Sound now t) (test : Int64 → Lease → Bool) :
    Sound now { t with leases := t.leases.keep test } := by
  refine hsound.of_entries (Nat.le_refl now) rfl fun k lease hfind => .inl ?_
  rw [Table.find?_keep] at hfind
  exact (Option.filter_eq_some_iff.mp hfind).1

theorem assign (hsound : Sound now t) (id : Int64) (owner name : String) :
    Sound now (t.assign now id owner name).2 := hsound.insert id rfl

theorem forget (hsound : Sound now t) (id : Int64) : Sound now (t.forget id) := hsound.keep _

/-- No call gives a lease but now. -/
theorem on (hsound : Sound now t) (call : Call α) : Sound now (call.on now t).2 := by
  cases call with
  | acquire id owner name =>
    rcases t.acquire_cases now id owner name with he | he <;> rw [Call.on, he]
    · exact hsound
    · exact hsound.assign id owner name
  | assign id owner name => exact hsound.assign id owner name
  | renew id owner =>
    rcases t.renew_cases now id owner with he | ⟨lease, -, he⟩ <;> rw [Call.on, he]
    · exact hsound
    · exact hsound.insert id rfl
  | release id owner =>
    rcases t.release_cases id owner with he | he <;> rw [Call.on, he]
    · exact hsound
    · exact hsound.forget id
  | forget id => exact hsound.forget id
  | purge => exact hsound.keep _
  | sweep =>
    rw [Call.on, LeaseTable.sweep]
    split
    · exact hsound
    · exact hsound.keep _
  | holder _ | isHeldBy _ _ | whileHeld _ _ _ => exact hsound

end Sound

/-- The table after a run of calls. -/
def afterCalls (t : LeaseTable) (steps : List (Timed α)) : LeaseTable :=
  steps.foldl (fun t step => (step.call.on step.time t).2) t

/-- The calls are made one after the other, and all of them by now. -/
structure MadeBy (now : Nat) (steps : List (Timed α)) : Prop where
  inOrder : InOrder steps
  past : ∀ step ∈ steps, step.time ≤ now

theorem sound_afterCalls {start : Nat} (hsound : Sound start t) {steps : List (Timed α)}
    (hstart : ∀ step ∈ steps, start ≤ step.time) (hle : start ≤ now) (hmade : MadeBy now steps) :
    Sound now (t.afterCalls steps) := by
  induction steps generalizing start t with
  | nil => exact hsound.mono hle
  | cons step rest ih =>
    obtain ⟨hfirst, hrest⟩ := List.pairwise_cons.mp hmade.inOrder
    have hpast := List.forall_mem_cons.mp hmade.past
    have hstep := (hsound.mono (hstart step List.mem_cons_self)).on step.call
    exact ih hstep (fun next hnext => hfirst next.time (List.mem_map_of_mem hnext)) hpast.1
      ⟨hrest, hpast.2⟩

/-- No call changes the policy. -/
@[simp] theorem Call.on_policy (call : Call α) : (call.on now t).2.policy = t.policy := by
  cases call with
  | acquire id owner name => exact acquire_policy
  | renew id owner => exact renew_policy
  | release id owner => exact release_policy
  | sweep =>
    show (t.sweep now).2.policy = t.policy
    rw [LeaseTable.sweep]
    split <;> rfl
  | _ => rfl

theorem afterCalls_policy (steps : List (Timed α)) : (t.afterCalls steps).policy = t.policy := by
  induction steps generalizing t with
  | nil => rfl
  | cons step rest ih => exact ih.trans step.call.on_policy

theorem afterCalls_term (steps : List (Timed α)) : (t.afterCalls steps).term = t.term := by
  induction steps generalizing t with
  | nil => rfl
  | cons step rest ih => exact ih.trans step.call.on_term

/-! ## Holders after a request

A request that is granted makes the caller the holder, and that lasts for a term. -/

/-- A lease that was just given is live for as long as leases last. -/
theorem holder_assign_of_lasts (hlasts : ∀ term, t.term = some term → later < now + term) :
    (t.assign now id owner name).2.holder later id = some ⟨owner, name⟩ := by
  refine holder_eq_some_iff.mpr ⟨⟨⟨owner, name⟩, now⟩, ?_, ?_, rfl⟩
  · rw [assign, Table.find?_insert, if_pos rfl]
  · rw [isExpired]
    cases hterm : (t.assign now id owner name).2.term with
    | none => rfl
    | some term => simpa using hlasts term hterm

theorem Sound.lasts_now (hsound : Sound now t) : ∀ term, t.term = some term → now < now + term := by
  rintro term hterm
  refine Nat.lt_add_of_pos_right (Nat.pos_of_ne_zero ?_)
  rintro rfl
  exact hsound.lasts hterm

/-! ## Holders after a renewal

A renewal moves the time from which a term is counted, so it can only make a lease last longer. -/

/-- The same owners hold leases as before, and each of them for at least as long. -/
structure KeepsHolders (now : Nat) (t u : LeaseTable) : Prop where
  same : ∀ id, u.holder now id = t.holder now id
  longer : ∀ later id h, now ≤ later → t.holder later id = some h → u.holder later id = some h

theorem KeepsHolders.refl (now : Nat) (t : LeaseTable) : KeepsHolders now t t :=
  ⟨fun _ => rfl, fun _ _ _ _ hh => hh⟩

/-- A lease whose term is counted from a later time runs out no sooner. -/
theorem isExpired_since_mono {lease : Lease} (hsince : lease.since ≤ now)
    (hlive : t.isExpired later lease = false) :
    t.isExpired later { lease with since := now } = false := by
  unfold isExpired at hlive ⊢
  split
  · rfl
  · simp_all
    omega

theorem Sound.keepsHolders_renew (hsound : Sound now t) (id : Int64) (owner : String) :
    KeepsHolders now t (t.renew now id owner).2 := by
  have longer (later : Nat) (k : Int64) (h : LockHolder) (hh : t.holder later k = some h) :
      (t.renew now id owner).2.holder later k = some h := by
    rcases t.renew_cases now id owner with he | ⟨lease, hlive, he⟩ <;> rw [he]
    · exact hh
    · by_cases hk : k = id
      · subst hk
        obtain ⟨found, hfind, hnot, rfl⟩ := holder_eq_some_iff.mp hh
        obtain rfl : found = lease :=
          Option.some_inj.mp (hfind.symm.trans (Option.filter_eq_some_iff.mp hlive).1)
        have hsince := hsound.since_le k found hfind
        exact holder_eq_some_iff.mpr ⟨_, by rw [Table.find?_insert, if_pos rfl],
          isExpired_since_mono hsince hnot, rfl⟩
      · rwa [holder_set_of_ne hk]
  refine ⟨fun k => Option.ext fun h => ⟨?_, longer now k h⟩, fun later k h _ => longer later k h⟩
  exact holder_of_renew (Nat.le_refl now)

/-- The calls that only ask about a lease, and those that renew one. -/
def Call.claimsNothing : Call α → Bool
  | holder _ | isHeldBy .. | whileHeld .. | renew .. => true
  | _ => false

theorem Sound.keepsHolders_on (hsound : Sound now t) {call : Call α}
    (hcall : call.claimsNothing = true) : KeepsHolders now t (call.on now t).2 := by
  cases call with
  | renew id owner => exact hsound.keepsHolders_renew id owner
  | holder _ | isHeldBy _ _ | whileHeld _ _ _ => exact .refl now t
  | _ => cases hcall

/-! ## All together -/

/-- **All looks at a lease agree**, in every table that a run of calls can lead to, under either
policy and with any term of leases. An action runs under the lease of its owner exactly where the
owner is said to hold it, which is where the holder has that owner, and where a renewal succeeds; if
it is refused, then with the holder. A request is granted, and the lease is the owner's for as long
as leases last, unless leases stay with their holders and somebody else has it: then it is answered
with that holder, and the table stays as it is. No other owner comes to hold a lease, and none loses
one, by a look or by a renewal. -/
theorem lease_seen_alike (policy : LockPolicy) (term : Option Nat) (steps : List (Timed α))
    (now : Nat) (hmade : MadeBy now steps) (id : Int64) (owner name : String)
    (action : Unit → β) :
    let t := (new policy term).afterCalls steps
    (t.whileHeld now id owner action = .ok (action ()) ↔ t.isHeldBy now id owner = true)
      ∧ (t.isHeldBy now id owner = true ↔ ∃ h, t.holder now id = some h ∧ h.owner = owner)
      ∧ (t.isHeldBy now id owner = true ↔ (t.renew now id owner).1 = true)
      ∧ (t.isHeldBy now id owner = false →
        t.whileHeld now id owner action = .error (t.holder now id))
      ∧ (∀ h, policy = .exclusive → t.holder now id = some h → h.owner ≠ owner →
        t.acquire now id owner name = (h, t))
      ∧ ((policy = .exclusive → ∀ h, t.holder now id = some h → h.owner = owner) →
        (t.acquire now id owner name).1 = ⟨owner, name⟩
          ∧ (t.acquire now id owner name).2.holder now id = some ⟨owner, name⟩
          ∧ (∀ later, (∀ span, (new policy term).term = some span → later < now + span) →
            (t.acquire now id owner name).2.holder later id = some ⟨owner, name⟩)
          ∧ ∀ later k, k ≠ id →
            (t.acquire now id owner name).2.holder later k = t.holder later k)
      ∧ ∀ call : Call β, call.claimsNothing = true → KeepsHolders now t (call.on now t).2 := by
  intro t
  have hsound : Sound now t := sound_afterCalls (sound_new policy term 0) (fun _ _ => Nat.zero_le _)
    (Nat.zero_le now) hmade
  have hpolicy : t.policy = policy := afterCalls_policy steps
  have hterm : t.term = (new policy term).term := afterCalls_term steps
  refine ⟨whileHeld_eq_ok_iff action, isHeldBy_iff_holder, renew_eq_true_iff.symm, fun hnot => ?_,
    fun h hexclusive => acquire_of_other (hpolicy.trans hexclusive), fun hfree => ?_,
    fun call => hsound.keepsHolders_on⟩
  · rw [whileHeld_eq, if_neg (by simp [hnot])]
  · rw [acquire_of_free fun hexclusive => hfree (hpolicy ▸ hexclusive)]
    refine ⟨rfl, holder_assign_of_lasts hsound.lasts_now, fun later hlasts => ?_,
      fun later k hk => holder_assign_of_ne hk⟩
    exact holder_assign_of_lasts (hterm ▸ hlasts)

/-- Alice has the lease, and Bob asks for it in vain. -/
def contested : List (Timed Unit) := [⟨0, .acquire 1 "u1" "Alice"⟩, ⟨3, .acquire 1 "u2" "Bob"⟩]

/-- He is told that it is hers wherever he asks. -/
theorem lease_seen_alike_contested : MadeBy 4 contested
    ∧ let t := (new .exclusive (some 5)).afterCalls contested
      t.isHeldBy 4 1 "u2" = false
        ∧ t.whileHeld 4 1 "u2" (fun _ => 7) = .error (some ⟨"u1", "Alice"⟩)
        ∧ t.acquire 4 1 "u2" "Bob" = (⟨"u1", "Alice"⟩, t) := by
  have hmade : MadeBy 4 contested := ⟨by decide, by decide⟩
  obtain ⟨-, -, -, hrefused, hother, -⟩ :=
    lease_seen_alike .exclusive (some 5) contested 4 hmade 1 "u2" "Bob" fun _ => 7
  exact ⟨hmade, by decide, hrefused (by decide), hother _ rfl (by decide) (by decide)⟩

end LeaseTable
end Whitelist
