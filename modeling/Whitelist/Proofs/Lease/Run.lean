import Mathlib.Data.List.Forall2
import Whitelist.Proofs.Lease.Live

/-!
# Runs of calls to a table of leases

Entries of leases that have run out may be taken out at any time. Calls are answered here with such
evictions and without them, side by side. All calls but one look only at live leases, and are
answered alike. A release looks at the entry: it says yes to an owner whose lease has run out, as
long as nothing has taken the entry out.

## What is here

* `Lapsed` — the entry of an owner's lease that has run out. `release_eq_true_iff` is what a release
  makes of it.
* `Swept` — a table is another one without some such entries. `Swept.on` and `Swept.answer_eq` say
  what becomes of both by a call, and what it answers; `Swept.release_ne_iff` says which releases
  are answered differently.
* `Call`, `Timed`, `history` — calls, at which times, and the tables that they find.
* `history_withoutEvictions` — a run and the same run without its evictions, side by side.
* `evictions_seen_by_release` — what evictions change in a run.
* `release_says_yes_after_expiry` — a release is not always as it should be.

An eviction takes out entries of leases that have run out, at a moment that nobody chooses. The
relation `Swept` compares a table with one that has had more evictions. It is not symmetric, and for
a reason: the table with fewer evictions has all entries of the other, and on those entries the two
agree. Every call keeps the relation, every eviction in one of the tables does, and so two runs can
be followed side by side.

The one call whose answer differs is the release, which looks at the entry and not at whether it is
live. `release_ne_iff` says when.
-/

set_option autoImplicit false
namespace Whitelist
namespace LeaseTable

variable {α : Type} {t u : LeaseTable} {now later : Nat} {id : Int64} {owner name : String}

/-! ## Leases that have run out and are still there

`Lapsed` is the state that the other operations cannot see. -/

/-- The lease of this owner has run out, and its entry is still there. -/
def Lapsed (t : LeaseTable) (now : Nat) (id : Int64) (owner : String) : Prop :=
  ∃ lease, t.leases.find? id = some lease ∧ t.isExpired now lease = true
    ∧ lease.holder.owner = owner

theorem isHeldBy_iff_holder : t.isHeldBy now id owner = true
    ↔ ∃ h, t.holder now id = some h ∧ h.owner = owner := by
  rw [isHeldBy]
  cases t.holder now id <;> simp

theorem isHeldBy_iff : t.isHeldBy now id owner = true
    ↔ ∃ lease, t.leases.find? id = some lease ∧ t.isExpired now lease = false
      ∧ lease.holder.owner = owner := by
  rw [isHeldBy_iff_holder]
  constructor
  · rintro ⟨h, hh, rfl⟩
    obtain ⟨lease, hfind, hlive, rfl⟩ := holder_eq_some_iff.mp hh
    exact ⟨lease, hfind, hlive, rfl⟩
  · rintro ⟨lease, hfind, hlive, rfl⟩
    exact ⟨lease.holder, holder_eq_some_iff.mpr ⟨lease, hfind, hlive, rfl⟩, rfl⟩

/-- A release goes by the entry. -/
theorem release_eq_true_iff_entry : (t.release id owner).1 = true
    ↔ ∃ lease, t.leases.find? id = some lease ∧ lease.holder.owner = owner := by
  rw [release]
  cases hfind : t.leases.find? id with
  | none => simp
  | some lease =>
    by_cases howner : lease.holder.owner = owner <;> simp [howner]

/-- **A release says yes** to the holder of the live lease, and to an owner whose lease has run out
but has not been taken out. -/
theorem release_eq_true_iff (now : Nat) : (t.release id owner).1 = true
    ↔ t.isHeldBy now id owner = true ∨ t.Lapsed now id owner := by
  rw [release_eq_true_iff_entry, isHeldBy_iff]
  constructor
  · rintro ⟨lease, hfind, howner⟩
    cases hexp : t.isExpired now lease with
    | false => exact .inl ⟨lease, hfind, hexp, howner⟩
    | true => exact .inr ⟨lease, hfind, hexp, howner⟩
  · rintro (⟨lease, hfind, -, howner⟩ | ⟨lease, hfind, -, howner⟩)
    · exact ⟨lease, hfind, howner⟩
    · exact ⟨lease, hfind, howner⟩

/-- No owner has a live lease and one that has run out at the same id. -/
theorem Lapsed.not_isHeldBy (h : t.Lapsed now id owner) : t.isHeldBy now id owner = false := by
  obtain ⟨lease, hfind, hexp, -⟩ := h
  rw [Bool.eq_false_iff, ne_eq, isHeldBy_iff]
  rintro ⟨other, hother, hlive, -⟩
  rw [hfind, Option.some_inj] at hother
  rw [← hother, hexp] at hlive
  cases hlive

/-! ## Tables that were swept

The second table may lack entries that the first one has, and only such as have run out. -/

/-- The second table is the first one without some entries, all of leases that have run out. -/
structure Swept (now : Nat) (u t : LeaseTable) : Prop extends SameLive now u t where
  entries : ∀ id lease, t.leases.find? id = some lease → u.leases.find? id = some lease

namespace Swept

theorem refl (now : Nat) (t : LeaseTable) : Swept now t t := ⟨.refl now t, fun _ _ h => h⟩

variable (h : Swept now u t)
include h

theorem mono (hle : now ≤ later) : Swept later u t := ⟨h.toSameLive.mono hle, h.entries⟩

theorem isHeldBy (id : Int64) (owner : String) :
    t.isHeldBy now id owner = u.isHeldBy now id owner := by
  rw [LeaseTable.isHeldBy, LeaseTable.isHeldBy, h.holder]

theorem lapsed (hlapsed : t.Lapsed now id owner) : u.Lapsed now id owner := by
  obtain ⟨lease, hfind, hexp, howner⟩ := hlapsed
  refine ⟨lease, h.entries id lease hfind, ?_, howner⟩
  rw [← isExpired_congr h.term]
  exact hexp

/-! ### The same done to both -/

theorem insert (id : Int64) (lease : Lease) :
    Swept now { u with leases := u.leases.insert id lease }
      { t with leases := t.leases.insert id lease } where
  toSameLive := h.toSameLive.insert id lease
  entries k new hnew := by
    rw [Table.find?_insert] at hnew ⊢
    split at hnew
    · rwa [if_pos (by assumption)]
    · rw [if_neg (by assumption)]
      exact h.entries k new hnew

theorem forget (id : Int64) : Swept now (u.forget id) (t.forget id) where
  toSameLive := h.toSameLive.forget id
  entries k lease hlease := by
    rw [LeaseTable.forget, Table.find?_erase] at hlease ⊢
    split at hlease
    · cases hlease
    · rw [if_neg (by assumption)]
      exact h.entries k lease hlease

theorem release (id : Int64) (owner : String) :
    Swept now (u.release id owner).2 (t.release id owner).2 where
  toSameLive := h.toSameLive.release id owner
  entries k lease hlease := by
    rw [find?_release] at hlease ⊢
    split at hlease
    · obtain ⟨hfind, howner⟩ := Option.filter_eq_some_iff.mp hlease
      rw [if_pos (by assumption)]
      exact Option.filter_eq_some_iff.mpr ⟨h.entries id lease hfind, howner⟩
    · rw [if_neg (by assumption)]
      exact h.entries k lease hlease

theorem acquire (id : Int64) (owner name : String) :
    (t.acquire now id owner name).1 = (u.acquire now id owner name).1
      ∧ Swept now (u.acquire now id owner name).2 (t.acquire now id owner name).2 := by
  rcases h.acquire_cases id owner name with ⟨other, hu, ht⟩ | ⟨hu, ht⟩ <;> rw [hu, ht]
  · exact ⟨rfl, h⟩
  · exact ⟨rfl, h.insert id _⟩

theorem renew (id : Int64) (owner : String) :
    (t.renew now id owner).1 = (u.renew now id owner).1
      ∧ Swept now (u.renew now id owner).2 (t.renew now id owner).2 := by
  rcases h.renew_cases id owner with ⟨hu, ht⟩ | ⟨lease, hu, ht⟩ <;> rw [hu, ht]
  · exact ⟨rfl, h⟩
  · exact ⟨rfl, h.insert id lease⟩

/-! ### Sweeping once more -/

theorem purge : Swept now u (t.purge now).2 where
  toSameLive := h.toSameLive.trans (sameLive_purge now t)
  entries k lease hlease := by
    rw [LeaseTable.purge, Table.find?_keep, Option.filter_eq_some_iff] at hlease
    exact h.entries k lease hlease.1

theorem sweep : Swept now u (t.sweep now).2 := by
  rw [LeaseTable.sweep]
  split
  · exact h
  · exact h.purge

/-- Two releases are answered differently where the owner's lease has run out and its entry is still
there for one of them only. -/
theorem release_ne_iff : (t.release id owner).1 ≠ (u.release id owner).1
    ↔ u.Lapsed now id owner ∧ ¬ t.Lapsed now id owner := by
  have hheld := h.isHeldBy id owner
  rw [ne_eq, Bool.eq_iff_iff, release_eq_true_iff now, release_eq_true_iff now, hheld]
  constructor
  · intro hne
    by_cases hu : u.Lapsed now id owner
    · refine ⟨hu, fun ht => hne ?_⟩
      exact iff_of_true (.inr ht) (.inr hu)
    · refine absurd ?_ hne
      exact or_congr_right (iff_of_false (fun ht => hu (h.lapsed ht)) hu)
  · rintro ⟨hu, ht⟩ hiff
    rcases hiff.mpr (.inr hu) with hlive | hlapsed
    · rw [hu.not_isHeldBy] at hlive
      cases hlive
    · exact ht hlapsed

end Swept

/-! ## Calls

The calls of the lease table itself, an action under a lease among them. -/

/-- A call to a table of leases. -/
inductive Call (α : Type) where
  | acquire (id : Int64) (owner name : String)
  | assign (id : Int64) (owner name : String)
  | holder (id : Int64)
  | isHeldBy (id : Int64) (owner : String)
  | whileHeld (id : Int64) (owner : String) (action : Unit → α)
  | renew (id : Int64) (owner : String)
  | release (id : Int64) (owner : String)
  | forget (id : Int64)
  | purge
  | sweep

namespace Call

/-- What a call is answered with. -/
@[reducible] def Answer : Call α → Type
  | acquire .. | assign .. => LockHolder
  | holder _ => Option LockHolder
  | whileHeld .. => Except (Option LockHolder) α
  | isHeldBy .. | renew .. | release .. | sweep => Bool
  | forget _ => Unit
  | purge => Nat

/-- What comes of a call. -/
def on (now : Nat) (t : LeaseTable) : (call : Call α) → call.Answer × LeaseTable
  | acquire id owner name => t.acquire now id owner name
  | assign id owner name => t.assign now id owner name
  | holder id => (t.holder now id, t)
  | isHeldBy id owner => (t.isHeldBy now id owner, t)
  | whileHeld id owner action => (t.whileHeld now id owner action, t)
  | renew id owner => t.renew now id owner
  | release id owner => t.release id owner
  | forget id => ((), t.forget id)
  | purge => t.purge now
  | sweep => t.sweep now

/-- Whether the call takes out entries of leases that have run out. -/
def evicts : Call α → Bool
  | purge | sweep => true
  | _ => false

end Call

namespace Swept

variable (h : Swept now u t) {call : Call α}
include h

theorem on (hstays : call.evicts = false) : Swept now (call.on now u).2 (call.on now t).2 := by
  cases call with
  | acquire id owner name => exact (h.acquire id owner name).2
  | assign id owner name => exact h.insert id _
  | holder id => exact h
  | isHeldBy id owner => exact h
  | whileHeld id owner action => exact h
  | renew id owner => exact (h.renew id owner).2
  | release id owner => exact h.release id owner
  | forget id => exact h.forget id
  | purge => cases hstays
  | sweep => cases hstays

theorem on_of_evicts (hevicts : call.evicts = true) : Swept now u (call.on now t).2 := by
  cases call with
  | purge => exact h.purge
  | sweep => exact h.sweep
  | _ => cases hevicts

/-- **A call that looks at live leases only** is answered alike. -/
theorem answer_eq (hstays : call.evicts = false)
    (hother : ∀ id owner, call ≠ .release id owner) :
    (call.on now t).1 = (call.on now u).1 := by
  cases call with
  | acquire id owner name => exact (h.acquire id owner name).1
  | assign id owner name => rfl
  | holder id => exact h.holder id
  | isHeldBy id owner => exact h.isHeldBy id owner
  | whileHeld id owner action =>
    show t.whileHeld now id owner action = u.whileHeld now id owner action
    rw [LeaseTable.whileHeld, LeaseTable.whileHeld, h.holder]
  | renew id owner => exact (h.renew id owner).1
  | release id owner => exact absurd rfl (hother id owner)
  | forget id => rfl
  | purge => cases hstays
  | sweep => cases hstays

end Swept

/-! ## Runs

Times are part of a run, and have to be in order. -/

/-- A call and the time at which it is made. -/
structure Timed (α : Type) where
  time : Nat
  call : Call α

/-- What the call is answered over a table. -/
def Timed.answer (step : Timed α) (t : LeaseTable) : step.call.Answer :=
  (step.call.on step.time t).1

/-- A call together with the table that it finds. -/
abbrev Moment (α : Type) : Type := Timed α × LeaseTable

/-- The calls of a run, each with the table that it finds. -/
def history (t : LeaseTable) : List (Timed α) → List (Moment α)
  | [] => []
  | step :: rest => (step, t) :: (step.call.on step.time t).2.history rest

/-- The calls of a run are made one after the other. -/
def InOrder (steps : List (Timed α)) : Prop := (steps.map (·.time)).Pairwise (· ≤ ·)

instance (steps : List (Timed α)) : Decidable (InOrder steps) :=
  inferInstanceAs (Decidable (List.Pairwise ..))

/-- The run without its evictions. -/
def withoutEvictions (steps : List (Timed α)) : List (Timed α) :=
  steps.filter fun step => !step.call.evicts

/-- The moments that are not evictions. -/
def visible (moments : List (Moment α)) : List (Moment α) :=
  moments.filter fun moment => !moment.1.call.evicts

/-- The same call is made to two tables, the first one being the second with more evictions. -/
structure SeenAlike (p q : Moment α) : Prop where
  step : q.1 = p.1
  /-- The same owners hold live leases. -/
  holder (id : Int64) : p.2.holder p.1.time id = q.2.holder p.1.time id
  answer : (∀ id owner, p.1.call ≠ .release id owner) → p.1.answer p.2 = p.1.answer q.2
  /-- A release is answered differently where a lease has run out that was evicted before the first
  call only. -/
  release (id : Int64) (owner : String) : p.1.call = .release id owner →
    ((p.2.release id owner).1 ≠ (q.2.release id owner).1
      ↔ q.2.Lapsed p.1.time id owner ∧ ¬ p.2.Lapsed p.1.time id owner)

theorem Swept.seenAlike {step : Timed α} (h : Swept step.time u t)
    (hstays : step.call.evicts = false) : SeenAlike (step, t) (step, u) where
  step := rfl
  holder := h.holder
  answer := h.answer_eq hstays
  release _ _ _ := h.release_ne_iff

/-- Side by side, a run with evictions and the same run without them. -/
theorem history_withoutEvictions (h : Swept now u t) {steps : List (Timed α)}
    (hsorted : InOrder steps) (hlater : ∀ step ∈ steps, now ≤ step.time) :
    List.Forall₂ SeenAlike (visible (t.history steps)) (u.history (withoutEvictions steps)) := by
  induction steps generalizing now t u with
  | nil => exact .nil
  | cons step rest ih =>
    have hnow := h.mono (hlater step List.mem_cons_self)
    obtain ⟨hfirst, hrest⟩ := List.pairwise_cons.mp hsorted
    have hafter : ∀ next ∈ rest, step.time ≤ next.time := fun next hnext =>
      hfirst next.time (List.mem_map_of_mem hnext)
    cases hstep : step.call.evicts with
    | true =>
      -- Only the first run has this call, and it may lose entries that the second one keeps.
      have hswept := ih (hnow.on_of_evicts hstep) hrest hafter
      simpa [visible, history, withoutEvictions, hstep] using hswept
    | false =>
      have hboth := ih (hnow.on hstep) hrest hafter
      simpa [visible, history, withoutEvictions, hstep] using ⟨hnow.seenAlike hstep, hboth⟩

/-- No call changes how long leases last. -/
@[simp] theorem Call.on_term (call : Call α) : (call.on now t).2.term = t.term := by
  cases call with
  | acquire id owner name => exact acquire_term
  | renew id owner => exact renew_term
  | release id owner => exact release_term
  | sweep =>
    show (t.sweep now).2.term = t.term
    rw [LeaseTable.sweep]
    split <;> rfl
  | _ => rfl

theorem term_of_mem_history {steps : List (Timed α)} {moment : Moment α}
    (h : moment ∈ t.history steps) : moment.2.term = t.term := by
  induction steps generalizing t with
  | nil => cases h
  | cons step rest ih =>
    rcases List.mem_cons.mp h with rfl | h
    · rfl
    · exact (ih h).trans step.call.on_term

theorem not_lapsed (hterm : t.term = none) : ¬ t.Lapsed now id owner := by
  rintro ⟨lease, -, hexp, -⟩
  rw [isExpired, hterm] at hexp
  cases hexp

/-- **Only releases tell whether there were evictions.** Into a run of calls, made one after the
other, purges and passes of the sweeper are inserted anywhere. All calls but releases are answered
as they are without these, and the same owners hold live leases at each of them. A release is
answered differently exactly where the owner's lease has run out, and its entry was taken out in one
run and not in the other; for a release says yes to such an owner too, as long as the entry is
there. Where leases never run out this does not happen. -/
theorem evictions_seen_by_release (policy : LockPolicy) (term : Option Nat)
    (steps : List (Timed α)) (hsorted : InOrder steps) :
    List.Forall₂ SeenAlike (visible ((new policy term).history steps))
      ((new policy term).history (withoutEvictions steps))
    ∧ ∀ moment ∈ (new policy term).history steps, ∀ id owner, moment.1.call = .release id owner →
      ((moment.2.release id owner).1 = true
        ↔ moment.2.isHeldBy moment.1.time id owner = true ∨ moment.2.Lapsed moment.1.time id owner)
      ∧ ((new policy term).term = none → ¬ moment.2.Lapsed moment.1.time id owner) := by
  refine ⟨history_withoutEvictions (.refl 0 _) hsorted fun _ _ => Nat.zero_le _, ?_⟩
  intro moment hmoment id owner _
  refine ⟨release_eq_true_iff moment.1.time, fun hterm => not_lapsed ?_⟩
  rw [term_of_mem_history hmoment, hterm]

/-- Alice gives her lease back when it has just run out, after these evictions. -/
def overdue (evictions : List (Timed Unit)) : List (Timed Unit) :=
  ⟨0, .acquire 1 "u1" "Alice"⟩ :: (evictions ++ [⟨1, .release 1 "u1"⟩])

/-- With a purge in between she is told that she has no lease, and without it that she had one. -/
theorem evictions_seen_by_release_overdue :
    InOrder (overdue [⟨1, .purge⟩]) ∧ ∃ p q : Moment Unit, SeenAlike p q
      ∧ p.1 = ⟨1, .release 1 "u1"⟩ ∧ q.2.holder 1 1 = none
      ∧ (p.2.release 1 "u1").1 = false ∧ (q.2.release 1 "u1").1 = true := by
  have hsorted : InOrder (overdue [⟨1, .purge⟩]) := by decide
  obtain ⟨hall, -⟩ := evictions_seen_by_release .grab (some 1) (overdue [⟨1, .purge⟩]) hsorted
  obtain ⟨-, hrest⟩ := List.forall₂_cons.mp hall
  obtain ⟨hlast, -⟩ := List.forall₂_cons.mp hrest
  exact ⟨hsorted, _, _, hlast, rfl, by decide, by decide, by decide⟩

/-- It is not so that a release says yes to the holder of the live lease only, nor that evictions
are not seen. -/
theorem release_says_yes_after_expiry :
    (¬ ∀ (policy : LockPolicy) (term : Option Nat) (steps : List (Timed Unit)), InOrder steps →
      ∀ moment ∈ (new policy term).history steps, ∀ id owner,
        moment.1.call = .release id owner →
        ((moment.2.release id owner).1 = true
          ↔ moment.2.isHeldBy moment.1.time id owner = true))
    ∧ ¬ ∀ (policy : LockPolicy) (term : Option Nat) (steps : List (Timed Unit)), InOrder steps →
      List.Forall₂ (fun p q => q.1 = p.1 ∧ p.1.answer p.2 = p.1.answer q.2)
        (visible ((new policy term).history steps))
        ((new policy term).history (withoutEvictions steps)) := by
  constructor
  · intro hall
    have hrelease := hall .grab (some 1) (overdue []) (by decide) _
      (List.mem_cons_of_mem _ List.mem_cons_self) 1 "u1" rfl
    exact absurd hrelease (by decide)
  · intro hall
    obtain ⟨-, hrest⟩ := List.forall₂_cons.mp
      (hall .grab (some 1) (overdue [⟨1, .purge⟩]) (by decide))
    obtain ⟨⟨-, hanswer⟩, -⟩ := List.forall₂_cons.mp hrest
    exact absurd hanswer (by decide)

end LeaseTable
end Whitelist
