import Mathlib.Algebra.GroupWithZero.Nat
import Mathlib.Data.List.Basic
import Mathlib.Data.List.Induction
import Whitelist.Rule.Group

/-!
# Gathering groups by scope

Both the stores and the console gather groups in the same way: one after the other, each is counted
into the group of its scope, or put at the end where there is none yet. This file says what a list
so gathered has to do with the list that it was made of.

## What is here

* `RuleGroup.scopes`, `RuleGroup.countOf`, `RuleGroup.total` — the scopes of groups, the count of a
  scope, and all counts together. `RuleGroup.CountsFit` says that no scope counts more than a word
  can hold.
* `gather` — the groups of a list gathered. Its scopes are those of the list (`mem_scopes_gather`),
  each once (`nodup_scopes_gather`), with the same counts (`count_of_mem_gather`, `total_gather`).
* `gather_of_nodup` — where no scope occurs twice, nothing is merged.
* `filter_gather` — the groups of some scopes may be picked before they are gathered, or after. So a
  gathered group has the label of the first one of its scope (`first_of_mem_gather`).
* `pairwise_idxOf_gather` — scopes are gathered in the order in which they are first met.
* `Relabels`, `gather_map` — groups may be relabelled before they are gathered, or after.
* `globalFirst_perm` — bringing the global scope to the front moves groups and does nothing else;
  where it is there already, nothing moves (`globalFirst_eq_self`), and the others keep their order
  (`pairwise_scopes_globalFirst`).

`addToGroup` goes down the list until it finds the scope, and puts a fresh group at the end if it
does not, so a gathered list is built from the left. The lemmas about `gather` are therefore by
induction from the right (`List.reverseRecOn`), with one lemma about `addToGroup` in the step: for
the scopes `scopes_addToGroup`, for a count `countOf_addToGroup`, for all of them
`total_addToGroup`.

Counts are added as words, and a release build lets them wrap. Statements on words
(`countOf_gather`) therefore hold always, those on numbers (`total_gather`) where `CountsFit` says
that nothing wraps.
-/

set_option autoImplicit false
namespace Whitelist

namespace RuleGroup

/-- The scopes of groups, in order. -/
def scopes (groups : List RuleGroup) : List Scope := groups.map RuleGroup.scope

/-- The counts of all groups of a scope, added up in words. -/
def countOf (scope : Scope) : List RuleGroup → UInt64
  | [] => 0
  | g :: rest => if g.scope = scope then g.count + countOf scope rest else countOf scope rest

/-- All counts added up as numbers. -/
def total (groups : List RuleGroup) : Nat := (groups.map fun g => g.count.toNat).sum

variable {scope : Scope} {groups : List RuleGroup} {g : RuleGroup}

theorem mem_scopes (h : g ∈ groups) : g.scope ∈ scopes groups := List.mem_map_of_mem h

/-- Counts of a scope add up over lists. -/
theorem countOf_append (scope : Scope) (l m : List RuleGroup) :
    countOf scope (l ++ m) = countOf scope l + countOf scope m := by
  induction l with
  | nil => simp [countOf]
  | cons d rest ih =>
    rw [List.cons_append, countOf, countOf, ih]
    split
    · rw [UInt64.add_assoc]
    · rfl

/-- A scope without a group counts nothing. -/
theorem countOf_eq_zero (h : scope ∉ scopes groups) : countOf scope groups = 0 := by
  induction groups with
  | nil => rfl
  | cons d rest ih =>
    rw [scopes, List.map_cons, List.mem_cons, not_or] at h
    rw [countOf, if_neg (Ne.symm h.1)]
    exact ih h.2

/-- Where no scope occurs twice, the count of a scope is that of its group. -/
theorem countOf_scope (hnodup : (scopes groups).Nodup) (h : g ∈ groups) :
    countOf g.scope groups = g.count := by
  induction groups with
  | nil => cases h
  | cons d rest ih =>
    obtain ⟨hd, hrest⟩ := List.nodup_cons.mp hnodup
    rcases List.mem_cons.mp h with rfl | h
    · rw [countOf, if_pos rfl, countOf_eq_zero hd, UInt64.add_zero]
    · have hne : d.scope ≠ g.scope := fun he => hd (he ▸ mem_scopes h)
      rw [countOf, if_neg hne]
      exact ih hrest h

/-- The count of a scope among groups of one record each. -/
theorem countOf_of_ones (hone : ∀ g ∈ groups, g.count = 1) :
    countOf scope groups = .ofNat (groups.countP fun g => g.scope = scope) := by
  induction groups with
  | nil => rfl
  | cons d rest ih =>
    have hrest := ih fun g hg => hone g (List.mem_cons_of_mem d hg)
    rw [countOf, List.countP_cons, hrest, hone d List.mem_cons_self]
    by_cases hd : d.scope = scope
    · rw [if_pos hd, if_pos (decide_eq_true hd), UInt64.ofNat_add, UInt64.add_comm]
      rfl
    · rw [if_neg hd, if_neg (by simpa using hd), Nat.add_zero]

/-- So do all counts. -/
theorem total_append (l m : List RuleGroup) : total (l ++ m) = total l + total m := by
  rw [total, List.map_append, List.sum_append, total, total]

/-- The counts of lists one after the other. -/
theorem total_flatMap {α : Type} (f : α → List RuleGroup) (l : List α) :
    total (l.flatMap f) = (l.map fun a => total (f a)).sum := by
  induction l with
  | nil => rfl
  | cons a rest ih => rw [List.flatMap_cons, total_append, ih, List.map_cons, List.sum_cons]

/-- The order of groups does not matter for their counts. -/
theorem total_perm {l m : List RuleGroup} (h : l.Perm m) : total l = total m :=
  (h.map _).sum_nat

theorem total_filter_le (p : RuleGroup → Bool) (groups : List RuleGroup) :
    total (groups.filter p) ≤ total groups := by
  have hsplit := total_perm (List.filter_append_perm p groups)
  rw [total_append] at hsplit
  omega

/-- The counts of a scope added up in words are their sum, where that is a word. -/
theorem toNat_countOf (hsmall : total (groups.filter fun g => g.scope = scope) < 2 ^ 64) :
    (countOf scope groups).toNat = total (groups.filter fun g => g.scope = scope) := by
  induction groups with
  | nil => rfl
  | cons d rest ih =>
    rw [countOf]
    by_cases hd : d.scope = scope
    · have hcons : total ((d :: rest).filter fun g => g.scope = scope)
          = d.count.toNat + total (rest.filter fun g => g.scope = scope) := by
        simp [hd, total]
      rw [hcons] at hsmall ⊢
      rw [if_pos hd, UInt64.toNat_add, ih (by omega)]
      exact Nat.mod_eq_of_lt hsmall
    · have hcons : (d :: rest).filter (fun g => g.scope = scope)
          = rest.filter fun g => g.scope = scope := by simp [hd]
      rw [hcons] at hsmall ⊢
      rw [if_neg hd, ih hsmall]

/-- The counts of each scope add up to a word. -/
def CountsFit (groups : List RuleGroup) : Prop :=
  ∀ scope, total (groups.filter fun g => g.scope = scope) < 2 ^ 64

/-- It is enough that all counts together are a word. -/
theorem countsFit_of_total (h : total groups < 2 ^ 64) : CountsFit groups := fun scope =>
  Nat.lt_of_le_of_lt (total_filter_le (fun g => g.scope = scope) groups) h

/-- Where the counts of a list fit, those of its first groups do. -/
theorem CountsFit.of_append {l m : List RuleGroup} (h : CountsFit (l ++ m)) : CountsFit l := by
  intro scope
  have hscope := h scope
  rw [List.filter_append, total_append] at hscope
  omega

end RuleGroup

open RuleGroup

variable {scope : Scope} {group fresh : RuleGroup} {groups : List RuleGroup}

/-! ## One more group

A group of a scope that is there already adds its count, and nothing else of it is kept. A group of
a new scope comes in as `fresh`, which may be the group in another form. -/

/-- No scope comes twice, and a new one comes last. -/
theorem scopes_addToGroup (hscope : fresh.scope = group.scope) (groups : List RuleGroup) :
    scopes (addToGroup group fresh groups)
      = if group.scope ∈ scopes groups then scopes groups else scopes groups ++ [group.scope] := by
  induction groups with
  | nil => simp [addToGroup, scopes, hscope]
  | cons d rest ih =>
    rw [addToGroup]
    by_cases hd : d.scope = group.scope
    · have hmem : group.scope ∈ scopes (d :: rest) := by simp [scopes, hd]
      rw [if_pos hd, if_pos hmem]
      rfl
    · have hmem : group.scope ∈ scopes (d :: rest) ↔ group.scope ∈ scopes rest := by
        simp [scopes, Ne.symm hd]
      rw [if_neg hd, scopes, List.map_cons, ← scopes, ih]
      simp only [hmem]
      split <;> rfl

/-- The count of its scope goes up by that of the group, whichever of the two cases it is. -/
theorem countOf_addToGroup (hscope : fresh.scope = group.scope) (hcount : fresh.count = group.count)
    (scope : Scope) (groups : List RuleGroup) :
    countOf scope (addToGroup group fresh groups)
      = countOf scope groups + if group.scope = scope then group.count else 0 := by
  induction groups with
  | nil =>
    rw [addToGroup, countOf, countOf, hscope, hcount, UInt64.zero_add]
    split
    · exact UInt64.add_zero _
    · rfl
  | cons d rest ih =>
    rw [addToGroup]
    by_cases hd : d.scope = group.scope
    · rw [if_pos hd, countOf, countOf, ← hd]
      have hsame : RuleGroup.scope { d with count := d.count + group.count } = d.scope := rfl
      rw [hsame]
      split
      · rw [UInt64.add_assoc, UInt64.add_assoc, UInt64.add_comm group.count]
      · rw [UInt64.add_zero]
    · rw [if_neg hd, countOf, countOf, ih]
      split
      · rw [UInt64.add_assoc]
      · rfl

/-- And so do all counts together, unless the one sum that is formed does not fit. -/
theorem total_addToGroup (hcount : fresh.count = group.count)
    (hsmall : ∀ d ∈ groups, d.scope = group.scope → d.count.toNat + group.count.toNat < 2 ^ 64) :
    total (addToGroup group fresh groups) = total groups + group.count.toNat := by
  induction groups with
  | nil => simp [addToGroup, total, hcount]
  | cons d rest ih =>
    have hcons : total (d :: rest) = d.count.toNat + total rest := rfl
    rw [addToGroup]
    split
    · rename_i hd
      have hadd : (d.count + group.count).toNat = d.count.toNat + group.count.toNat := by
        rw [UInt64.toNat_add]
        exact Nat.mod_eq_of_lt (hsmall d List.mem_cons_self hd)
      show (d.count + group.count).toNat + total rest = _
      rw [hadd, hcons]
      omega
    · show d.count.toNat + total (addToGroup group fresh rest) = _
      rw [ih fun e he => hsmall e (List.mem_cons_of_mem d he), hcons]
      omega

/-- A group of a new scope is put at the end. -/
theorem addToGroup_of_notMem (h : group.scope ∉ scopes groups) :
    addToGroup group fresh groups = groups ++ [fresh] := by
  induction groups with
  | nil => rfl
  | cons d rest ih =>
    rw [scopes, List.map_cons, List.mem_cons, not_or] at h
    rw [addToGroup, if_neg (Ne.symm h.1), ih h.2]
    rfl

/-! ## All groups of a list

The store gathers its groups as they are, the console gathers them in their canonical form. The
lemmas ask of `fresh` only what both have in common, that it leaves the scope alone, and for counts
that it leaves those alone. -/

/-- The groups of a list gathered by scope. Where the first of a scope comes, it is put into the
form in which the scope is to be shown. -/
def gather (fresh : RuleGroup → RuleGroup) (groups : List RuleGroup) : List RuleGroup :=
  groups.foldl (fun merged group => addToGroup group (fresh group) merged) []

section Gather

variable {fresh : RuleGroup → RuleGroup}

theorem gather_append_singleton (groups : List RuleGroup) (group : RuleGroup) :
    gather fresh (groups ++ [group]) = addToGroup group (fresh group) (gather fresh groups) :=
  List.foldl_append

/-- Where no scope occurs twice, nothing is merged. -/
theorem gather_of_nodup (hnodup : (scopes groups).Nodup)
    (hscope : ∀ group, (fresh group).scope = group.scope) :
    gather fresh groups = groups.map fresh := by
  induction groups using List.reverseRecOn with
  | nil => rfl
  | append_singleton rest group ih =>
    rw [scopes, List.map_append, List.nodup_append] at hnodup
    have hrest := ih hnodup.1
    have hscopes : scopes (gather fresh rest) = scopes rest := by
      rw [hrest, scopes, List.map_map]
      exact List.map_congr_left fun group _ => hscope group
    have hnew : group.scope ∉ scopes (gather fresh rest) := by
      rw [hscopes]
      intro hmem
      exact hnodup.2.2 _ hmem _ List.mem_cons_self rfl
    rw [gather_append_singleton, addToGroup_of_notMem hnew, hrest, List.map_append]
    rfl

variable (hscope : ∀ group, (fresh group).scope = group.scope)
include hscope

/-- No scope gets lost in gathering. -/
theorem mem_scopes_gather : scope ∈ scopes (gather fresh groups) ↔ scope ∈ scopes groups := by
  induction groups using List.reverseRecOn with
  | nil => rfl
  | append_singleton rest group ih =>
    have hsnoc : scopes (rest ++ [group]) = scopes rest ++ [group.scope] := List.map_append
    rw [gather_append_singleton, scopes_addToGroup (hscope group), hsnoc, List.mem_append, ← ih,
      List.mem_singleton]
    split
    · rename_i hmem
      exact ⟨.inl, fun h => h.elim id fun he => he ▸ hmem⟩
    · rw [List.mem_append, List.mem_singleton]

/-- No scope has two groups afterwards. -/
theorem nodup_scopes_gather (groups : List RuleGroup) : (scopes (gather fresh groups)).Nodup := by
  induction groups using List.reverseRecOn with
  | nil => exact .nil
  | append_singleton rest group ih =>
    rw [gather_append_singleton, scopes_addToGroup (hscope group)]
    split
    · exact ih
    · rename_i hmem
      exact List.nodup_append.mpr ⟨ih, List.pairwise_singleton .., fun a ha b hb => by
        rw [List.mem_singleton.mp hb]
        exact fun he => hmem (he ▸ ha)⟩

theorem length_gather_le (groups : List RuleGroup) :
    (gather fresh groups).length ≤ groups.length := by
  induction groups using List.reverseRecOn with
  | nil => exact Nat.le_refl _
  | append_singleton rest group ih =>
    have hlength (l : List RuleGroup) : l.length = (scopes l).length := (List.length_map _).symm
    rw [gather_append_singleton, hlength, scopes_addToGroup (hscope group), List.length_append]
    rw [hlength] at ih
    split
    · exact Nat.le_add_right_of_le ih
    · rw [List.length_append]
      exact Nat.add_le_add_right ih 1

/-- Scopes are gathered in the order in which they are first met. -/
theorem pairwise_idxOf_gather (groups : List RuleGroup) : (scopes (gather fresh groups)).Pairwise
    fun a b => (scopes groups).idxOf a < (scopes groups).idxOf b := by
  induction groups using List.reverseRecOn with
  | nil => exact .nil
  | append_singleton rest group ih =>
    have hsnoc : scopes (rest ++ [group]) = scopes rest ++ [group.scope] := List.map_append
    have hmet {a : Scope} (ha : a ∈ scopes (gather fresh rest)) :
        (scopes rest ++ [group.scope]).idxOf a = (scopes rest).idxOf a :=
      List.idxOf_append_of_mem ((mem_scopes_gather hscope).mp ha)
    have hbefore : (scopes (gather fresh rest)).Pairwise fun a b =>
        (scopes rest ++ [group.scope]).idxOf a < (scopes rest ++ [group.scope]).idxOf b := by
      refine ih.imp_of_mem ?_
      intro a b ha hb hab
      rwa [hmet ha, hmet hb]
    rw [gather_append_singleton, scopes_addToGroup (hscope group), hsnoc]
    split
    · exact hbefore
    · -- A scope that is met last comes last.
      rename_i hnew
      rw [mem_scopes_gather hscope] at hnew
      refine List.pairwise_append.mpr ⟨hbefore, List.pairwise_singleton .., fun a ha b hb => ?_⟩
      rw [List.mem_singleton.mp hb, hmet ha, List.idxOf_append_of_notMem hnew]
      have := List.idxOf_lt_length_of_mem ((mem_scopes_gather hscope).mp ha)
      omega

variable (hcount : ∀ group, (fresh group).count = group.count)
include hcount

theorem countOf_gather (scope : Scope) (groups : List RuleGroup) :
    countOf scope (gather fresh groups) = countOf scope groups := by
  induction groups using List.reverseRecOn with
  | nil => rfl
  | append_singleton rest group ih =>
    rw [gather_append_singleton, countOf_addToGroup (hscope group) (hcount group), ih,
      countOf_append]
    rw [countOf, countOf, UInt64.add_zero]

/-- A gathered group counts all groups of its scope. -/
theorem count_of_mem_gather (h : group ∈ gather fresh groups) :
    group.count = countOf group.scope groups := by
  rw [← countOf_scope (nodup_scopes_gather hscope groups) h, countOf_gather hscope hcount]

/-- As long as a word has room for the sum of each scope, no count gets lost. -/
theorem total_gather (hfit : CountsFit groups) : total (gather fresh groups) = total groups := by
  induction groups using List.reverseRecOn with
  | nil => rfl
  | append_singleton rest group ih =>
    have hsmall (d : RuleGroup) (hd : d ∈ gather fresh rest) (hsame : d.scope = group.scope) :
        d.count.toNat + group.count.toNat < 2 ^ 64 := by
      -- The group has counted all of its scope so far, and there is one more of that scope.
      have hscopefit := hfit group.scope
      rw [List.filter_append, total_append] at hscopefit
      have hone : total ([group].filter fun g => g.scope = group.scope) = group.count.toNat := by
        simp [total]
      rw [count_of_mem_gather hscope hcount hd, hsame, toNat_countOf (by omega)]
      omega
    rw [gather_append_singleton, total_addToGroup (hcount group) hsmall, ih hfit.of_append,
      total_append]
    rfl

end Gather

/-! ## Some of the scopes -/

section Filter

variable {fresh : RuleGroup → RuleGroup} (p : Scope → Bool)

/-- A group of a scope that is not picked leaves no trace among those that are. -/
theorem filter_addToGroup {group fresh : RuleGroup} (hscope : fresh.scope = group.scope)
    (groups : List RuleGroup) :
    (addToGroup group fresh groups).filter (fun g => p g.scope)
      = if p group.scope then addToGroup group fresh (groups.filter fun g => p g.scope)
        else groups.filter fun g => p g.scope := by
  induction groups with
  | nil => by_cases h : p group.scope <;> simp [addToGroup, hscope, h]
  | cons d rest ih =>
    by_cases hd : d.scope = group.scope
    · have hsame : RuleGroup.scope { d with count := d.count + group.count } = d.scope := rfl
      by_cases h : p group.scope <;> simp [addToGroup, hd, hsame, h]
    · by_cases hpicked : p d.scope
      · simp only [addToGroup, if_neg hd, List.filter_cons, hpicked, if_true, ih]
        split <;> rfl
      · simp [addToGroup, hd, hpicked, ih]

/-- **Groups of some scopes may be picked before they are gathered, or after.** -/
theorem filter_gather (hscope : ∀ group, (fresh group).scope = group.scope)
    (groups : List RuleGroup) :
    (gather fresh groups).filter (fun g => p g.scope)
      = gather fresh (groups.filter fun g => p g.scope) := by
  induction groups using List.reverseRecOn with
  | nil => rfl
  | append_singleton rest group ih =>
    rw [gather_append_singleton, filter_addToGroup p (hscope group), ih, List.filter_append]
    by_cases hpicked : p group.scope
    · simp [hpicked, gather_append_singleton]
    · simp [hpicked]

/-- Where all groups are of one scope, they are gathered into the first of them. -/
theorem foldl_addToGroup_singleton {first : RuleGroup} {rest : List RuleGroup}
    (hsame : ∀ g ∈ rest, g.scope = first.scope) :
    ∃ count, rest.foldl (fun merged g => addToGroup g (fresh g) merged) [first]
      = [{ first with count := count }] := by
  induction rest generalizing first with
  | nil => exact ⟨first.count, rfl⟩
  | cons g rest ih =>
    obtain ⟨hg, hrest⟩ := List.forall_mem_cons.mp hsame
    obtain ⟨count, hcount⟩ := @ih { first with count := first.count + g.count } hrest
    refine ⟨count, ?_⟩
    rw [List.foldl_cons, addToGroup, if_pos hg.symm, hcount]

/-- A gathered group is the first of its scope but for the count. -/
theorem first_of_mem_gather (hscope : ∀ group, (fresh group).scope = group.scope)
    {groups : List RuleGroup} {group : RuleGroup} (h : group ∈ gather fresh groups) :
    ∃ first, groups.find? (fun g => g.scope = group.scope) = some first
      ∧ group = { fresh first with count := group.count } := by
  -- The groups of this scope may be picked first, and there is at least one.
  have hpicked : group ∈ gather fresh (groups.filter fun g => g.scope = group.scope) := by
    rw [← filter_gather (fun scope => decide (scope = group.scope)) hscope, List.mem_filter]
    exact ⟨h, decide_eq_true rfl⟩
  rw [← List.head?_filter]
  cases hgroups : groups.filter fun g => g.scope = group.scope with
  | nil =>
    rw [hgroups] at hpicked
    cases hpicked
  | cons first rest =>
    have hall (g : RuleGroup) (hg : g ∈ first :: rest) : g.scope = group.scope := by
      rw [← hgroups] at hg
      exact of_decide_eq_true (List.mem_filter.mp hg).2
    have hsame (g : RuleGroup) (hg : g ∈ rest) : g.scope = (fresh first).scope := by
      rw [hscope, hall g (List.mem_cons_of_mem _ hg), hall first List.mem_cons_self]
    have hgather : ∃ count, gather fresh (first :: rest) = [{ fresh first with count := count }] :=
      foldl_addToGroup_singleton hsame
    obtain ⟨count, hgather⟩ := hgather
    rw [hgroups, hgather, List.mem_singleton] at hpicked
    exact ⟨first, rfl, by rw [hpicked]⟩

theorem filter_globalFirst (p : RuleGroup → Bool) (groups : List RuleGroup) :
    (globalFirst groups).filter p = globalFirst (groups.filter p) := by
  simp only [globalFirst, List.filter_append, List.filter_filter, Bool.and_comm]

end Filter

/-! ## Other labels -/

/-- A function changes neither the scope of a group nor its count, and does not look at the count
either. -/
structure Relabels (f : RuleGroup → RuleGroup) : Prop where
  scope : ∀ g, (f g).scope = g.scope
  count : ∀ g, (f g).count = g.count
  withCount : ∀ g n, f { g with count := n } = { f g with count := n }

namespace Relabels

variable {f k : RuleGroup → RuleGroup}

protected theorem id : Relabels id := ⟨fun _ => rfl, fun _ => rfl, fun _ _ => rfl⟩

theorem addToGroup_map (hf : Relabels f) (hk : Relabels k) (group fresh : RuleGroup)
    (groups : List RuleGroup) :
    addToGroup (f group) (k fresh) (groups.map k) = (addToGroup group fresh groups).map k := by
  induction groups with
  | nil => rfl
  | cons d rest ih =>
    have hcount : { k d with count := (k d).count + (f group).count }
        = k { d with count := d.count + group.count } := by
      rw [hk.count, hf.count]
      exact (hk.withCount d _).symm
    rw [List.map_cons, addToGroup, addToGroup, hk.scope, hf.scope, hcount, ih]
    split <;> rfl

/-- The groups may be relabelled, and each new one may be given the label that it is to have in the
end: it is as if all had been relabelled afterwards. -/
theorem gather_map (hf : Relabels f) (hk : Relabels k) {fresh fresh' : RuleGroup → RuleGroup}
    (hfresh : ∀ g, fresh' (f g) = k (fresh g)) (groups : List RuleGroup) :
    gather fresh' (groups.map f) = (gather fresh groups).map k := by
  induction groups using List.reverseRecOn with
  | nil => rfl
  | append_singleton rest group ih =>
    have hsnoc : (rest ++ [group]).map f = rest.map f ++ [f group] := List.map_append
    rw [hsnoc, gather_append_singleton, gather_append_singleton, ih, hfresh,
      addToGroup_map hf hk]

theorem globalFirst_map (hf : Relabels f) (groups : List RuleGroup) :
    globalFirst (groups.map f) = (globalFirst groups).map f := by
  rw [globalFirst, globalFirst, List.map_append, List.filter_map, List.filter_map]
  simp only [Function.comp_def, hf.scope]

end Relabels

/-! ## The global scope in front

`globalFirst` is a stable partition. That it is idempotent, and leaves a list alone that is in order
already, is what makes a second normalization do nothing. -/

theorem globalFirst_perm (groups : List RuleGroup) : (globalFirst groups).Perm groups :=
  List.filter_append_perm (fun g : RuleGroup => g.scope.isGlobal) groups

theorem scopes_globalFirst (groups : List RuleGroup) : scopes (globalFirst groups)
    = (scopes groups).filter Scope.isGlobal ++ (scopes groups).filter fun a => !a.isGlobal := by
  rw [scopes, globalFirst, List.map_append, scopes, List.filter_map, List.filter_map]
  rfl

theorem isGlobal_iff : scope.isGlobal = true ↔ scope = .global := by
  cases scope <;> simp [Scope.isGlobal]

/-- The scopes keep their order, but for the global one. -/
theorem pairwise_scopes_globalFirst {P : Scope → Scope → Prop} (h : (scopes groups).Pairwise P) :
    (scopes (globalFirst groups)).Pairwise fun a b => a = .global ∨ b ≠ .global ∧ P a b := by
  have hglobal (a : Scope) (ha : a ∈ (scopes groups).filter Scope.isGlobal) : a = .global :=
    isGlobal_iff.mp (List.mem_filter.mp ha).2
  have hother (b : Scope) (hb : b ∈ (scopes groups).filter fun scope => !scope.isGlobal) :
      b ≠ .global := by
    rintro rfl
    simp [Scope.isGlobal] at hb
  rw [scopes_globalFirst]
  refine List.pairwise_append.mpr ⟨?_, ?_, fun a ha _ _ => .inl (hglobal a ha)⟩
  · exact List.pairwise_of_forall_mem_list fun a ha _ _ => .inl (hglobal a ha)
  · refine (h.filter _).imp_of_mem ?_
    exact fun _ hb hab => .inr ⟨hother _ hb, hab⟩

/-- Only a group of the global scope stands before one. -/
def GlobalsFirst (groups : List RuleGroup) : Prop :=
  groups.Pairwise fun a b => b.scope.isGlobal = true → a.scope.isGlobal = true

theorem globalsFirst_globalFirst (groups : List RuleGroup) : GlobalsFirst (globalFirst groups) := by
  have hglobal : ∀ a ∈ groups.filter (·.scope.isGlobal), a.scope.isGlobal = true := fun _ ha =>
    (List.mem_filter.mp ha).2
  have hother : ∀ b ∈ groups.filter (fun g => !g.scope.isGlobal), ¬ b.scope.isGlobal = true :=
    fun _ hb => by simpa using (List.mem_filter.mp hb).2
  refine List.pairwise_append.mpr ⟨?_, ?_, fun a ha _ _ _ => hglobal a ha⟩
  · exact List.pairwise_of_forall_mem_list fun a ha _ _ _ => hglobal a ha
  · exact List.pairwise_of_forall_mem_list fun _ _ b hb h => absurd h (hother b hb)

/-- Where the global scope is in front already, nothing moves. -/
theorem globalFirst_eq_self (h : GlobalsFirst groups) : globalFirst groups = groups := by
  induction groups with
  | nil => rfl
  | cons g rest ih =>
    obtain ⟨hg, hrest⟩ := List.pairwise_cons.mp h
    by_cases hglobal : g.scope.isGlobal = true
    · have hcons : globalFirst (g :: rest) = g :: globalFirst rest := by
        simp only [globalFirst, List.filter_cons, hglobal, Bool.not_true, if_true,
          Bool.false_eq_true, if_false, List.cons_append]
      rw [hcons, ih hrest]
    · have hnone : ∀ a ∈ g :: rest, ¬ a.scope.isGlobal = true :=
        List.forall_mem_cons.mpr ⟨hglobal, fun a ha h => hglobal (hg a ha h)⟩
      rw [globalFirst, List.filter_eq_nil_iff.mpr hnone, List.nil_append]
      exact List.filter_eq_self.mpr fun a ha => by simpa using hnone a ha

end Whitelist
