import Mathlib.Data.List.Dedup
import Whitelist.Proofs.Store.Browse

/-!
# The group listing of the in-process store

The store goes through the records from the newest to the oldest, counts each into the row of its
scope, and then brings the row of the global scope to the front. So there is one row for each scope
that is met, whatever codes it is met under, and the order of the rows is that of the newest
records. The pages cut this list into pieces.

## What is here

* `NewerThan`, `GroupedBefore` — the order of the rows.
* `pairwise_scopes_gather`, `pairwise_scopes_wanted` — the groups of the store are in that order.
* `Summary`, `summary_groups` — what the rows say of the records.
* `groups_over_pages` — the pages of the listing, one after the other, are such rows.

Counts and scopes are those of `Proofs.Store.Browse`. What is added here is the order of the rows,
which `gather` fixes by where scopes are met first. Since the records are gone through from the
newest on, being met first is having the newest record.
-/

set_option autoImplicit false
namespace Whitelist
namespace MemoryStore

open RuleGroup

variable {s : MemoryStore} {caller : Caller} {query : GroupQuery} {scope : Scope}

/-! ## The order of the rows -/

/-- One scope has a record that is newer than all of another scope. -/
def NewerThan (l : List (Int64 × StoredRule)) (a b : Scope) : Prop :=
  ∃ e ∈ l, e.2.scope = a ∧ ∀ e' ∈ l, e'.2.scope = b → e'.1 < e.1

/-- One scope comes before another: it is the global one, or the other is not, and it has a record
that is newer than all of the other. -/
def GroupedBefore (l : List (Int64 × StoredRule)) (a b : Scope) : Prop :=
  a = .global ∨ b ≠ .global ∧ NewerThan l a b

/-- A record that is older than all others takes from none of them that it is the newest. -/
theorem newerThan_append {rest : List (Int64 × StoredRule)} {d e : Int64 × StoredRule} {b : Scope}
    (hd : d ∈ rest) (hnewer : ∀ a ∈ rest, e.1 < a.1)
    (hb : ∀ e' ∈ rest, e'.2.scope = b → e'.1 < d.1) : NewerThan (rest ++ [e]) d.2.scope b := by
  refine ⟨d, List.mem_append_left _ hd, rfl, fun e' he' hscope => ?_⟩
  rcases List.mem_append.mp he' with he' | he'
  · exact hb e' he' hscope
  · rw [List.mem_singleton.mp he']
    exact hnewer d hd

/-- Going from newer records to older ones, groups are made in the order of their newest
records. -/
theorem pairwise_scopes_gather (s : MemoryStore) {l : List (Int64 × StoredRule)}
    (hl : l.Pairwise fun a b => b.1 < a.1) :
    (scopes (gather (fun g => g) (s.groupsOf l))).Pairwise (NewerThan l) := by
  induction l using List.reverseRecOn with
  | nil => exact .nil
  | append_singleton rest e ih =>
    obtain ⟨hrest, -, hall⟩ := List.pairwise_append.mp hl
    have hnewer (a : Int64 × StoredRule) (ha : a ∈ rest) : e.1 < a.1 :=
      hall a ha e List.mem_cons_self
    have hbefore : (scopes (gather (fun g => g) (s.groupsOf rest))).Pairwise
        (NewerThan (rest ++ [e])) := by
      refine (ih hrest).imp ?_
      rintro _ b ⟨d, hd, rfl, hb⟩
      exact newerThan_append hd hnewer hb
    have hsnoc : s.groupsOf (rest ++ [e]) = s.groupsOf rest ++ [s.groupOf e.2] := List.map_append
    rw [hsnoc, gather_append_singleton, scopes_addToGroup rfl]
    split
    · exact hbefore
    · -- A new scope at the end: no record before has it, so all others have newer ones.
      rename_i hnew
      refine List.pairwise_append.mpr ⟨hbefore, List.pairwise_singleton .., fun a ha b hb => ?_⟩
      obtain ⟨d, hd, rfl⟩ := (mem_scopes_gather_groupsOf s rest).mp ha
      refine newerThan_append hd hnewer fun e' he' hscope => absurd ?_ hnew
      rw [← List.mem_singleton.mp hb]
      exact (mem_scopes_gather_groupsOf s rest).mpr ⟨e', he', hscope⟩

/-- The records that are wanted come in the order of all records. -/
theorem wanted_descending (s : MemoryStore) (caller : Caller) (query : GroupQuery) :
    (s.wanted caller query).Pairwise fun a b => b.1 < a.1 :=
  (visible_descending s caller).filter _

/-- The groups of the store stand in the order of the newest records, behind the global scope. -/
theorem pairwise_scopes_wanted (s : MemoryStore) (caller : Caller) (query : GroupQuery) :
    (scopes (s.groups caller query)).Pairwise (GroupedBefore (s.wanted caller query)) := by
  rw [groups_eq]
  exact pairwise_scopes_globalFirst (pairwise_scopes_gather s (wanted_descending s caller query))

/-! ## What the rows say -/

/-- The name of a group is that of its scope. -/
theorem displayName_of_mem_groups {group : RuleGroup} (h : group ∈ s.groups caller query) :
    group.displayName = (s.ruleName? group.scope.code).getD "" := by
  rw [groups_eq, (globalFirst_perm _).mem_iff] at h
  obtain ⟨d, hd, hgroup⟩ := first_of_mem_gather (fun _ => rfl) h
  obtain ⟨e, -, rfl⟩ := List.mem_map.mp (List.mem_of_find?_eq_some hd)
  rw [hgroup]
  rfl

/-- Rows that sum records up by scope. -/
structure Summary (s : MemoryStore) (l : List (Int64 × StoredRule)) (rows : List RuleGroup) :
    Prop where
  /-- There is one row for each scope. -/
  scopes_perm : (scopes rows).Perm (l.map (·.2.scope)).dedup
  /-- A row counts the records of its scope. -/
  count : ∀ row ∈ rows, row.count.toNat = l.countP fun e => e.2.scope = row.scope
  /-- All rows together count each record once. -/
  total : total rows = l.length
  /-- A row has the name that is registered for the canonical code of its scope. -/
  displayName : ∀ row ∈ rows, row.displayName = (s.ruleName? row.scope.code).getD ""
  /-- The global scope comes first, the others follow by their newest records. -/
  order : (scopes rows).Pairwise (GroupedBefore l)

/-- The groups of the store sum up the records that are wanted. -/
theorem summary_groups (hroom : (s.visible caller).length < 2 ^ 64) (query : GroupQuery) :
    s.Summary (s.wanted caller query) (s.groups caller query) where
  scopes_perm := by
    have hnodup := nodup_scopes_groups s caller query
    refine (List.perm_ext_iff_of_nodup hnodup (List.nodup_dedup _)).mpr fun scope => ?_
    rw [mem_scopes_groups_iff, List.mem_dedup, List.mem_map]
  count := by
    intro row hrow
    have hcount := count_eq_countP_wanted hrow
    have hle : (s.wanted caller query).countP (fun e => e.2.scope = row.scope)
        ≤ (s.visible caller).length :=
      Nat.le_trans (List.countP_le_length) (List.length_filter_le ..)
    rw [hcount, UInt64.toNat_ofNat_of_lt' (Nat.lt_of_le_of_lt hle hroom)]
  total := total_groups hroom
  displayName := fun _ hrow => displayName_of_mem_groups hrow
  order := pairwise_scopes_wanted s caller query

/-- The row of the global scope is the first one. -/
theorem head?_groups {row : RuleGroup} (hrow : row ∈ s.groups caller query)
    (hglobal : row.scope = .global) : (s.groups caller query).head? = some row := by
  have horder := globalsFirst_groups s caller query
  have hnodup := nodup_scopes_groups s caller query
  cases hgroups : s.groups caller query with
  | nil => simp [hgroups] at hrow
  | cons first rest =>
    rw [hgroups] at hrow hnodup horder
    rcases List.mem_cons.mp hrow with rfl | hrest
    · rfl
    · -- A row behind the first one would have to share the global scope with it.
      have hfirst := (List.pairwise_cons.mp horder).1 row hrest (isGlobal_iff.mpr hglobal)
      have hsame : first.scope = row.scope := by rw [isGlobal_iff.mp hfirst, hglobal]
      exact absurd (hsame ▸ mem_scopes hrest) (List.nodup_cons.mp hnodup).1

/-! ## The pages -/

/-- **The group listing sums up what the caller sees and the query selects.** Whichever page is
asked for, the store answers and stays as it is, and the total is the number of distinct scopes. The
pages that are available, one after the other, are the rows of a summary of the records: one row for
each scope with its count and its name, the global scope first and the others by their newest
records. If the global scope is among them, its row is the first one on page 1.

Counts are words, so a caller who sees a record under each of the `2 ^ 64` ids is left out. -/
theorem groups_over_pages (s : MemoryStore) (caller : Caller) (query : GroupQuery)
    (hroom : (s.visible caller).length < 2 ^ 64) :
    ∃ (rows : List RuleGroup) (page : UInt64 → UInt64 → Page RuleGroup),
      s.Summary (s.wanted caller query) rows
      ∧ (∀ number size,
        ((session caller).listGroups query number size).on s = (.ok (page number size), s)
          ∧ (page number size).totalCount.toNat
            = ((s.wanted caller query).map (·.2.scope)).dedup.length)
      ∧ (∀ number size, size ≠ 0 →
        (List.range (page number size).pagesAvailable.toNat).flatMap
          (fun n => (page (.ofNat (n + 1)) size).items) = rows)
      ∧ ∀ row ∈ rows, row.scope = .global → ∀ size, (page 1 size).items.head? = some row := by
  have hlength : (s.groups caller query).length < 2 ^ 64 :=
    Nat.lt_of_le_of_lt (length_groups_le s caller query) hroom
  have hsummary := summary_groups hroom query
  refine ⟨s.groups caller query, paginate (s.groups caller query), hsummary, ?_, ?_, ?_⟩
  · intro number size
    have hscopes := hsummary.scopes_perm.length_eq
    rw [scopes, List.length_map] at hscopes
    refine ⟨listGroups_on .., ?_⟩
    rw [paginate_totalCount, UInt64.toNat_ofNat_of_lt' hlength, hscopes]
  · intro number size hsize
    rw [paginate_pagesAvailable]
    exact flatMap_range_pages hlength hsize
  · intro row hrow hglobal size
    rw [head?_paginate_one hlength, head?_groups hrow hglobal]

/-- Two of the three records are of the global scope, under its two codes: they make the first row
of page 1, although the third record is the newest. -/
theorem groups_over_pages_mixed : (mixed.store.visible bob).length < 2 ^ 64
    ∧ ∃ row : RuleGroup, row.scope = .global ∧ row.count.toNat = 2 ∧ ∀ size, ∃ page,
      ((session bob).listGroups {} 1 size).on mixed.store = (.ok page, mixed.store)
        ∧ page.totalCount.toNat = 2 ∧ page.items.head? = some row := by
  have hroom : (mixed.store.visible bob).length < 2 ^ 64 := by decide
  obtain ⟨rows, page, hsummary, hpage, -, hfirst⟩ := groups_over_pages mixed.store bob {} hroom
  have hmem : Scope.global ∈ scopes rows := by
    rw [hsummary.scopes_perm.mem_iff]
    decide
  obtain ⟨row, hrow, hglobal⟩ := List.mem_map.mp hmem
  refine ⟨hroom, row, hglobal, ?_, fun size => ⟨page 1 size, (hpage 1 size).1, ?_, ?_⟩⟩
  · rw [hsummary.count row hrow, hglobal]
    decide
  · rw [(hpage 1 size).2]
    decide
  · exact hfirst row hrow hglobal size

end MemoryStore
end Whitelist
