import Whitelist.Proofs.Console.Options
import Whitelist.Proofs.Store.Browse

/-!
# A selection of codes

A selection is widened before it goes to the store: the global scope is asked for under both of its
codes, and no code is sent twice. The store then filters the records and groups those that are left,
and the console brings the groups into their canonical form. One could as well leave the records
alone and pick rows in the end. It comes to the same, because whether a record is wanted depends on
its scope only: the records of a group are wanted together, or none of them is.

## What is here

* `selects_scope_code`, `selects_storeCodes` — what a query selects, by scopes.
* `groups_eq_filter` — the groups that a query wants, picked from all groups of the store.
* `items_groupPage_zero` — all rows of the upper level.
* `rows_of_selection` — the rows of a selection, picked from all rows.
-/

set_option autoImplicit false
namespace Whitelist
namespace MemoryStore

open RuleGroup Console

variable {s : MemoryStore} {caller : Caller}

/-! ## What is selected -/

/-- A query does not look further than the scope of a code. -/
theorem selects_scope_code (query : GroupQuery) (group : RuleGroup) :
    query.selects group.scope.code = query.selects group.code :=
  selects_congr (Scope.ofCode_code_ofCode group.code)

/-- The codes that a selection is sent as select what the selection does. -/
theorem selects_storeCodes (selected : List String) :
    (GroupQuery.mk (storeCodes selected)).selects = (GroupQuery.mk selected).selects := by
  funext code
  by_cases hnone : selected = []
  · subst hnone
    rfl
  · have hsent : storeCodes selected ≠ [] := fun h => hnone (storeCodes_eq_nil_iff.mp h)
    rw [Bool.eq_iff_iff, ← mem_storeCodes_iff_selects hnone, ← mem_storeCodes_iff_selects hsent,
      mem_storeCodes]
    constructor
    · rintro ⟨sent, hmem, hcode⟩
      obtain ⟨wanted, hwanted, hscope⟩ := mem_storeCodes.mp hmem
      exact mem_storeCodes.mpr ⟨wanted, hwanted, hcode.trans hscope⟩
    · intro hcode
      exact ⟨code, hcode, rfl⟩

/-! ## Groups that are wanted -/

/-- **A query may be asked of the records, or of the groups.** Picking the groups whose codes are
selected is the same as grouping the records whose codes are. -/
theorem groups_eq_filter (s : MemoryStore) (caller : Caller) (query : GroupQuery) :
    s.groups caller query = (s.groups caller {}).filter fun g => query.selects g.code := by
  have hscope : (fun g : RuleGroup => query.selects g.code)
      = fun g => query.selects g.scope.code :=
    funext fun g => (selects_scope_code query g).symm
  have hwanted : s.groupsOf (s.wanted caller query)
      = (s.groupsOf (s.visible caller)).filter fun g => query.selects g.code := by
    rw [groupsOf, groupsOf, List.filter_map]
    rfl
  rw [groups_eq, groups_eq, wanted_all, hwanted, filter_globalFirst, hscope]
  exact congrArg globalFirst
    (filter_gather (fun scope => query.selects scope.code) (fun _ => rfl) _).symm

/-! ## All rows -/

/-- A page of size 0 has all rows of the upper level: the groups of the store in their order, under
canonical codes. -/
theorem items_groupPage_zero (s : MemoryStore) (caller : Caller) (filter : GroupQuery)
    (number : UInt64) : (s.groupPage caller filter number 0).items
      = (s.groups caller ⟨storeCodes filter.codes⟩).map canonical := by
  show normalizeGroups (paginate (s.groups caller _) number 0).items = _
  rw [paginate, if_pos rfl]
  exact normalizeGroups_eq_map (nodup_scopes_groups s caller _) (globalsFirst_groups s caller _)

/-- All rows of a selection are the rows that it selects. -/
theorem items_groupPage_selected (s : MemoryStore) (caller : Caller) (selected : List String)
    (number : UInt64) : (s.groupPage caller ⟨selected⟩ number 0).items
      = (s.groupPage caller {} number 0).items.filter
        fun row => (GroupQuery.mk selected).selects row.code := by
  rw [items_groupPage_zero, items_groupPage_zero, List.filter_map, groups_eq_filter,
    selects_storeCodes]
  refine congrArg (List.map canonical) (List.filter_congr fun g _ => ?_)
  exact (selects_scope_code _ g).symm

/-- **Filtering and grouping may change places.** For every selection the console makes one call to
the store, whose codes have no duplicates, are none only where nothing is selected, and are
otherwise the very codes that the selection selects. Over the in-process store, whoever asks and
whatever it holds, the rows of a selection are those of all rows whose codes are selected, in the
same order and with the same counts and labels. -/
theorem rows_of_selection (selected : List String) :
    (∀ {σ : Type} (store : RuleStore σ) (number size : UInt64) (t : σ) (calls : List StoreCall),
      ((Console.listGroups store.recorded ⟨selected⟩ number size).on (t, calls)).2.2
        = calls ++ [.listGroups ⟨storeCodes selected⟩ number size])
    ∧ (storeCodes selected).Nodup
    ∧ (storeCodes selected = [] ↔ selected = [])
    ∧ (selected ≠ [] →
      ∀ code, code ∈ storeCodes selected ↔ (GroupQuery.mk selected).selects code = true)
    ∧ ∀ (s : MemoryStore) (caller : Caller) (number : UInt64), ∃ page all,
      (Console.listGroups (session caller) ⟨selected⟩ number 0).on s = (.ok page, s)
        ∧ (Console.listGroups (session caller) {} number 0).on s = (.ok all, s)
        ∧ page.items = all.items.filter fun row => (GroupQuery.mk selected).selects row.code := by
  refine ⟨fun store number size t calls => listGroups_calls .., nodup_storeCodes selected,
    storeCodes_eq_nil_iff, mem_storeCodes_iff_selects, fun s caller number => ?_⟩
  exact ⟨_, _, listGroups_session_on .., listGroups_session_on ..,
    items_groupPage_selected s caller selected number⟩

/-- The global scope is selected twice, under both of its codes, and so is a code without records.
Both codes are sent once, and the one row of the scope counts its two records. -/
theorem rows_of_selection_mixed :
    [legacyGlobalCode, "R2", globalCode] ≠ []
      ∧ storeCodes [legacyGlobalCode, "R2", globalCode] = [globalCode, legacyGlobalCode, "R2"]
      ∧ "R1" ∉ storeCodes [legacyGlobalCode, "R2", globalCode]
      ∧ ∃ page,
        (Console.listGroups (session bob) ⟨[legacyGlobalCode, "R2", globalCode]⟩ 1 0).on mixed.store
            = (.ok page, mixed.store)
          ∧ page.items = [⟨globalCode, globalDisplayName, 2⟩] := by
  have hsome : [legacyGlobalCode, "R2", globalCode] ≠ [] := by simp
  obtain ⟨-, -, -, hcodes, hrows⟩ := rows_of_selection [legacyGlobalCode, "R2", globalCode]
  obtain ⟨page, all, hpage, hall, hitems⟩ := hrows mixed.store bob 1
  refine ⟨hsome, by decide, ?_, page, hpage, ?_⟩
  · rw [hcodes hsome]
    decide
  · rw [listGroups_session_on] at hall
    cases hall
    rw [hitems]
    decide

end MemoryStore
end Whitelist
