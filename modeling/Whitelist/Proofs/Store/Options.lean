import Whitelist.Proofs.Console.Options
import Whitelist.Proofs.Store.Groups

/-!
# The options over the in-process store

The in-process store has one group for each scope, whatever codes the records have. So the console
merges nothing, every page speaks of all groups there are, and the walk comes to the last one. What
the options are then does not depend on the size of a page any more: it can be read off the records
that the caller sees.

## What is here

* `codeOption` — the option for a scope.
* `ListedBefore` — the order of the options: the global scope, then the others by their newest
  records.
* `pairwise_scopes_groups` — the groups of the store are in that order.
* `slices_session` — the store answers with slices of its groups.
* `options_of_visible` — the options are those of the records that the caller sees.
-/

set_option autoImplicit false
namespace Whitelist
namespace MemoryStore

open RuleGroup Console

variable {s : MemoryStore} {caller : Caller} {query : GroupQuery} {scope : Scope}

/-! ## One option -/

/-- The option for a scope: its canonical code, and its heading under the name that is known. -/
def codeOption (s : MemoryStore) (scope : Scope) : CodeOption :=
  ⟨scope.code, scope.displayName (s.ruleName? scope.code)⟩

/-- No name and an empty name lead to the same heading. -/
theorem displayName_getD (scope : Scope) (name : Option String) :
    scope.displayName (some (name.getD "")) = scope.displayName name := by
  cases scope <;> cases name <;> rfl

theorem optionOf_canonical {group : RuleGroup} (h : group ∈ s.groups caller query) :
    optionOf (canonical group) = s.codeOption group.scope := by
  have hname : (canonical group).displayName
      = group.scope.displayName (some group.displayName) := rfl
  rw [optionOf, hname, displayName_of_mem_groups h, displayName_getD]
  rfl

/-! ## The order of the groups -/

/-- One scope comes before another: it is the global one, or the other is not, and it has a record
that is newer than all of the other that the caller sees. -/
def ListedBefore (s : MemoryStore) (caller : Caller) (a b : Scope) : Prop :=
  a = .global ∨ b ≠ .global ∧ NewerThan (s.visible caller) a b

/-- The groups of the store are in the order of the options. -/
theorem pairwise_scopes_groups (s : MemoryStore) (caller : Caller) :
    (scopes (s.groups caller {})).Pairwise (s.ListedBefore caller) := by
  have horder := pairwise_scopes_wanted s caller {}
  rwa [wanted_all] at horder

theorem mem_scopes_groups :
    scope ∈ scopes (s.groups caller {}) ↔ ∃ e ∈ s.visible caller, e.2.scope = scope := by
  rw [mem_scopes_groups_iff, wanted_all]

/-! ## All options -/

/-- The store answers with slices of its groups, and stays as it is. -/
theorem slices_session (hroom : (s.visible caller).length < 2 ^ 64) :
    Slices (session caller) (· = s) (s.groups caller {}) := by
  refine slices_of_paginate (Nat.lt_of_le_of_lt (length_groups_le s caller {}) hroom) ?_
  rintro number size _ rfl
  exact ⟨_, listGroups_on .., rfl⟩

theorem option_of_mem_groupPage {filter : GroupQuery} {number size : UInt64} {group : RuleGroup}
    (h : group ∈ (s.groupPage caller filter number size).items) :
    (⟨group.code, group.displayName⟩ : CodeOption) = s.codeOption group.scope := by
  have hrows := normalizeGroups_page_perm s caller ⟨storeCodes filter.codes⟩ number size
  obtain ⟨g, hg, rfl⟩ := List.mem_map.mp (hrows.mem_iff.mp h)
  rw [scope_canonical]
  exact optionOf_canonical (mem_of_mem_paginate hg)

/-- **The options are the scopes of the records that the caller sees**, each once and under its
canonical code: the global scope first, the others by their newest records. They are the same for
every size of a page, and each has the label that the upper level shows for it on every page and to
every query.

Counts are words, so a caller who sees a record under each of the `2 ^ 64` ids is left out. -/
theorem options_of_visible (s : MemoryStore) (caller : Caller)
    (hroom : (s.visible caller).length < 2 ^ 64) :
    ∃ listed : List Scope, (listed.map Scope.code).Nodup
      ∧ (∀ scope, scope ∈ listed ↔ ∃ e ∈ s.visible caller, e.2.scope = scope)
      ∧ listed.Pairwise (s.ListedBefore caller)
      ∧ (∀ size, (ruleCodeOptions (session caller) size).on s = (.ok (listed.map s.codeOption), s))
      ∧ ∀ filter number size, ∃ page,
        (Console.listGroups (session caller) filter number size).on s = (.ok page, s)
          ∧ ∀ group ∈ page.items,
            (⟨group.code, group.displayName⟩ : CodeOption) = s.codeOption group.scope := by
  have hnodup := nodup_scopes_groups s caller {}
  refine ⟨scopes (s.groups caller {}), ?_, fun scope => mem_scopes_groups,
    pairwise_scopes_groups s caller, fun size => ?_, fun filter number size => ?_⟩
  · have hcodes := nodup_codes_canonical hnodup
    rw [List.map_map] at hcodes
    rwa [scopes, List.map_map]
  · have hfirst : GlobalsFirst (s.groups caller {}) := by
      rw [groups_eq]
      exact globalsFirst_globalFirst _
    obtain ⟨t, hoptions, rfl⟩ :=
      ruleCodeOptions_of_nodup (slices_session hroom) hnodup hfirst size rfl
    rw [hoptions, scopes, List.map_map]
    exact congrArg (fun options => (Except.ok options, t))
      (List.map_congr_left fun _ hgroup => optionOf_canonical hgroup)
  · exact ⟨_, listGroups_session_on .., fun _ hgroup => option_of_mem_groupPage hgroup⟩

/-- Bob's rule is newer than all records of the global scope, and is listed behind it, once each,
whatever the size of a page. -/
theorem options_of_visible_mixed :
    (mixed.store.visible bob).length < 2 ^ 64 ∧ ∀ size,
      (ruleCodeOptions (session bob) size).on mixed.store
        = (.ok [⟨globalCode, globalDisplayName⟩, ⟨"R1", "R1"⟩], mixed.store) := by
  have hroom : (mixed.store.visible bob).length < 2 ^ 64 := by decide
  obtain ⟨listed, -, -, -, hoptions, -⟩ := options_of_visible mixed.store bob hroom
  -- With two rows to a page there is one page, and that can be computed.
  have hitems : (mixed.store.groupPage bob {} 1 2).items
      = [⟨globalCode, globalDisplayName, 2⟩, ⟨"R1", "R1", 1⟩] := by decide
  have hlast : (mixed.store.groupPage bob {} 1 2).pagesAvailable ≤ 1 := by decide
  have hone : (ruleCodeOptions (session bob) 2).on mixed.store
      = (.ok [⟨globalCode, globalDisplayName⟩, ⟨"R1", "R1"⟩], mixed.store) := by
    have hpage := listGroups_session_on mixed.store bob {} 1 2
    have hmax : max (2 : UInt64) 1 = 2 := by decide
    rw [ruleCodeOptions, hmax, optionsFrom, Attempt.on_bind_ok hpage, dif_pos (.inr hlast), hitems]
    rfl
  rw [hoptions 2] at hone
  exact ⟨hroom, fun size => (hoptions size).trans hone⟩

end MemoryStore
end Whitelist
