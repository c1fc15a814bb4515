import Mathlib.Data.List.Dedup
import Whitelist.Proofs.Console.Browse

/-!
# One row for each scope

The upper level goes through the rows of a store and merges those of one scope. What is shown in the
end can be said without going through them: which scopes have a row, in which order, under which
code and label, and with which count. That leaves nothing open, so what is shown once is shown as it
is the second time.

## What is here

* `mem_scopes_normalizeGroups`, `nodup_scopes_normalizeGroups` — the scopes that are shown.
* `first_of_mem_normalizeGroups`, `code_of_mem_normalizeGroups` — a row that is shown is the first
  one of its scope, but for the count, and has its canonical code.
* `length_normalizeGroups_eq_iff`, `normalizeGroups_eq_map` — what is shown where no scope has two
  rows.
* `normalizeGroups_normalizeGroups` — what is shown of what is shown.
* `Normalizes` — what rows show of others. `Normalizes.unique` says that this determines them.
* `rows_normalized` — what the upper level shows, and what it makes of a page.

`normalizeGroups` is a fold: it looks for a row of the same scope among those already there, adds
the counts or appends, and moves the global scope to the front at the end. `Normalizes` describes
the outcome and not the way to it. Its fields are what one would check on the screen, row by row:
which scopes, in which order, with which code, label and count. `Normalizes.unique` makes sure that
nothing has been forgotten among the fields, for a list that satisfies them can only be the one.

That the merge is idempotent then needs `displayName_displayName`. The label of a row is computed
from a name, and on the second pass the label itself is taken for the name.
-/

set_option autoImplicit false
namespace Whitelist.Console

open RuleGroup

variable {rows groups shown : List RuleGroup} {group : RuleGroup} {scope : Scope}

/-! ## Scopes and rows

Each lemma about `normalizeGroups` is one about `gather canonical`, by `normalizeGroups_eq`, and
goes through `globalFirst_perm`: moving the global scope to the front is a permutation. -/

/-- No scope is lost, and none comes in. -/
theorem mem_scopes_normalizeGroups :
    scope ∈ scopes (normalizeGroups groups) ↔ scope ∈ scopes groups := by
  rw [normalizeGroups_eq, scopes, ((globalFirst_perm _).map _).mem_iff]
  exact mem_scopes_gather scope_canonical

/-- No scope is shown twice. -/
theorem nodup_scopes_normalizeGroups (groups : List RuleGroup) :
    (scopes (normalizeGroups groups)).Nodup :=
  ((globalFirst_perm _).map _).nodup_iff.mpr (nodup_scopes_gather scope_canonical _)

/-- The scopes that are shown are those of the rows, each once. Their order is another matter, see
`pairwise_scopes_globalFirst`. -/
theorem scopes_normalizeGroups_perm (groups : List RuleGroup) :
    (scopes (normalizeGroups groups)).Perm (scopes groups).dedup := by
  refine (List.perm_ext_iff_of_nodup (nodup_scopes_normalizeGroups groups)
    (List.nodup_dedup _)).mpr fun scope => ?_
  rw [mem_scopes_normalizeGroups, List.mem_dedup]

/-- As many rows are shown as there are scopes. -/
theorem length_normalizeGroups (groups : List RuleGroup) :
    (normalizeGroups groups).length = (scopes groups).dedup.length := by
  rw [← (scopes_normalizeGroups_perm groups).length_eq, scopes, List.length_map]

/-- A page that has rows does not become an empty one. -/
theorem normalizeGroups_eq_nil_iff : normalizeGroups groups = [] ↔ groups = [] := by
  rw [← List.length_eq_zero_iff, length_normalizeGroups, List.length_eq_zero_iff]
  simp [scopes]

/-- As many rows are shown as there are exactly where no scope has two of them. -/
theorem length_normalizeGroups_eq_iff :
    (normalizeGroups groups).length = groups.length ↔ (scopes groups).Nodup := by
  rw [length_normalizeGroups, ← List.dedup_eq_self]
  have hlength : (scopes groups).length = groups.length := List.length_map _
  constructor
  · intro h
    exact (List.dedup_sublist _).eq_of_length (h.trans hlength.symm)
  · intro h
    rw [h, hlength]

/-- A row that is shown is the first one of its scope under its canonical code, but for the
count. -/
theorem first_of_mem_normalizeGroups (h : group ∈ normalizeGroups groups) :
    ∃ first, groups.find? (fun g => g.scope = group.scope) = some first
      ∧ group = { canonical first with count := group.count } := by
  rw [normalizeGroups_eq, (globalFirst_perm _).mem_iff] at h
  exact first_of_mem_gather scope_canonical h

/-- A row that is shown is one of the store's, made canonical and counted anew. -/
theorem of_mem_normalizeGroups (h : group ∈ normalizeGroups groups) :
    ∃ d ∈ groups, group = { canonical d with count := group.count } := by
  obtain ⟨first, hfirst, hgroup⟩ := first_of_mem_normalizeGroups h
  exact ⟨first, List.mem_of_find?_eq_some hfirst, hgroup⟩

/-- A row that is shown has the canonical code of its scope. -/
theorem code_of_mem_normalizeGroups (h : group ∈ normalizeGroups groups) :
    group.code = group.scope.code := by
  obtain ⟨row, -, hsame⟩ := of_mem_normalizeGroups h
  have hscope : group.scope = row.scope :=
    (congrArg RuleGroup.scope hsame).trans (scope_canonical row)
  rw [hscope]
  exact congrArg RuleGroup.code hsame

/-- The codes that are shown are those of the scopes. -/
theorem mem_codes_normalizeGroups {code : String} :
    code ∈ (normalizeGroups groups).map (·.code) ↔ ∃ row ∈ groups, row.scope.code = code := by
  rw [List.mem_map]
  constructor
  · rintro ⟨g, hg, rfl⟩
    obtain ⟨row, hrow, hsame⟩ := of_mem_normalizeGroups hg
    exact ⟨row, hrow, (congrArg RuleGroup.code hsame).symm⟩
  · rintro ⟨row, hrow, rfl⟩
    obtain ⟨g, hg, hscope⟩ := List.mem_map.mp (mem_scopes_normalizeGroups.mpr (mem_scopes hrow))
    exact ⟨g, hg, hscope ▸ code_of_mem_normalizeGroups hg⟩

/-- Where no scope has two rows and the global one is in front, all that happens to the rows is
that they are shown under their canonical codes. -/
theorem normalizeGroups_eq_map (hnodup : (scopes groups).Nodup) (hfirst : GlobalsFirst groups) :
    normalizeGroups groups = groups.map canonical := by
  rw [normalizeGroups_eq, gather_of_nodup hnodup scope_canonical]
  refine globalFirst_eq_self (List.pairwise_map.mpr ?_)
  simpa only [scope_canonical, GlobalsFirst] using hfirst

/-! ## Shown twice

By `normalizeGroups_eq_map` a list without repetition is only mapped. What is shown is such a list,
and consists of rows that `canonical` leaves alone, so mapping it changes nothing. -/

/-- A label that follows from a name is the label that follows from it as a name. -/
theorem displayName_displayName (scope : Scope) (name : String) :
    scope.displayName (some (scope.displayName (some name)))
      = scope.displayName (some name) := by
  cases scope with
  | global => rfl
  | rule code =>
    by_cases hname : name = ""
    · -- The code stands for the name, and it would stand for itself too.
      by_cases hcode : code = "" <;> simp [Scope.displayName, Option.filter_some, hname, hcode]
    · simp [Scope.displayName, Option.filter_some, hname]

/-- A canonical row is canonical. -/
theorem canonical_canonical (group : RuleGroup) :
    canonical (canonical group) = canonical group := by
  have hname : (canonical group).displayName = group.scope.displayName (some group.displayName) :=
    rfl
  rw [canonical, scope_canonical, hname, displayName_displayName]
  rfl

/-- What is shown is canonical, whatever its count. -/
theorem canonical_of_mem_normalizeGroups (h : group ∈ normalizeGroups groups) :
    canonical group = group := by
  obtain ⟨row, -, hrow⟩ := of_mem_normalizeGroups h
  rw [hrow]
  exact congrArg (fun g => { g with count := group.count }) (canonical_canonical row)

/-- **What is shown stays as it is** where it is to be shown once more. -/
theorem normalizeGroups_normalizeGroups (groups : List RuleGroup) :
    normalizeGroups (normalizeGroups groups) = normalizeGroups groups := by
  have hfirst : GlobalsFirst (normalizeGroups groups) := globalsFirst_globalFirst _
  rw [normalizeGroups_eq_map (nodup_scopes_normalizeGroups groups) hfirst]
  have hsame : (normalizeGroups groups).map canonical = (normalizeGroups groups).map id :=
    List.map_congr_left fun _ h => canonical_of_mem_normalizeGroups h
  rw [hsame, List.map_id]

/-! ## What the rows say

`CountsFit` is needed for the counts alone: they are added as words of 64 bits, and the sum that is
shown is the true one only where there is room for it. Everything else holds without it. -/

/-- Rows that show others: one for each scope, with what the others say of it. -/
structure Normalizes (rows shown : List RuleGroup) : Prop where
  /-- Each scope that the rows are of has one row. -/
  scopes_perm : (scopes shown).Perm (scopes rows).dedup
  /-- The global scope comes first, the others in the order in which they are first met. -/
  order : (scopes shown).Pairwise fun a b =>
    a = .global ∨ b ≠ .global ∧ (scopes rows).idxOf a < (scopes rows).idxOf b
  /-- A row has the canonical code of its scope. -/
  code : ∀ row ∈ shown, row.code = row.scope.code
  /-- A row has the label that follows from the name of the first row of its scope. -/
  displayName : ∀ row ∈ shown, ∃ first, rows.find? (fun r => r.scope = row.scope) = some first
    ∧ row.displayName = row.scope.displayName (some first.displayName)
  /-- A row counts what all rows of its scope count. -/
  count : ∀ row ∈ shown, row.count.toNat = total (rows.filter fun r => r.scope = row.scope)

/-- The merge does what `Normalizes` asks for, field by field. -/
theorem normalizes_normalizeGroups (hfit : CountsFit rows) :
    Normalizes rows (normalizeGroups rows) where
  scopes_perm := scopes_normalizeGroups_perm rows
  order := pairwise_scopes_globalFirst (pairwise_idxOf_gather scope_canonical rows)
  code := fun _ hrow => code_of_mem_normalizeGroups hrow
  displayName := by
    intro row hrow
    obtain ⟨first, hfirst, hsame⟩ := first_of_mem_normalizeGroups hrow
    have hscope : first.scope = row.scope := by simpa using List.find?_some hfirst
    refine ⟨first, hfirst, ?_⟩
    rw [← hscope]
    exact congrArg RuleGroup.displayName hsame
  count := by
    intro row hrow
    rw [normalizeGroups_eq, (globalFirst_perm _).mem_iff] at hrow
    rw [count_of_mem_gather scope_canonical (fun _ => rfl) hrow, toNat_countOf (hfit row.scope)]

/-- The row that shows a scope. -/
def shownRow (rows : List RuleGroup) (scope : Scope) : RuleGroup where
  code := scope.code
  displayName :=
    scope.displayName ((rows.find? fun r => r.scope = scope).map RuleGroup.displayName)
  count := .ofNat (total (rows.filter fun r => r.scope = scope))

namespace Normalizes

/-- Code, label and count of a row follow from its scope, so the rows follow from the list of their
scopes. -/
theorem eq_map (h : Normalizes rows shown) : shown = (scopes shown).map (shownRow rows) := by
  have hrow : ∀ row ∈ shown, shownRow rows row.scope = row := by
    intro row hrow
    obtain ⟨first, hfirst, hname⟩ := h.displayName row hrow
    rw [shownRow, hfirst, ← h.count row hrow, ← h.code row hrow, UInt64.ofNat_toNat]
    exact congrArg (fun name => { row with displayName := name }) hname.symm
  rw [scopes, List.map_map]
  exact ((List.map_congr_left hrow).trans (List.map_id _)).symm

/-- There are no two ways to show the same rows. -/
theorem unique {shown' : List RuleGroup} (h : Normalizes rows shown) (h' : Normalizes rows shown') :
    shown = shown' := by
  have hscopes : scopes shown = scopes shown' := by
    refine (h.scopes_perm.trans h'.scopes_perm.symm).eq_of_pairwise ?_ h.order h'.order
    rintro a b - - (rfl | ⟨hb, hab⟩) (rfl | ⟨ha, hba⟩)
    · rfl
    · exact absurd rfl ha
    · exact absurd rfl hb
    · omega
  rw [h.eq_map, h'.eq_map, hscopes]

end Normalizes

/-- **The upper level shows each scope in one row, and drops no count.** Where the counts of each
scope add up to a word, the rows that are shown are the only ones that normalize the rows of the
store: there is one row for each scope, under the canonical code and with the exact sum of the
counts and the label of the first row of the scope; the global scope comes first, and the others in
the order in which they were first met. What is shown stays as it is where it is to be shown once
more. So a page of any store keeps all that it counts, and its total goes down by the rows that were
merged. -/
theorem rows_normalized (rows : List RuleGroup) (hfit : CountsFit rows) :
    (∀ shown, Normalizes rows shown ↔ shown = normalizeGroups rows)
    ∧ normalizeGroups (normalizeGroups rows) = normalizeGroups rows
    ∧ ∀ (σ : Type) (store : RuleStore σ) (filter : GroupQuery) (number size : UInt64) (s t : σ)
      (answer : Page RuleGroup), answer.items = rows →
      (store.listGroups ⟨storeCodes filter.codes⟩ number size).on s = (.ok answer, t) →
      ∃ page, (listGroups store filter number size).on s = (.ok page, t)
        ∧ page.items = normalizeGroups rows
        ∧ total page.items = total rows
        ∧ page.totalCount.toNat
          = answer.totalCount.toNat - (rows.length - (scopes rows).dedup.length) := by
  have hshown := normalizes_normalizeGroups hfit
  refine ⟨fun shown => ⟨fun h => h.unique hshown, fun h => h ▸ hshown⟩,
    normalizeGroups_normalizeGroups rows, ?_⟩
  rintro σ store filter number size s t answer rfl hanswer
  refine ⟨_, listGroups_on_ok hanswer, rfl, ?_, ?_⟩
  · show total (globalFirst (gather canonical answer.items)) = _
    rw [total_perm (globalFirst_perm _), total_gather scope_canonical (fun _ => rfl) hfit]
  · rw [← length_normalizeGroups]
    exact toNat_minus ..

/-- Two scopes, each met twice, the global one under both of its codes. -/
def metTwice : List RuleGroup :=
  [⟨"R1", "First", 1⟩, ⟨legacyGlobalCode, "", 3⟩, ⟨"R1", "Second", 4⟩, ⟨globalCode, "", 2⟩]

/-- The global scope comes first, though it was not met first, and the label of the other is the one
that was. -/
theorem rows_normalized_metTwice :
    CountsFit metTwice
      ∧ Normalizes metTwice [⟨globalCode, globalDisplayName, 5⟩, ⟨"R1", "First", 5⟩]
      ∧ ¬ Normalizes metTwice [⟨globalCode, globalDisplayName, 5⟩, ⟨"R1", "Second", 5⟩] := by
  have hfit : CountsFit metTwice := countsFit_of_total (by decide)
  obtain ⟨hunique, -⟩ := rows_normalized metTwice hfit
  refine ⟨hfit, (hunique _).mpr (by decide), ?_⟩
  rw [hunique]
  decide

end Whitelist.Console
