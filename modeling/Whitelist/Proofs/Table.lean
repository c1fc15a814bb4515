import Mathlib.Data.List.Nodup
import Whitelist.Table

/-!
# Tables and what is found in them

A table keeps its entries in the order of their ids. So what is found at each id leaves nothing open
about the table.

## What is here

* `ext_find?` — two tables in which the same is found are equal.
* `map`, `find?_map`, `KeyedBy.map` — a function applied to each value.
-/

set_option autoImplicit false
namespace Whitelist
namespace Table

variable {α β : Type} {t u : Table α}

theorem nodup_entries (t : Table α) : t.entries.Nodup :=
  t.ascending.imp fun hlt heq => Int64.ne_of_lt hlt (congrArg Prod.fst heq)

/-- Two tables in which the same is found are equal. -/
theorem ext_find? (h : ∀ id, t.find? id = u.find? id) : t = u := by
  have hmem (e : Int64 × α) : e ∈ t.entries ↔ e ∈ u.entries := by
    rw [mem_entries_iff, mem_entries_iff, h]
  have hperm := (List.perm_ext_iff_of_nodup t.nodup_entries u.nodup_entries).mpr hmem
  have hentries : t.entries = u.entries :=
    hperm.eq_of_pairwise (fun _ _ _ _ hab hba => absurd (Int64.lt_trans hab hba) Int64.lt_irrefl)
      t.ascending u.ascending
  cases t
  cases u
  cases hentries
  rfl

/-- The table with a function applied to each value. -/
def map (f : α → β) (t : Table α) : Table β where
  entries := t.entries.map fun e => (e.1, f e.2)
  ascending := by
    rw [List.pairwise_map]
    exact t.ascending

theorem find?_map (f : α → β) (t : Table α) (id : Int64) :
    (t.map f).find? id = (t.find? id).map f := by
  rw [find?, find?, map, List.find?_map, Option.map_map, Option.map_map]
  rfl

/-- Values that a function leaves with their ids still stand under them. -/
theorem KeyedBy.map {key : α → Int64} {key' : β → Int64} {f : α → β} (h : t.KeyedBy key)
    (hf : ∀ a, key' (f a) = key a) : (t.map f).KeyedBy key' := by
  intro e he
  obtain ⟨d, hd, rfl⟩ := List.mem_map.mp he
  exact (hf d.2).trans (h d hd)

end Table
end Whitelist
