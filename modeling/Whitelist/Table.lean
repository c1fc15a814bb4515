/-!
# Tables

A finite table from ids to values. Its entries stand in ascending order of their ids, so that two
tables with the same entries are equal and the newest entry, having the largest id, stands last.

## What is here

* `Table`, `Table.empty` — the type and the table without entries.
* `find?`, `insert`, `erase`, `keep`, `modify` — one entry, and the table with entries changed.
* `find?_insert`, `find?_keep`, `find?_erase`, `find?_modify` — what is found after each change.
* `mem_entries_iff` — the entries are what is found.
* `KeyedBy` — the values know the ids that they stand under. `keyedBy_empty`, `KeyedBy.insert`,
  `KeyedBy.erase` and `KeyedBy.modify` keep it.
-/

set_option autoImplicit false
namespace Whitelist

/-- A finite table from ids to values. -/
structure Table (α : Type) where
  entries : List (Int64 × α)
  ascending : entries.Pairwise fun a b => a.1 < b.1
  deriving DecidableEq

namespace Table

variable {α : Type}

/-- The table without entries. -/
def empty : Table α := ⟨[], .nil⟩

instance : Inhabited (Table α) := ⟨empty⟩

/-- The number of entries. -/
def size (t : Table α) : Nat := t.entries.length

/-- The value at an id. -/
def find? (t : Table α) (id : Int64) : Option α :=
  (t.entries.find? fun e => e.1 = id).map (·.2)

/-- The entries with one put in its place, or replaced. -/
def insertEntry (id : Int64) (a : α) : List (Int64 × α) → List (Int64 × α)
  | [] => [(id, a)]
  | e :: rest =>
    if e.1 < id then e :: insertEntry id a rest
    else if e.1 = id then (id, a) :: rest
    else (id, a) :: e :: rest

/-- After an insertion the ids are the new one and those from before. -/
theorem mem_insertEntry {id : Int64} {a : α} {l : List (Int64 × α)} {e : Int64 × α}
    (h : e ∈ insertEntry id a l) : e.1 = id ∨ e ∈ l := by
  induction l with
  | nil => simp_all [insertEntry]
  | cons d rest ih =>
    unfold insertEntry at h
    split at h
    · rcases List.mem_cons.mp h with rfl | h
      · exact .inr (by simp)
      · exact (ih h).imp (fun h => h) fun h => List.mem_cons_of_mem _ h
    · split at h <;> rcases List.mem_cons.mp h with rfl | h
      · exact .inl rfl
      · exact .inr (List.mem_cons_of_mem _ h)
      · exact .inl rfl
      · exact .inr h

theorem pairwise_insertEntry {id : Int64} {a : α} {l : List (Int64 × α)}
    (h : l.Pairwise fun a b => a.1 < b.1) : (insertEntry id a l).Pairwise fun a b => a.1 < b.1 := by
  induction l with
  | nil => simp [insertEntry]
  | cons d rest ih =>
    obtain ⟨hd, hrest⟩ := List.pairwise_cons.mp h
    unfold insertEntry
    split
    · rename_i hlt
      refine List.pairwise_cons.mpr ⟨fun e he => ?_, ih hrest⟩
      rcases mem_insertEntry he with h' | h'
      · simpa [h'] using hlt
      · exact hd e h'
    · rename_i hle
      split
      · rename_i heq
        exact List.pairwise_cons.mpr ⟨fun e he => by simpa [heq] using hd e he, hrest⟩
      · rename_i hne
        have hid : id < d.1 := by
          rcases Int64.le_iff_lt_or_eq.mp (Int64.not_lt.mp hle) with h' | h'
          · exact h'
          · exact absurd h'.symm hne
        refine List.pairwise_cons.mpr ⟨fun e he => ?_, h⟩
        rcases List.mem_cons.mp he with rfl | he
        · exact hid
        · exact Int64.lt_trans hid (hd e he)

/-- The table with a value put at an id, in place of any other there. -/
def insert (t : Table α) (id : Int64) (a : α) : Table α :=
  ⟨insertEntry id a t.entries, pairwise_insertEntry t.ascending⟩

/-- The table with the entries that pass a test. -/
def keep (t : Table α) (test : Int64 → α → Bool) : Table α :=
  ⟨t.entries.filter fun e => test e.1 e.2, t.ascending.filter _⟩

/-- The table without the entry at an id. -/
def erase (t : Table α) (id : Int64) : Table α := t.keep fun i _ => i ≠ id

/-- The table with the value at an id replaced by a function of it. -/
def modify (t : Table α) (id : Int64) (f : α → α) : Table α :=
  match t.find? id with
  | some a => t.insert id (f a)
  | none => t

/-! ## What is found -/

theorem find?_insertEntry (id : Int64) (a : α) (l : List (Int64 × α)) (k : Int64) :
    (insertEntry id a l).find? (fun e => e.1 = k)
      = if k = id then some (id, a) else l.find? fun e => e.1 = k := by
  induction l with
  | nil => by_cases h : k = id <;> simp [insertEntry, h, Ne.symm]
  | cons e rest ih =>
    unfold insertEntry
    split
    · grind
    · split <;> grind

/-- After an insertion the new value is found at its id, and every other value where it was. -/
theorem find?_insert (t : Table α) (id : Int64) (a : α) (k : Int64) :
    (t.insert id a).find? k = if k = id then some a else t.find? k := by
  unfold find? insert
  rw [find?_insertEntry]
  split <;> rfl

/-- The entries of a table are what is found in it. -/
theorem mem_entries_iff (t : Table α) (id : Int64) (a : α) :
    (id, a) ∈ t.entries ↔ t.find? id = some a := by
  obtain ⟨l, h⟩ := t
  simp only [find?]
  induction l with
  | nil => simp
  | cons e rest ih =>
    obtain ⟨hd, hrest⟩ := List.pairwise_cons.mp h
    rw [List.find?_cons]
    by_cases hid : e.1 = id
    · have hnot : (id, a) ∉ rest := fun ha => Int64.lt_irrefl (hid ▸ hd (id, a) ha)
      obtain ⟨i, b⟩ := e
      obtain rfl : i = id := hid
      simp [hnot, eq_comm]
    · have hne : (id, a) ≠ e := fun he => hid (by rw [← he])
      simpa [hid, hne] using ih hrest

/-- Of the entries that are kept, those that pass the test are found. -/
theorem find?_keep (t : Table α) (test : Int64 → α → Bool) (id : Int64) :
    (t.keep test).find? id = (t.find? id).filter (test id) := by
  ext a
  rw [← mem_entries_iff, Option.filter_eq_some_iff, ← mem_entries_iff]
  simp [keep]

/-- After an erasure nothing is found at the id, and every other value where it was. -/
theorem find?_erase (t : Table α) (id k : Int64) :
    (t.erase id).find? k = if k = id then none else t.find? k := by
  rw [erase, find?_keep]
  by_cases h : k = id
  · simp [h]
  · cases t.find? k <;> simp [h]

/-- A modification changes the value that is found at the id, if there is one, and no other. -/
theorem find?_modify (t : Table α) (id : Int64) (f : α → α) (k : Int64) :
    (t.modify id f).find? k = if k = id then (t.find? id).map f else t.find? k := by
  unfold modify
  split
  · rename_i a ha
    rw [find?_insert, ha]
    rfl
  · rename_i hn
    split
    · rename_i hk
      rw [hk, hn]
      rfl
    · rfl

/-! ## Values that know their ids -/

/-- Each value stands under the id that it gives itself. -/
def KeyedBy (key : α → Int64) (t : Table α) : Prop := ∀ e ∈ t.entries, key e.2 = e.1

theorem keyedBy_empty {key : α → Int64} : (empty : Table α).KeyedBy key := nofun

namespace KeyedBy

variable {key : α → Int64} {t : Table α} {id : Int64}

theorem of_find? {a : α} (h : t.KeyedBy key) (ha : t.find? id = some a) : key a = id :=
  h _ ((t.mem_entries_iff id a).mpr ha)

theorem insert {a : α} (h : t.KeyedBy key) (ha : key a = id) : (t.insert id a).KeyedBy key := by
  rintro ⟨k, b⟩ hb
  rw [mem_entries_iff, find?_insert] at hb
  split at hb
  · rename_i hk
    cases hb
    exact ha.trans hk.symm
  · exact h.of_find? hb

theorem erase (h : t.KeyedBy key) : (t.erase id).KeyedBy key :=
  fun e he => h e (List.mem_filter.mp he).1

/-- A change of values that leaves their ids alone. -/
theorem modify {f : α → α} (h : t.KeyedBy key) (hf : ∀ a, key (f a) = key a) :
    (t.modify id f).KeyedBy key := by
  unfold Table.modify
  split
  · rename_i a ha
    exact h.insert ((hf a).trans (h.of_find? ha))
  · exact h

end KeyedBy
end Table
end Whitelist
