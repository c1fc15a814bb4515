import Whitelist.Proofs.Store.Visibility

/-!
# The record listing of the in-process store

A listing makes a row of each record that the caller sees, filters the rows, and cuts out a page. So
what stands in it is what the caller would have been answered who asks for the records one by one,
from the newest to the oldest. That holds too of a query for a creator who has made no record, for
which no rows are made at all.

Rows are made one after the other, and so are pages, and a lease may run out in between. Therefore
each row is compared with an answer at the moment at which it was made. Which records are listed
does not depend on the time, since no query asks for the lock.

## What is here

* `wantedRecords`, `ids_rows` — the records that a query wants, and the ids of their rows.
* `Lists` — what rows have to be like to list the records of a query.
* `mapM_getRecord_on` — asking for one record after the other.
* `allRecordPages`, `allRecordPages_on` — a walk through all pages.
* `listed_as_read` — pages are cut out of such rows, and all pages together are such rows.

The difficulty is the clock. `ReadAt` ties a row to a moment, given as a number of looks at the
clock since the listing began, and a walk through many pages adds these numbers up
(`Function.iterate_add_apply`). The ids, on the other hand, are the same at every moment
(`ids_wanted`), and so the order and completeness of all pages together is a statement about one
list of ids, cut into pages.
-/

set_option autoImplicit false
namespace Whitelist
namespace MemoryStore

variable {s : MemoryStore} {caller : Caller} {query : RecordQuery} {rows' : List RuleRecord}
  {id : Int64}

/-! ## Looks at the clock

Nothing but the live leases depends on the time. -/

theorem existing?_iterate_tick (looks : Nat) :
    (tick^[looks] s).existing? caller id = s.existing? caller id := by
  rw [iterate_tick]
  rfl

theorem visible_iterate_tick (looks : Nat) :
    (tick^[looks] s).visible caller = s.visible caller := by
  rw [iterate_tick]
  rfl

theorem record_iterate_tick (looks : Nat) : (tick^[looks] s).record = s.record := by
  rw [iterate_tick]
  rfl

/-! ## The records that are wanted -/

/-- The records that a caller sees and a query wants, the newest first. A query does not ask for the
lock, so any will do. -/
def wantedRecords (s : MemoryStore) (caller : Caller) (query : RecordQuery) :
    List (Int64 × StoredRule) :=
  (s.visible caller).filter fun (_, rule) => query.selects (s.record rule .unlocked)

/-- The ids of the rows that a query selects, whenever they are made. -/
theorem ids_rows (caller : Caller) (query : RecordQuery) (s : MemoryStore)
    {l : List (Int64 × StoredRule)} (hl : ∀ e ∈ l, e.2.id = e.1) :
    ((rows caller s l).filter query.selects).map (·.id)
      = (l.filter fun (_, rule) => query.selects (s.record rule .unlocked)).map (·.1) := by
  induction l generalizing s with
  | nil => rfl
  | cons e rest ih =>
    have hid : (s.record e.2 (lockFor caller (s.holder e.2.id))).id = e.1 :=
      hl e List.mem_cons_self
    have hlock : query.selects (s.record e.2 (lockFor caller (s.holder e.2.id)))
        = query.selects (s.record e.2 .unlocked) := rfl
    have hlater := ih s.tick fun d hd => hl d (List.mem_cons_of_mem e hd)
    rw [rows, List.filter_cons, List.filter_cons, hlock]
    by_cases hselected : query.selects (s.record e.2 .unlocked)
    · simp only [hselected, if_true, List.map_cons, hlater, hid]
      rfl
    · simp only [hselected, Bool.false_eq_true, if_false, hlater]
      rfl

/-- The records that are seen are those that can be got. -/
theorem mem_ids_visible_iff : id ∈ (s.visible caller).map (·.1)
    ↔ ∃ record, ((getRecord caller id).on s).1 = .ok record := by
  constructor
  · intro h
    obtain ⟨⟨id, rule⟩, he, rfl⟩ := List.mem_map.mp h
    exact ⟨_, getRecord_eq_ok_iff.mpr ⟨rule, mem_visible_iff.mp he, rfl⟩⟩
  · rintro ⟨record, hrecord⟩
    obtain ⟨rule, hseen, -⟩ := getRecord_eq_ok_iff.mp hrecord
    exact List.mem_map.mpr ⟨(id, rule), mem_visible_iff.mpr hseen, rfl⟩

theorem mem_wantedRecords_iff :
    id ∈ (s.wantedRecords caller query).map (·.1)
      ↔ ∃ record, ((getRecord caller id).on s).1 = .ok record ∧ query.selects record = true := by
  constructor
  · intro h
    obtain ⟨⟨id, rule⟩, he, rfl⟩ := List.mem_map.mp h
    obtain ⟨hvisible, hselected⟩ := List.mem_filter.mp he
    exact ⟨_, getRecord_eq_ok_iff.mpr ⟨rule, mem_visible_iff.mp hvisible, rfl⟩, hselected⟩
  · rintro ⟨record, hrecord, hselected⟩
    obtain ⟨rule, hseen, rfl⟩ := getRecord_eq_ok_iff.mp hrecord
    exact List.mem_map.mpr ⟨(id, rule), List.mem_filter.mpr
      ⟨mem_visible_iff.mpr hseen, hselected⟩, rfl⟩

/-! ## Rows that list them

`Lists` leaves open which moment a row is of. It has to, since two rows of one listing are made at
different moments. -/

/-- The row is what the caller would have been answered who asked for the record so many looks at
the clock later. -/
def ReadAt (s : MemoryStore) (caller : Caller) (looks : Nat) (row : RuleRecord) : Prop :=
  ((getRecord caller row.id).on (tick^[looks] s)).1 = .ok row

/-- The rows list the records that a caller sees and a query selects. -/
structure Lists (s : MemoryStore) (caller : Caller) (query : RecordQuery) (rows : List RuleRecord) :
    Prop where
  /-- Newer records come before older ones, so none comes twice. -/
  descending : rows.Pairwise fun a b => b.id < a.id
  /-- The rows are those of the records that the caller can get and the query selects. -/
  ids : ∀ id, id ∈ rows.map (·.id)
    ↔ ∃ record, ((getRecord caller id).on s).1 = .ok record ∧ query.selects record = true
  /-- Each row is the answer of some moment. -/
  read : ∀ row ∈ rows, ∃ looks, ReadAt s caller looks row

theorem lists_of_ids (hids : rows'.map (·.id) = (s.wantedRecords caller query).map (·.1))
    (hread : ∀ row ∈ rows', ∃ looks, ReadAt s caller looks row) : Lists s caller query rows' where
  descending := by
    have hwanted : (s.wantedRecords caller query).Pairwise fun a b => b.1 < a.1 :=
      (visible_descending s caller).filter _
    have hdescending : (rows'.map (·.id)).Pairwise fun a b => b < a := by
      rw [hids]
      exact List.pairwise_map.mpr hwanted
    exact List.pairwise_map.mp hdescending
  ids id := by rw [hids, mem_wantedRecords_iff]
  read := hread

/-- The row of a record that is seen is the answer to whoever asks for it at that moment. -/
theorem exists_readAt_of_mem_rows {row : RuleRecord} (h : row ∈ rows caller s (s.visible caller)) :
    ∃ looks, ReadAt s caller looks row := by
  obtain ⟨looks, ⟨id, rule⟩, he, rfl⟩ := mem_rows caller h
  have hseen : (tick^[looks] s).existing? caller id = some rule := by
    rw [existing?_iterate_tick]
    exact mem_visible_iff.mp he
  have hid : rule.id = id := id_of_existing? hseen
  subst hid
  refine ⟨looks, getRecord_eq_ok_iff.mpr ⟨rule, hseen, ?_⟩⟩
  rw [record_iterate_tick]
  rfl

theorem lists_rows (s : MemoryStore) (caller : Caller) (query : RecordQuery) :
    Lists s caller query ((rows caller s (s.visible caller)).filter query.selects) :=
  lists_of_ids (ids_rows caller query s fun _ => id_of_mem_visible) fun _ hrow =>
    exists_readAt_of_mem_rows (List.mem_filter.mp hrow).1

/-! ## One record after the other

This is the listing as a user would do it by hand. It gives the rows of the program exactly, looks
at the clock included, because the program projects its rows by the same function. -/

/-- Asking for some records that are seen, one after the other, is making rows of them. -/
theorem mapM_getRecord_on {l : List (Int64 × StoredRule)}
    (hl : ∀ e ∈ l, s.existing? caller e.1 = some e.2) :
    ((l.map (·.1)).mapM (getRecord caller)).on s = (.ok (rows caller s l), tick^[l.length] s) := by
  induction l generalizing s with
  | nil => rfl
  | cons e rest ih =>
    have hseen := hl e List.mem_cons_self
    have hfirst : (getRecord caller e.1).on s
        = (.ok (s.record e.2 (lockFor caller (s.holder e.2.id))), s.tick) := by
      rw [getRecord_on, hseen, id_of_existing? hseen]
    have hrest := @ih s.tick fun d hd => hl d (List.mem_cons_of_mem e hd)
    rw [List.map_cons, List.mapM_cons, Attempt.on_bind_ok hfirst, Attempt.on_bind_ok hrest]
    rfl

/-! ## All pages

Later pages are asked for after earlier ones were made, so they are cut out of rows that were made
later. `CutOut` says which list a page comes from; `cutOut_flatMap` puts the pages together again,
by their ids. -/

/-- The pages of a listing, asked for one after the other, as many as the first one speaks of. -/
def allRecordPages (caller : Caller) (query : RecordQuery) (size : UInt64) :
    Attempt MemoryStore (List (Page RuleRecord)) := do
  let first ← listRecords caller query 1 size
  let more ← (pageNumbers first.pagesAvailable).tail.mapM fun number =>
    listRecords caller query number size
  return first :: more

/-- A page is cut out of the rows that are made of the wanted records so many looks later. -/
def CutOut (s : MemoryStore) (caller : Caller) (query : RecordQuery) (size number : UInt64)
    (page : Page RuleRecord) : Prop :=
  ∃ looks, page = paginate ((rows caller (tick^[looks] s) (s.visible caller)).filter query.selects)
    number size

theorem cutOut_listRecords (s : MemoryStore) (caller : Caller) (query : RecordQuery)
    (size number : UInt64) (looks : Nat) : ∃ page later,
      (listRecords caller query number size).on (tick^[looks] s) = (.ok page, tick^[later] s)
        ∧ CutOut s caller query size number page := by
  have hanswer := listRecords_answer caller (tick^[looks] s) query number size
  obtain ⟨more, hmore⟩ := exists_tick_listRecords caller (tick^[looks] s) query number size
  rw [← Function.iterate_add_apply] at hmore
  rw [visible_iterate_tick] at hanswer
  exact ⟨_, more + looks, Prod.ext hanswer hmore, looks, rfl⟩

/-- The rows of the wanted records have their ids, whenever they are made. -/
theorem ids_wanted (looks : Nat) :
    ((rows caller (tick^[looks] s) (s.visible caller)).filter query.selects).map (·.id)
      = (s.wantedRecords caller query).map (·.1) := by
  rw [ids_rows caller query _ fun _ => id_of_mem_visible, record_iterate_tick]
  rfl

theorem CutOut.ids {size number : UInt64} {page : Page RuleRecord}
    (h : CutOut s caller query size number page) : page.items.map (·.id)
      = (paginate ((s.wantedRecords caller query).map (·.1)) number size).items := by
  obtain ⟨looks, rfl⟩ := h
  rw [← ids_wanted looks, paginate_map]
  rfl

theorem CutOut.read {size number : UInt64} {page : Page RuleRecord}
    (h : CutOut s caller query size number page) :
    ∀ row ∈ page.items, ∃ looks, ReadAt s caller looks row := by
  obtain ⟨looks, rfl⟩ := h
  intro row hrow
  have hmade := (List.mem_filter.mp (mem_of_mem_paginate hrow)).1
  rw [← visible_iterate_tick looks] at hmade
  obtain ⟨more, hread⟩ := exists_readAt_of_mem_rows hmade
  refine ⟨more + looks, ?_⟩
  rwa [ReadAt, Function.iterate_add_apply]

theorem CutOut.pagesAvailable {size number : UInt64} {page : Page RuleRecord}
    (h : CutOut s caller query size number page) : page.pagesAvailable
      = pageCount (.ofNat ((s.wantedRecords caller query).map (·.1)).length) size := by
  obtain ⟨looks, rfl⟩ := h
  rw [paginate_pagesAvailable, ← ids_wanted looks, List.length_map]

/-- The rows of some pages, put together. -/
theorem cutOut_flatMap {size : UInt64} {numbers : List UInt64} {pages : List (Page RuleRecord)}
    (h : List.Forall₂ (CutOut s caller query size) numbers pages) :
    (pages.flatMap (·.items)).map (·.id) = numbers.flatMap (fun number =>
        (paginate ((s.wantedRecords caller query).map (·.1)) number size).items)
      ∧ ∀ row ∈ pages.flatMap (·.items), ∃ looks, ReadAt s caller looks row := by
  induction h with
  | nil => exact ⟨rfl, fun _ hrow => absurd hrow List.not_mem_nil⟩
  | cons hcut _ ih =>
    obtain ⟨hids, hread⟩ := ih
    refine ⟨?_, fun row hrow => ?_⟩
    · rw [List.flatMap_cons, List.map_append, hcut.ids, hids, List.flatMap_cons]
    · rw [List.flatMap_cons] at hrow
      rcases List.mem_append.mp hrow with hfirst | hrest
      · exact hcut.read row hfirst
      · exact hread row hrest

/-- **Going through all pages lists every record once**, though a lease may run out on the way. -/
theorem allRecordPages_on (hlength : (s.visible caller).length < 2 ^ 64) (query : RecordQuery)
    (size : UInt64) : ∃ pages later, (allRecordPages caller query size).on s = (.ok pages, later)
      ∧ Lists s caller query (pages.flatMap (·.items)) := by
  -- What every call keeps is that nothing has been done but looking at the clock.
  have hcall : ∀ number t, (∃ looks, t = tick^[looks] s) → ∃ page later,
      (listRecords caller query number size).on t = (.ok page, later)
        ∧ CutOut s caller query size number page ∧ ∃ looks, later = tick^[looks] s := by
    rintro number t ⟨looks, rfl⟩
    obtain ⟨page, later, hpage, hcut⟩ := cutOut_listRecords s caller query size number looks
    exact ⟨page, _, hpage, hcut, later, rfl⟩
  obtain ⟨first, t, hfirst, hcut, ht⟩ := hcall 1 s ⟨0, rfl⟩
  obtain ⟨more, later, hmore, hcuts, -⟩ :=
    Attempt.on_mapM_of_keeps hcall (pageNumbers first.pagesAvailable).tail ht
  refine ⟨first :: more, later, ?_, ?_⟩
  · rw [allRecordPages, Attempt.on_bind_ok hfirst, Attempt.on_bind_ok hmore]
    rfl
  · have hall : List.Forall₂ (CutOut s caller query size) (pageNumbers first.pagesAvailable)
        (first :: more) := by
      obtain ⟨rest, hnumbers⟩ := exists_pageNumbers_eq first.pagesAvailable
      rw [hnumbers] at hcuts ⊢
      exact .cons hcut hcuts
    obtain ⟨hids, hread⟩ := cutOut_flatMap hall
    have hwanted : ((s.wantedRecords caller query).map (·.1)).length < 2 ^ 64 := by
      rw [List.length_map]
      exact Nat.lt_of_le_of_lt (List.length_filter_le ..) hlength
    rw [hcut.pagesAvailable, flatMap_pages hwanted] at hids
    exact lists_of_ids hids hread

/-! ## A listing and its records -/

/-- Where no lease runs out in the meantime, a row is what the caller would have been answered at
the start. -/
theorem getRecord_of_readAt (hholder : ∀ looks id, (tick^[looks] s).holder id = s.holder id)
    {looks : Nat} {row : RuleRecord} (h : ReadAt s caller looks row) :
    ((getRecord caller row.id).on s).1 = .ok row := by
  rw [ReadAt, getRecord_eq_ok_iff, existing?_iterate_tick, hholder, record_iterate_tick] at h
  exact getRecord_eq_ok_iff.mpr h

/-- **A listing holds what asking for the records one by one would have given.** Whoever asks for
every record that can be got, from the newest to the oldest, and keeps those that the query selects,
has the list that the pages are cut out of, whether or not the creator that the query names is
known. Each row is an answer of the moment of its making, and the answer of the start if no lease
runs out meanwhile. And going through all pages gives each of those records once, as long as words
have room for their count. -/
theorem listed_as_read (s : MemoryStore) (caller : Caller) (query : RecordQuery) :
    (∃ (ids : List Int64) (records : List RuleRecord) (later : MemoryStore),
      ids.Pairwise (fun a b => b < a)
        ∧ (∀ id, id ∈ ids ↔ ∃ record, ((getRecord caller id).on s).1 = .ok record)
        ∧ (ids.mapM (getRecord caller)).on s = (.ok records, later)
        ∧ Lists s caller query (records.filter query.selects)
        ∧ ∀ number size, ((listRecords caller query number size).on s).1
            = .ok (paginate (records.filter query.selects) number size))
      ∧ ((∀ looks id, (tick^[looks] s).holder id = s.holder id) →
        ∀ number size page, ((listRecords caller query number size).on s).1 = .ok page →
          ∀ row ∈ page.items, ((getRecord caller row.id).on s).1 = .ok row)
      ∧ ((s.visible caller).length < 2 ^ 64 → ∀ size, ∃ pages later,
        (allRecordPages caller query size).on s = (.ok pages, later)
          ∧ Lists s caller query (pages.flatMap (·.items))) := by
  have hlists := lists_rows s caller query
  refine ⟨⟨(s.visible caller).map (·.1), rows caller s (s.visible caller), _, ?_, fun id => ?_,
    mapM_getRecord_on fun e he => mem_visible_iff.mp he, hlists,
    listRecords_answer caller s query⟩, ?_, fun hlength => allRecordPages_on hlength query⟩
  · exact List.pairwise_map.mpr (visible_descending s caller)
  · exact mem_ids_visible_iff
  · intro hholder number size page hpage row hrow
    rw [listRecords_answer] at hpage
    cases hpage
    obtain ⟨looks, hread⟩ := hlists.read row (mem_of_mem_paginate hrow)
    exact getRecord_of_readAt hholder hread

/-- Bob, who is not bound to a tenant, lists two records, one to a page. No lease runs out, as there
is no term. -/
theorem listed_as_read_twoTenants :
    (∀ looks id, (tick^[looks] twoTenants.store).holder id = twoTenants.store.holder id)
      ∧ (∀ page, ((listRecords bob {} 2 1).on twoTenants.store).1 = .ok page →
        ∀ row ∈ page.items, ((getRecord bob row.id).on twoTenants.store).1 = .ok row)
      ∧ (twoTenants.store.visible bob).length = 2
      ∧ ∃ pages later, (allRecordPages bob {} 1).on twoTenants.store = (.ok pages, later)
        ∧ pages.map (fun page => page.items.map (·.id)) = [[2], [1]]
        ∧ Lists twoTenants.store bob {} (pages.flatMap (·.items)) := by
  obtain ⟨-, hsame, hall⟩ := listed_as_read twoTenants.store bob {}
  have hholder : ∀ looks id,
      (tick^[looks] twoTenants.store).holder id = twoTenants.store.holder id := by
    intro looks id
    rw [holder, iterate_tick_leases]
    exact LeaseTable.holder_eq_holder (by decide) ..
  have htwo : (twoTenants.store.visible bob).length = 2 := by decide
  obtain ⟨pages, later, hpages, hlists⟩ := hall (by rw [htwo]; decide) 1
  have hids : ((allRecordPages bob {} 1).on twoTenants.store).1.map
      (fun pages => pages.map fun page => page.items.map (·.id)) = .ok [[2], [1]] := by decide
  rw [hpages] at hids
  exact ⟨hholder, hsame hholder 2 1, htwo, pages, later, hpages, Except.ok.inj hids, hlists⟩

end MemoryStore
end Whitelist
