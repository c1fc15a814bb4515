import Mathlib.Data.Fintype.Card
import Whitelist.Proofs.Console.Browse
import Whitelist.Proofs.Store.Run

/-!
# Both levels of browsing over the in-process store

The upper level counts the records of each scope by going through them once and gathering groups.
The lower level lists the records of one scope by a filter on all of them. Whatever codes the
records have, each of the two ways meets every record that the caller sees, so a group counts as
many records as the list that it leads to, and all groups together count each record once.

## What is here

* `wanted`, `groups_eq` — the groups of the store as a list gathered by scope.
* `mem_scopes_groups_iff` — there is a group for each scope of the records.
* `count_of_mem_groups`, `total_groups` — what a group counts, and what all of them count.
* `listGroups_session_on`, `listDetail_session_on` — the two levels over the store.
* `length_visible_lt` — words have room for every count, unless a record is stored under each id.
* `views_agree` — the two levels agree.

The store goes by scopes at both levels, which is why they agree. At the upper level that is
`gather`, whose counts are known from `Proofs.Group`; at the lower level it is `RecordQuery.selects`
on rows. Both are reduced to counting records with a property (`List.countP`) in the list of visible
records.
-/

set_option autoImplicit false
namespace Whitelist
namespace MemoryStore

open RuleGroup Console

variable {s : MemoryStore} {caller : Caller} {query : GroupQuery} {scope : Scope}

/-! ## The groups of the store

Each record is a group of one, and groups of one scope are added up. -/

/-- The records that a caller sees and a query for groups wants. -/
def wanted (s : MemoryStore) (caller : Caller) (query : GroupQuery) : List (Int64 × StoredRule) :=
  (s.visible caller).filter fun (_, rule) => query.selects rule.content.code

/-- A query without codes wants every record. -/
theorem wanted_all (s : MemoryStore) (caller : Caller) : s.wanted caller {} = s.visible caller :=
  List.filter_eq_self.mpr fun _ _ => rfl

/-- The records as groups of one record each. -/
def groupsOf (s : MemoryStore) (l : List (Int64 × StoredRule)) : List RuleGroup :=
  l.map fun (_, rule) => s.groupOf rule

/-- The fold of the store is the one of `gather`. -/
theorem groups_eq (s : MemoryStore) (caller : Caller) (query : GroupQuery) :
    s.groups caller query
      = globalFirst (gather (fun g => g) (s.groupsOf (s.wanted caller query))) := by
  rw [gather, groupsOf, List.foldl_map]
  rfl

/-- A record has the scope of its code. -/
theorem scopes_groupsOf (s : MemoryStore) (l : List (Int64 × StoredRule)) :
    scopes (s.groupsOf l) = l.map (·.2.scope) := List.map_map

theorem mem_scopes_gather_groupsOf (s : MemoryStore) (l : List (Int64 × StoredRule)) :
    scope ∈ scopes (gather (fun g => g) (s.groupsOf l)) ↔ ∃ e ∈ l, e.2.scope = scope := by
  rw [mem_scopes_gather fun _ => rfl, scopes_groupsOf, List.mem_map]

theorem countOf_groupsOf (s : MemoryStore) (l : List (Int64 × StoredRule)) (scope : Scope) :
    countOf scope (s.groupsOf l) = .ofNat (l.countP fun e => e.2.scope = scope) := by
  have hone : ∀ g ∈ s.groupsOf l, g.count = 1 := by
    intro g hg
    obtain ⟨e, -, rfl⟩ := List.mem_map.mp hg
    rfl
  rw [countOf_of_ones hone, groupsOf, List.countP_map]
  rfl

theorem total_groupsOf (s : MemoryStore) (l : List (Int64 × StoredRule)) :
    total (s.groupsOf l) = l.length := by
  induction l with
  | nil => rfl
  | cons e rest ih =>
    show 1 + total (s.groupsOf rest) = rest.length + 1
    rw [ih, Nat.add_comm]

/-- No scope has two groups. -/
theorem nodup_scopes_groups (s : MemoryStore) (caller : Caller) (query : GroupQuery) :
    (scopes (s.groups caller query)).Nodup := by
  rw [groups_eq]
  exact ((globalFirst_perm _).map _).nodup_iff.mpr (nodup_scopes_gather (fun _ => rfl) _)

/-- The group of the global scope is in front. -/
theorem globalsFirst_groups (s : MemoryStore) (caller : Caller) (query : GroupQuery) :
    GlobalsFirst (s.groups caller query) := by
  rw [groups_eq]
  exact globalsFirst_globalFirst _

theorem length_groups_le (s : MemoryStore) (caller : Caller) (query : GroupQuery) :
    (s.groups caller query).length ≤ (s.visible caller).length := by
  rw [groups_eq, (globalFirst_perm _).length_eq]
  refine Nat.le_trans (length_gather_le (fun _ => rfl) _) ?_
  rw [groupsOf, List.length_map]
  exact List.length_filter_le ..

theorem selects_congr {code code' : String} (h : Scope.ofCode code = Scope.ofCode code') :
    query.selects code = query.selects code' := by
  rw [GroupQuery.selects, GroupQuery.selects, h]

/-- A query that wants one record of a scope wants all of them. -/
theorem countP_wanted {e : Int64 × StoredRule} (he : e ∈ s.wanted caller query) :
    (s.wanted caller query).countP (fun e' => e'.2.scope = e.2.scope)
      = (s.visible caller).countP fun e' => e'.2.scope = e.2.scope := by
  have hselected : query.selects e.2.content.code = true := (List.mem_filter.mp he).2
  rw [wanted, List.countP_filter]
  refine List.countP_congr fun e' _ => ?_
  rw [Bool.and_eq_true, and_iff_left_iff_imp]
  intro hscope
  have hsame : Scope.ofCode e'.2.content.code = Scope.ofCode e.2.content.code :=
    of_decide_eq_true hscope
  exact (selects_congr hsame).trans hselected

/-- A group counts the records of its scope that are wanted. -/
theorem count_eq_countP_wanted {group : RuleGroup} (h : group ∈ s.groups caller query) :
    group.count = .ofNat ((s.wanted caller query).countP fun e => e.2.scope = group.scope) := by
  rw [groups_eq, (globalFirst_perm _).mem_iff] at h
  rw [count_of_mem_gather (fun _ => rfl) (fun _ => rfl) h, countOf_groupsOf]

/-- The scopes of the groups are those of the records that are wanted. -/
theorem mem_scopes_groups_iff :
    scope ∈ scopes (s.groups caller query) ↔ ∃ e ∈ s.wanted caller query, e.2.scope = scope := by
  rw [groups_eq, scopes, ((globalFirst_perm _).map _).mem_iff]
  exact mem_scopes_gather_groupsOf s _

/-- A group counts all records of its scope that the caller sees. -/
theorem count_of_mem_groups {group : RuleGroup} (h : group ∈ s.groups caller query) :
    group.count = .ofNat ((s.visible caller).countP fun e => e.2.scope = group.scope) := by
  obtain ⟨e, he, hes⟩ := mem_scopes_groups_iff.mp (mem_scopes h)
  rw [count_eq_countP_wanted h, ← hes, countP_wanted he]

/-- All groups together count each record that is wanted, where words have room for that. -/
theorem total_groups (hvisible : (s.visible caller).length < 2 ^ 64) :
    total (s.groups caller query) = (s.wanted caller query).length := by
  have hones := total_groupsOf s (s.wanted caller query)
  have hwanted : (s.wanted caller query).length < 2 ^ 64 :=
    Nat.lt_of_le_of_lt (List.length_filter_le ..) hvisible
  rw [groups_eq, total_perm (globalFirst_perm _),
    total_gather (fun _ => rfl) (fun _ => rfl) (countsFit_of_total (hones ▸ hwanted)), hones]

/-! ## The upper level

The store has merged already what the console would merge, so its rows are only shown under their
canonical codes. -/

/-- A page of the upper level: a page of the groups of the store under canonical codes. -/
def groupPage (s : MemoryStore) (caller : Caller) (filter : GroupQuery) (number size : UInt64) :
    Page RuleGroup :=
  let answer := paginate (s.groups caller ⟨storeCodes filter.codes⟩) number size
  .new answer.totalCount answer.pageNumber size (normalizeGroups answer.items)

/-- A page of groups has no scope twice either. -/
theorem nodup_scopes_paginate {groups : List RuleGroup} (hnodup : (scopes groups).Nodup)
    (number size : UInt64) : (scopes (paginate groups number size).items).Nodup :=
  hnodup.sublist ((paginate_sublist groups number size).map _)

theorem normalizeGroups_page_perm (s : MemoryStore) (caller : Caller) (query : GroupQuery)
    (number size : UInt64) :
    (normalizeGroups (paginate (s.groups caller query) number size).items).Perm
      ((paginate (s.groups caller query) number size).items.map canonical) :=
  normalizeGroups_perm (nodup_scopes_paginate (nodup_scopes_groups s caller query) number size)

/-- Over the in-process store the upper level merges no rows. -/
theorem listGroups_session_on (s : MemoryStore) (caller : Caller) (filter : GroupQuery)
    (number size : UInt64) :
    (Console.listGroups (session caller) filter number size).on s
      = (.ok (s.groupPage caller filter number size), s) :=
  listGroups_on_of_nodup (listGroups_on caller s ⟨storeCodes filter.codes⟩ number size)
    (nodup_scopes_paginate (nodup_scopes_groups s caller ⟨storeCodes filter.codes⟩) number size)

/-- A row of the upper level counts all records of its scope that the caller sees. -/
theorem count_of_mem_groupPage {filter : GroupQuery} {number size : UInt64} {group : RuleGroup}
    (h : group ∈ (s.groupPage caller filter number size).items) :
    group.count = .ofNat ((s.visible caller).countP fun e => e.2.scope = group.scope) := by
  have hrows := normalizeGroups_page_perm s caller ⟨storeCodes filter.codes⟩ number size
  obtain ⟨g, hg, rfl⟩ := List.mem_map.mp (hrows.mem_iff.mp h)
  rw [scope_canonical]
  exact count_of_mem_groups (mem_of_mem_paginate hg)

theorem total_map_canonical (groups : List RuleGroup) :
    total (groups.map canonical) = total groups := by
  rw [total, List.map_map]
  rfl

/-- All pages together count each record that the caller sees. -/
theorem sum_total_groupPage (hvisible : (s.visible caller).length < 2 ^ 64) (size : UInt64) :
    ((pageNumbers (s.groupPage caller {} 1 size).pagesAvailable).map
      fun number => total (s.groupPage caller {} number size).items).sum
      = (s.visible caller).length := by
  have hlength := Nat.lt_of_le_of_lt (length_groups_le s caller {}) hvisible
  have hpage (number : UInt64) : total (s.groupPage caller {} number size).items
      = total (paginate (s.groups caller {}) number size).items :=
    (total_perm (normalizeGroups_page_perm s caller {} number size)).trans (total_map_canonical _)
  have havailable : (s.groupPage caller {} 1 size).pagesAvailable
      = pageCount (.ofNat (s.groups caller {}).length) size := by
    show pageCount (paginate (s.groups caller {}) 1 size).totalCount size = _
    rw [paginate_totalCount]
  simp only [hpage]
  rw [havailable, ← total_flatMap, flatMap_pages hlength, total_groups hvisible,
    wanted_all]

theorem allGroupPages_session_on (s : MemoryStore) (caller : Caller) (size : UInt64) :
    (allGroupPages (session caller) size).on s
      = (.ok ((pageNumbers (s.groupPage caller {} 1 size).pagesAvailable).map
          fun number => s.groupPage caller {} number size), s) := by
  rw [allGroupPages, Attempt.on_bind_ok (listGroups_session_on s caller {} 1 size)]
  exact Attempt.on_mapM (fun number => listGroups_session_on s caller {} number size) _

/-! ## The lower level

The console filters the answer of the store by the scope that it has asked for, which takes nothing
away here. -/

theorem map_scope_rows (s : MemoryStore) (caller : Caller) (l : List (Int64 × StoredRule)) :
    (rows caller s l).map RuleRecord.scope = l.map (·.2.scope) := by
  induction l generalizing s with
  | nil => rfl
  | cons e rest ih =>
    rw [List.map_cons, ← ih s.tick]
    rfl

/-- A query for a code selects by scope. -/
theorem selects_forCode (code : String) (record : RuleRecord) :
    (RecordQuery.forCode code).selects record = decide (record.scope = .ofCode code) := by
  simp [RecordQuery.selects, RecordQuery.forCode, RecordQuery.meets, eq_comm]

/-- The records of a scope that the caller sees, as rows. -/
def scopeRows (s : MemoryStore) (caller : Caller) (scope : Scope) : List RuleRecord :=
  (rows caller s (s.visible caller)).filter fun record => record.scope = scope

theorem length_scopeRows (s : MemoryStore) (caller : Caller) (scope : Scope) :
    (s.scopeRows caller scope).length
      = (s.visible caller).countP fun e => e.2.scope = scope := by
  have hcount := congrArg (List.countP fun x => decide (x = scope))
    (map_scope_rows s caller (s.visible caller))
  rw [List.countP_map, List.countP_map] at hcount
  rw [scopeRows, ← List.countP_eq_length_filter]
  exact hcount

/-- The records of a scope that the caller sees, as rows, narrowed by name if that is wanted. -/
def detailRows (s : MemoryStore) (caller : Caller) (scope : Scope) (name : Option String) :
    List RuleRecord :=
  (rows caller s (s.visible caller)).filter
    ((RecordQuery.forCode scope.code).withRuleName name).selects

theorem scope_of_selects {code : String} {name : Option String} {record : RuleRecord}
    (h : ((RecordQuery.forCode code).withRuleName name).selects record = true) :
    record.scope = .ofCode code := by
  simp only [RecordQuery.selects, Bool.and_eq_true] at h
  exact (of_decide_eq_true h.1.1.1.1).symm

/-- Over the in-process store the lower level drops no rows. -/
theorem listDetail_named_on (s : MemoryStore) (caller : Caller) (code : String)
    (name : Option String) (number size : UInt64) :
    (Console.listDetail (session caller) code name number size).on s
      = (.ok (paginate (s.detailRows caller (.ofCode code) name) number size),
        tick^[(s.visible caller).length] s) := by
  have hscope : ∀ row ∈ (paginate (s.detailRows caller (.ofCode code) name) number size).items,
      row.scope = .ofCode code := by
    intro row hrow
    rw [scope_of_selects (List.mem_filter.mp (mem_of_mem_paginate hrow)).2,
      Scope.ofCode_code_ofCode]
  -- A query of the console names no creator, so the store goes through all records.
  have hanswer : ((session caller).listRecords
      ((RecordQuery.forCode (Scope.ofCode code).code).withRuleName name) number size).on s
        = (.ok (paginate (s.detailRows caller (.ofCode code) name) number size),
          tick^[(s.visible caller).length] s) := by
    show (MemoryStore.listRecords caller
      ((RecordQuery.forCode (Scope.ofCode code).code).withRuleName name) number size).on s = _
    rw [listRecords_on, if_neg (by exact Bool.false_ne_true)]
    rfl
  rw [Console.listDetail, Attempt.on_bind_ok hanswer, withinScope_eq_self hscope]
  rfl

/-- Without a name nothing is narrowed. -/
theorem detailRows_none (s : MemoryStore) (caller : Caller) (code : String) :
    s.detailRows caller (.ofCode code) none = s.scopeRows caller (.ofCode code) := by
  refine List.filter_congr fun record _ => ?_
  show (RecordQuery.forCode (Scope.ofCode code).code).selects record = _
  rw [selects_forCode, Scope.ofCode_code_ofCode]

theorem listDetail_session_on (s : MemoryStore) (caller : Caller) (code : String)
    (number size : UInt64) :
    (Console.listDetail (session caller) code none number size).on s
      = (.ok (paginate (s.scopeRows caller (.ofCode code)) number size),
        tick^[(s.visible caller).length] s) := by
  rw [listDetail_named_on, detailRows_none]

/-! ## Room for every count

A store whose ids are all in use has `2 ^ 64` records, one more than a word can count. -/

/-- The ids of a table that leaves one of them free are fewer than there are words. -/
theorem length_entries_lt {α : Type} {table : Table α} {id : Int64}
    (hfree : table.find? id = none) : table.entries.length < 2 ^ 64 := by
  have hids : (table.entries.map (·.1)).Nodup :=
    (List.pairwise_map.mpr table.ascending).imp Int64.ne_of_lt
  have hmissing : id ∉ table.entries.map (·.1) := by
    intro hid
    obtain ⟨⟨_, a⟩, hentry, rfl⟩ := List.mem_map.mp hid
    rw [(table.mem_entries_iff _ a).mp hentry] at hfree
    cases hfree
  have hwords : Function.Injective fun id : Int64 => id.toBitVec.toFin := fun _ _ h =>
    Int64.toBitVec_inj.mp (BitVec.toFin_inj.mp h)
  have hcard := ((List.nodup_cons.mpr ⟨hmissing, hids⟩).map hwords).length_le_card
  rwa [Fintype.card_fin, List.length_map, List.length_cons, List.length_map] at hcard

theorem length_visible_lt {id : Int64} (hfree : s.rules.find? id = none) :
    (s.visible caller).length < 2 ^ 64 := by
  rw [visible, List.length_reverse]
  exact Nat.lt_of_le_of_lt (List.length_filter_le ..) (length_entries_lt hfree)

/-! ## The two levels together -/

/-- **Both levels count the same records.** Whatever codes the records have, whatever is asked of
the upper level and on whichever page: the upper level answers, and selecting one of its rows makes
the query that the lower level sends for the code of that row, under every name. Without a name, the
lower level answers with as many records as the row counts, all of the scope of the row. All pages
of the whole upper level together count each record that the caller sees once.

Counts are words. The last part therefore leaves out a store with a record under each of the
`2 ^ 64` ids there are. -/
theorem views_agree (s : MemoryStore) (caller : Caller) :
    (∀ (filter : GroupQuery) (number size : UInt64), ∃ page,
      (Console.listGroups (session caller) filter number size).on s = (.ok page, s)
        ∧ ∀ group ∈ page.items,
          (∀ (name : Option String) (n z : UInt64) (calls : List StoreCall),
            ((listDetail (session caller).recorded group.code name n z).on (s, calls)).2.2
              = calls ++ [.listRecords ((selectGroup group).query name) n z])
          ∧ ∀ n z : UInt64, ∃ detail,
              ((listDetail (session caller) group.code none n z).on s).1 = .ok detail
                ∧ detail.totalCount = group.count
                ∧ ∀ row ∈ detail.items, row.scope = group.scope)
    ∧ ((∃ id, s.rules.find? id = none) → ∀ size : UInt64, ∃ pages,
        (allGroupPages (session caller) size).on s = (.ok pages, s)
          ∧ (pages.map fun page => total page.items).sum = (s.visible caller).length) := by
  refine ⟨fun filter number size => ?_, fun ⟨_, hfree⟩ size => ?_⟩
  · refine ⟨s.groupPage caller filter number size, listGroups_session_on .., fun group hgroup => ?_⟩
    refine ⟨fun name n z calls => listDetail_calls .., fun n z => ?_⟩
    refine ⟨paginate (s.scopeRows caller group.scope) n z, ?_, ?_, fun row hrow => ?_⟩
    · rw [listDetail_session_on]
      rfl
    · rw [paginate_totalCount, length_scopeRows, count_of_mem_groupPage hgroup]
    · exact of_decide_eq_true (List.mem_filter.mp (mem_of_mem_paginate hrow)).2
  · refine ⟨_, allGroupPages_session_on s caller size, ?_⟩
    rw [List.map_map]
    exact sum_total_groupPage (length_visible_lt hfree) size

/-- Bob's two records beside Alice's: one under the other code of the global scope, one under a code
of a rule. -/
def mixed : Run :=
  (drafted .grab).followedBy
    [.ask bob (.saveRecord ⟨none, { code := "GLOBAL_CONFIG", name := "all" }⟩),
      .ask bob (.saveRecord ⟨none, { code := "R1", name := "one" }⟩)]

/-- The global scope has two records, under its two codes. -/
theorem views_agree_mixed :
    ∃ page group, (Console.listGroups (session bob) {} 1 1).on mixed.store = (.ok page, mixed.store)
      ∧ page.items = [group] ∧ group.scope = .global ∧ group.count = 2
      ∧ (∃ detail, ((listDetail (session bob) group.code none 1 1).on mixed.store).1 = .ok detail
          ∧ detail.totalCount = 2)
      ∧ mixed.store.rules.find? 4 = none
      ∧ ∃ pages, (allGroupPages (session bob) 1).on mixed.store = (.ok pages, mixed.store)
          ∧ (pages.map fun page => total page.items).sum = 3 := by
  obtain ⟨hrows, htotal⟩ := views_agree mixed.store bob
  obtain ⟨page, hpage, hgroups⟩ := hrows {} 1 1
  have hfirst : page = mixed.store.groupPage bob {} 1 1 := by
    rw [listGroups_session_on] at hpage
    cases hpage
    rfl
  have hitems : page.items = [⟨globalCode, globalDisplayName, 2⟩] := by
    rw [hfirst]
    decide
  have hfree : mixed.store.rules.find? 4 = none := by decide
  have hseen : (mixed.store.visible bob).length = 3 := by decide
  obtain ⟨-, hdetail⟩ := hgroups _ (hitems ▸ List.mem_singleton.mpr rfl)
  obtain ⟨detail, hanswer, hcount, -⟩ := hdetail 1 1
  refine ⟨page, _, hpage, hitems, by decide, rfl, ⟨detail, hanswer, hcount⟩, hfree, ?_⟩
  rw [← hseen]
  exact htotal ⟨4, hfree⟩ 1

end MemoryStore
end Whitelist
