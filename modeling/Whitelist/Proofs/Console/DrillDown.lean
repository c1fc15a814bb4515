import Whitelist.Proofs.Console.Options

/-!
# From a group to its records, over a store that compares codes literally

A store may know nothing of scopes: it has a group for each text of a code, and a query for one code
brings the records with that very text. The upper level asks such a store for the global scope under
both of its codes, and adds the two groups up. The lower level asks for the records of one code
only, so the records under the older code are counted above and missing below.

## What is here

* `LiteralGroups`, `ComparesLiterally` — the groups and the listings of such a store.
* `count_of_mem_normalizeGroups` — what a row of the upper level counts.
* `literal_drill_down` — what the lower level counts for it, and when that is the same.
* `literally`, `literal_drill_down_differs` — a store where it is not.

The in-process store answers by scopes and is not one of these; for it the two levels agree
(`Proofs.Store.Browse`). What is said here is about every store of the other kind, given by
`ComparesLiterally`: the answers to the two queries are described, and nothing else is known.
Whether the two levels agree then comes down to arithmetic on one list of records, where
`countP_code_eq_iff` splits the records of a scope by the text of their codes.
-/

set_option autoImplicit false
namespace Whitelist.Console

open RuleGroup

variable {σ : Type} {store : RuleStore σ} {holds : σ → Prop} {records : List RuleRecord}
  {rows : List RuleGroup} {codes : List String} {scope : Scope}

/-! ## Stores that compare codes literally

The groups are described and not computed, so that a store may list them in any order and under any
labels. -/

/-- The groups of records by the text of their codes, for all codes or for those that are given. -/
structure LiteralGroups (records : List RuleRecord) (codes : List String) (rows : List RuleGroup) :
    Prop where
  /-- No text of a code has two groups. -/
  nodup : (rows.map (·.code)).Nodup
  /-- There are groups for the records whose codes are asked for. -/
  mem_codes (code : String) : code ∈ rows.map (·.code)
    ↔ (codes = [] ∨ code ∈ codes) ∧ ∃ record ∈ records, record.content.code = code
  /-- A group counts the records with its code. -/
  count : ∀ row ∈ rows,
    row.count = .ofNat (records.countP fun record => record.content.code = row.code)

/-- As long as its state is as it has to be, the store answers with pages of the literal groups of
the records, and with pages of the records that have the very code that is asked for. -/
structure ComparesLiterally (store : RuleStore σ) (holds : σ → Prop) (records : List RuleRecord) :
    Prop where
  listGroups_on (codes : List String) (number size : UInt64) (s : σ) : holds s → ∃ rows t,
    LiteralGroups records codes rows
      ∧ (store.listGroups ⟨codes⟩ number size).on s = (.ok (paginate rows number size), t)
      ∧ holds t
  listRecords_on (code : String) (number size : UInt64) (s : σ) : holds s → ∃ t,
    (store.listRecords (.forCode code) number size).on s
        = (.ok (paginate (records.filter fun record => record.content.code = code) number size), t)
      ∧ holds t

/-! ## What is counted above

The upper level merges the groups of a scope, so its row counts the records of all codes of the
scope that were asked for. -/

/-- What is counted in two parts that have nothing in common. -/
theorem countP_eq_add {α : Type} {p q r : α → Bool} (l : List α)
    (hr : ∀ a, r a = true ↔ p a = true ∨ q a = true) (hpq : ∀ a, p a = true → q a = false) :
    l.countP r = l.countP p + l.countP q := by
  induction l with
  | nil => rfl
  | cons a rest ih =>
    rw [List.countP_cons, List.countP_cons, List.countP_cons, ih]
    by_cases hp : p a = true
    · simp [hp, hpq a hp, (hr a).mpr (.inl hp)]
      omega
    · by_cases hq : q a = true
      · simp [hp, hq, (hr a).mpr (.inr hq)]
        omega
      · have hnone : ¬ r a = true := fun h => ((hr a).mp h).elim hp hq
        simp [hp, hq, hnone]

/-- The groups of a scope together count the records of the scope whose codes have a group. -/
theorem countOf_eq_countP (hnodup : (rows.map (·.code)).Nodup) (hcount : ∀ row ∈ rows,
      row.count = .ofNat (records.countP fun record => record.content.code = row.code)) :
    countOf scope rows = .ofNat (records.countP fun record =>
      record.scope = scope ∧ record.content.code ∈ rows.map (·.code)) := by
  induction rows with
  | nil => simp [countOf]
  | cons row rest ih =>
    obtain ⟨hnew, hrest⟩ := List.nodup_cons.mp hnodup
    have ih := ih hrest fun d hd => hcount d (List.mem_cons_of_mem row hd)
    have hscope_of {record : RuleRecord} (h : record.content.code = row.code) :
        record.scope = row.scope := congrArg Scope.ofCode h
    rw [countOf, ih]
    by_cases hscope : row.scope = scope
    · -- The records under this code, and those under the codes of the other groups.
      rw [if_pos hscope, hcount row List.mem_cons_self, ← UInt64.ofNat_add]
      refine congrArg UInt64.ofNat (countP_eq_add records ?_ ?_).symm
      · intro record
        simp only [decide_eq_true_eq, List.map_cons, List.mem_cons]
        constructor
        · rintro ⟨hrecord, hcode | hcode⟩
          · exact .inl hcode
          · exact .inr ⟨hrecord, hcode⟩
        · rintro (hcode | ⟨hrecord, hcode⟩)
          · exact ⟨(hscope_of hcode).trans hscope, .inl hcode⟩
          · exact ⟨hrecord, .inr hcode⟩
      · intro record hcode
        have hcode := of_decide_eq_true hcode
        simp [hcode, hnew]
    · rw [if_neg hscope]
      refine congrArg UInt64.ofNat (List.countP_congr fun record _ => ?_)
      simp only [decide_eq_true_eq, List.map_cons, List.mem_cons]
      refine and_congr_right fun hrecord => (or_iff_right fun hcode => hscope ?_).symm
      rw [← hscope_of hcode, hrecord]

/-- Where a scope has a group at all, each of its records is in a group: a scope is asked for under
all of its codes. -/
theorem LiteralGroups.mem_of_scope {selected : List String}
    (h : LiteralGroups records (storeCodes selected) rows) {row : RuleGroup} (hrow : row ∈ rows)
    {record : RuleRecord} (hrecord : record ∈ records) (hscope : record.scope = row.scope) :
    record.content.code ∈ rows.map (·.code) := by
  have hsame : Scope.ofCode record.content.code = Scope.ofCode row.code := hscope
  obtain ⟨hasked, -⟩ := (h.mem_codes row.code).mp (List.mem_map_of_mem hrow)
  refine (h.mem_codes _).mpr ⟨?_, record, hrecord, rfl⟩
  rwa [mem_storeCodes, hsame, ← mem_storeCodes]

/-- **A row of the upper level counts all records of its scope**, under whatever codes. -/
theorem count_of_mem_normalizeGroups {selected : List String}
    (h : LiteralGroups records (storeCodes selected) rows) {group : RuleGroup}
    (hgroup : group ∈ normalizeGroups rows) :
    group.count = .ofNat (records.countP fun record => record.scope = group.scope) := by
  rw [normalizeGroups_eq, (globalFirst_perm _).mem_iff] at hgroup
  obtain ⟨row, hrow, hscope⟩ : ∃ row ∈ rows, row.scope = group.scope := by
    have hmem := mem_scopes hgroup
    rw [mem_scopes_gather scope_canonical] at hmem
    exact List.mem_map.mp hmem
  rw [count_of_mem_gather scope_canonical (fun _ => rfl) hgroup,
    countOf_eq_countP h.nodup h.count]
  refine congrArg UInt64.ofNat (List.countP_congr fun record hrecord => ?_)
  simp only [decide_eq_true_eq]
  exact and_iff_left_of_imp fun hsame => h.mem_of_scope hrow hrecord (hsame.trans hscope.symm)

/-! ## What is counted below

The lower level sends one code, the canonical one of the scope, and keeps of the answer what is of
that scope. Nothing is lost in that second step (`listDetail_literal_on`). -/

/-- The records under the canonical code of a scope are all records of the scope, unless it is the
global one, and there is a record under the older code. -/
theorem countP_code_eq_iff (records : List RuleRecord) (hscope : Scope.ofCode scope.code = scope) :
    records.countP (fun record => record.content.code = scope.code)
        = records.countP (fun record => record.scope = scope)
      ↔ (scope = .global → ∀ record ∈ records, record.content.code ≠ legacyGlobalCode) := by
  have hsplit : records.countP (fun record => record.scope = scope)
      = records.countP (fun record => record.content.code = scope.code)
        + records.countP (fun record =>
          scope = .global ∧ record.content.code = legacyGlobalCode) := by
    refine countP_eq_add records (fun record => ?_) fun record hcode => ?_
    · simp only [decide_eq_true_eq]
      constructor
      · intro hrecord
        have hsame : Scope.ofCode record.content.code = Scope.ofCode scope.code :=
          hrecord.trans hscope.symm
        rcases eq_or_global_of_ofCode_eq hsame with heq | ⟨hcode, hglobal⟩
        · exact .inl heq
        · have hscope : scope = .global := by rw [← hscope, Scope.ofCode, if_pos hglobal]
          subst hscope
          exact (eq_or_eq_of_isGlobalCode hcode).imp_right fun h => ⟨rfl, h⟩
      · rintro (hcode | ⟨rfl, hcode⟩)
        · exact (congrArg Scope.ofCode hcode).trans hscope
        · exact (congrArg Scope.ofCode hcode).trans Scope.ofCode_legacyGlobal
    · have hcode := of_decide_eq_true hcode
      refine decide_eq_false fun hlegacy => ?_
      obtain ⟨rfl, hlegacy⟩ := hlegacy
      exact absurd (hcode.symm.trans hlegacy) (by decide)
  have hnone : records.countP (fun record =>
      scope = .global ∧ record.content.code = legacyGlobalCode) = 0
      ↔ (scope = .global → ∀ record ∈ records, record.content.code ≠ legacyGlobalCode) := by
    rw [List.countP_eq_zero]
    simp only [decide_eq_true_eq, not_and]
    exact ⟨fun h hglobal record hrecord => h record hrecord hglobal,
      fun h record hrecord hglobal => h hglobal record hrecord⟩
  rw [← hnone]
  omega

/-- The lower level over such a store: the records with the very code of the row. -/
theorem listDetail_literal_on (hstore : ComparesLiterally store holds records) (code : String)
    (number size : UInt64) {s : σ} (hs : holds s) : ∃ t,
    (listDetail store code none number size).on s
        = (.ok (paginate (records.filter fun record =>
            record.content.code = (Scope.ofCode code).code) number size), t)
      ∧ holds t := by
  obtain ⟨t, hanswer, ht⟩ := hstore.listRecords_on (Scope.ofCode code).code number size s hs
  refine ⟨t, ?_, ht⟩
  have hquery : (RecordQuery.forCode (Scope.ofCode code).code).withRuleName none
      = .forCode (Scope.ofCode code).code := rfl
  rw [listDetail, hquery, Attempt.on_bind_ok hanswer, withinScope_eq_self]
  · rfl
  · intro row hrow
    have hcode := of_decide_eq_true (List.mem_filter.mp (mem_of_mem_paginate hrow)).2
    exact (congrArg Scope.ofCode hcode).trans (Scope.ofCode_code_ofCode code)

/-! ## Both levels

The statement asks for a page with all groups on it, because rows on different pages are not merged.
-/

/-- There are no more literal groups than records. -/
theorem LiteralGroups.length_le (h : LiteralGroups records codes rows) :
    rows.length ≤ records.length := by
  have hsubset : rows.map (·.code) ⊆ records.map (·.content.code) := by
    intro code hcode
    obtain ⟨-, record, hrecord, rfl⟩ := (h.mem_codes code).mp hcode
    exact List.mem_map_of_mem hrecord
  simpa only [List.length_map] using (h.nodup.subperm hsubset).length_le

/-- **Over a store that compares codes literally, the lower level may count less than the upper
one.** On a page that has all groups, a row counts the records of its scope under whatever codes.
The list that the row leads to counts those under the canonical code of the scope. The two agree
exactly where the scope is that of a rule, or no record has the older code of the global scope. -/
theorem literal_drill_down (hstore : ComparesLiterally store holds records)
    (hroom : records.length < 2 ^ 64) (filter : GroupQuery) (number size : UInt64) {s : σ}
    (hs : holds s) : ∃ answer t,
      (store.listGroups ⟨storeCodes filter.codes⟩ number size).on s = (.ok answer, t) ∧ holds t
      ∧ (answer.items.length = answer.totalCount.toNat → ∃ page,
        (listGroups store filter number size).on s = (.ok page, t)
        ∧ ∀ group ∈ page.items,
          group.count.toNat = records.countP (fun record => record.scope = group.scope)
          ∧ ∀ n z, ∃ detail u, (listDetail store group.code none n z).on t = (.ok detail, u)
            ∧ detail.totalCount.toNat
              = records.countP (fun record => record.content.code = group.scope.code)
            ∧ (detail.totalCount = group.count ↔
              (group.scope = .global →
                ∀ record ∈ records, record.content.code ≠ legacyGlobalCode))) := by
  obtain ⟨rows, t, hrows, hanswer, ht⟩ :=
    hstore.listGroups_on (storeCodes filter.codes) number size s hs
  refine ⟨_, t, hanswer, ht, fun hall => ⟨_, Attempt.on_bind_ok hanswer, fun group hgroup => ?_⟩⟩
  have hroom' (p : RuleRecord → Bool) :
      (UInt64.ofNat (records.countP p)).toNat = records.countP p :=
    UInt64.toNat_ofNat_of_lt' (Nat.lt_of_le_of_lt List.countP_le_length hroom)
  have hitems := paginate_items_eq (Nat.lt_of_le_of_lt hrows.length_le hroom) hall
  have hgroup : group ∈ normalizeGroups rows := hitems ▸ hgroup
  have hcount := count_of_mem_normalizeGroups hrows hgroup
  have hcode := code_of_mem_normalizeGroups hgroup
  refine ⟨by rw [hcount, hroom'], fun n z => ?_⟩
  obtain ⟨u, hdetail, -⟩ := listDetail_literal_on hstore group.code n z ht
  have htotal : (paginate (records.filter fun record =>
      record.content.code = group.scope.code) n z).totalCount
      = .ofNat (records.countP fun record => record.content.code = group.scope.code) := by
    rw [paginate_totalCount, List.countP_eq_length_filter]
  refine ⟨_, u, hdetail, ?_, ?_⟩
  · exact (congrArg UInt64.toNat htotal).trans (hroom' _)
  · have hscope : Scope.ofCode group.scope.code = group.scope := by rw [← hcode]; rfl
    rw [← countP_code_eq_iff records hscope, hcount]
    refine (Eq.congr_left htotal).trans ?_
    rw [← UInt64.toNat_inj, hroom', hroom']

/-! ## A store where they differ

`literally` is as simple as such a store can be. It never changes and knows its records only. -/

/-- The literal groups of records, in the order in which their codes were last met. -/
def literalGroups (records : List RuleRecord) (codes : List String) : List RuleGroup :=
  let present := (records.map (·.content.code)).dedup.filter fun code => codes = [] ∨ code ∈ codes
  present.map fun code =>
    { code, count := .ofNat (records.countP fun record => record.content.code = code) }

/-- The records with the very code that is asked for. -/
def literalRecords (records : List RuleRecord) (query : RecordQuery) : List RuleRecord :=
  records.filter fun record => query.code.all fun code => record.content.code = code

/-- A store that holds these records and compares codes literally. -/
def literally (records : List RuleRecord) : RuleStore Unit where
  answer
    | .listGroups query number size =>
      return paginate (literalGroups records query.codes) number size
    | .listRecords query number size => return paginate (literalRecords records query) number size
    | call => (listing []).answer call

theorem literalGroups_spec (records : List RuleRecord) (codes : List String) :
    LiteralGroups records codes (literalGroups records codes) := by
  have hcodes : (literalGroups records codes).map (·.code)
      = (records.map (·.content.code)).dedup.filter fun code => codes = [] ∨ code ∈ codes := by
    rw [literalGroups, List.map_map]
    exact List.map_id _
  refine ⟨?_, fun code => ?_, fun row hrow => ?_⟩
  · rw [hcodes]
    exact (List.nodup_dedup _).filter _
  · rw [hcodes, List.mem_filter, List.mem_dedup, List.mem_map, decide_eq_true_eq]
    exact and_comm
  · obtain ⟨code, -, rfl⟩ := List.mem_map.mp hrow
    rfl

theorem comparesLiterally_literally (records : List RuleRecord) :
    ComparesLiterally (literally records) (fun _ => True) records where
  listGroups_on codes _ _ s _ := ⟨_, s, literalGroups_spec records codes, rfl, trivial⟩
  listRecords_on _ _ _ s _ := ⟨s, rfl, trivial⟩

/-- Two records of the global scope, under its two codes. -/
def bothGlobal : List RuleRecord :=
  [{ id := 1, content := { code := legacyGlobalCode } },
    { id := 2, content := { code := globalCode } }]

/-- The row of the global scope counts both records, and leads to a list of one. -/
theorem literal_drill_down_both :
    ComparesLiterally (literally bothGlobal) (fun _ => True) bothGlobal
      ∧ bothGlobal.length < 2 ^ 64
      ∧ ∃ page group detail, (listGroups (literally bothGlobal) {} 1 10).on () = (.ok page, ())
        ∧ group ∈ page.items ∧ group.scope = .global ∧ group.count.toNat = 2
        ∧ (listDetail (literally bothGlobal) group.code none 1 10).on () = (.ok detail, ())
        ∧ detail.totalCount.toNat = 1 := by
  have hstore := comparesLiterally_literally bothGlobal
  have hroom : bothGlobal.length < 2 ^ 64 := by decide
  obtain ⟨answer, t, hanswer, -, hboth⟩ := literal_drill_down hstore hroom {} 1 10 trivial
  have hall : answer.items.length = answer.totalCount.toNat := by
    cases hanswer
    decide
  obtain ⟨page, hpage, hrows⟩ := hboth hall
  have hitems : page.items = [⟨globalCode, globalDisplayName, 2⟩] := by
    have hsame : (listGroups (literally bothGlobal) {} 1 10).on ()
        = (.ok ⟨1, 1, 1, [⟨globalCode, globalDisplayName, 2⟩]⟩, ()) := by decide
    rw [hsame] at hpage
    cases hpage
    rfl
  obtain ⟨hcount, hdetail⟩ := hrows _ (hitems ▸ List.mem_singleton.mpr rfl)
  obtain ⟨detail, u, hon, htotal, -⟩ := hdetail 1 10
  refine ⟨hstore, hroom, page, _, detail, hpage, hitems ▸ List.mem_singleton.mpr rfl, by decide, ?_,
    hon, ?_⟩
  · rw [hcount]
    decide
  · rw [htotal]
    decide

/-- That all groups are on the page is not enough for the two levels to agree. -/
theorem literal_drill_down_differs :
    ¬ ∀ (σ : Type) (store : RuleStore σ) (holds : σ → Prop) (records : List RuleRecord)
      (filter : GroupQuery) (number size : UInt64) (s t : σ) (answer page : Page RuleGroup),
      ComparesLiterally store holds records → records.length < 2 ^ 64 → holds s →
      (store.listGroups ⟨storeCodes filter.codes⟩ number size).on s = (.ok answer, t) →
      answer.items.length = answer.totalCount.toNat →
      (listGroups store filter number size).on s = (.ok page, t) →
      ∀ group ∈ page.items, ∃ detail u,
        (listDetail store group.code none 1 10).on t = (.ok detail, u)
          ∧ detail.totalCount = group.count := by
  intro hall
  -- One record under the older code is enough.
  let legacy : List RuleRecord := [{ id := 1, content := { code := legacyGlobalCode } }]
  obtain ⟨detail, u, hdetail, htotal⟩ := hall Unit (literally legacy) (fun _ => True) legacy {} 1 10
    () () ⟨1, 1, 1, [{ code := legacyGlobalCode, count := 1 }]⟩
    ⟨1, 1, 1, [⟨globalCode, globalDisplayName, 1⟩]⟩ (comparesLiterally_literally legacy)
    (by decide) trivial (by decide) (by decide) (by decide) _ List.mem_cons_self
  have hempty : (listDetail (literally legacy) globalCode none 1 10).on ()
      = (.ok ⟨0, 1, 0, []⟩, ()) := by decide
  rw [hempty] at hdetail
  cases hdetail
  exact absurd htotal (by decide)

end Whitelist.Console
