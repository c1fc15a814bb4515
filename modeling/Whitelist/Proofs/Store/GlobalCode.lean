import Whitelist.Proofs.Console.Options
import Whitelist.Proofs.Store.Browse
import Whitelist.Proofs.Table

/-!
# Which code of the global scope a record has

Records of the global scope may be stored under either of two codes. Nobody who browses finds out
which. To see this, take a store and write each code as that of its scope: records are still
filtered, grouped, named, sorted and merged in the same way, because all of that asks for the scope.
Two stores that differ only in those codes become the same store in this way.

## What is here

* `Exchanged`, `SameButCodes` — two codes, and two stores, that differ in nothing else.
* `recoded` — content, records, groups and stores with each code written as that of its scope.
* `SameButCodes.recoded` — two such stores, recoded, are one.
* `visible_recoded`, `rows_recoded`, `groups_recoded` — what is listed of a recoded store.
* `groupPage_recoded`, `detailRows_recoded` — the two levels of browsing over it.
* `global_code_unseen` — browsing does not tell two such stores apart.

The obvious way would be to compare two stores call by call, with a relation between groups and one
between records. That has to follow gathering, sorting, paging and merging side by side. Recoding
avoids the second store: each of these functions commutes with `recoded` (`groups_recoded`,
`normalizeGroups_recoded`, `detailRows_recoded`), so each answer over a store, recoded, is the
answer over the recoded store; and `SameButCodes.recoded` says that the two stores have a single
recoded store between them. What is shown over `s` and over `t` is then compared by way of that one.
-/

set_option autoImplicit false
namespace Whitelist

open Console

/-! ## The same but for the code of the global scope

Codes in a request are exchanged one for one (`List.Forall₂ Exchanged`). A scope may be asked for
under several of its codes, and the older one may stand in one place and the newer one in another.
-/

/-- Two codes are the same, or both stand for the global scope. -/
def Exchanged (code code' : String) : Prop :=
  code' = code ∨ isGlobalCode code = true ∧ isGlobalCode code' = true

/-- Two such codes are of one scope. -/
theorem Exchanged.ofCode {code code' : String} (h : Exchanged code code') :
    Scope.ofCode code' = Scope.ofCode code := by
  rcases h with rfl | ⟨h, h'⟩
  · rfl
  · rw [Scope.ofCode, Scope.ofCode, if_pos h, if_pos h']

theorem map_ofCode_of_exchanged {codes codes' : List String}
    (h : List.Forall₂ Exchanged codes codes') :
    codes'.map Scope.ofCode = codes.map Scope.ofCode := by
  induction h with
  | nil => rfl
  | cons hcode _ ih => rw [List.map_cons, List.map_cons, hcode.ofCode, ih]

/-- A query goes by the scopes of its codes, so it selects the same. -/
theorem selects_of_exchanged {query query' : GroupQuery}
    (h : List.Forall₂ Exchanged query.codes query'.codes) : query'.selects = query.selects := by
  have hselects (q : GroupQuery) (code : String) : q.selects code
      = ((q.codes.map Scope.ofCode).isEmpty
        || (q.codes.map Scope.ofCode).any fun scope => scope = Scope.ofCode code) := by
    rw [GroupQuery.selects, List.isEmpty_map, List.any_map]
    rfl
  funext code
  rw [hselects, hselects, map_ofCode_of_exchanged h]

/-- Two records differ only in which code of the global scope they have, if any. -/
structure StoredRule.SameButCode (rule rule' : StoredRule) : Prop where
  code : Exchanged rule.content.code rule'.content.code
  rest : rule' = { rule with content := { rule.content with code := rule'.content.code } }

/-- Two stores differ only in which codes of the global scope some records have. -/
structure MemoryStore.SameButCodes (s t : MemoryStore) : Prop where
  records : ∀ id, Option.Rel StoredRule.SameButCode (s.rules.find? id) (t.rules.find? id)
  rest : t = { s with rules := t.rules, keyed := t.keyed }

/-! ## Each code written as that of its scope

`recoded` stands for four functions, on contents, stored records, records and groups. None of them
changes a scope, and that is what the `simp` lemmas say. -/

/-- The content under the code that its scope is written as. -/
def RuleContent.recoded (content : RuleContent) : RuleContent :=
  { content with code := content.scope.code }

/-- The record as it is kept, under the code that its scope is written as. -/
def StoredRule.recoded (rule : StoredRule) : StoredRule :=
  { rule with content := rule.content.recoded }

/-- The record under the code that its scope is written as. -/
def RuleRecord.recoded (record : RuleRecord) : RuleRecord :=
  { record with content := record.content.recoded }

/-- The group under the code that its scope is written as. -/
def RuleGroup.recoded (group : RuleGroup) : RuleGroup := { group with code := group.scope.code }

/-- The store with each record under the code that its scope is written as. -/
def MemoryStore.recoded (s : MemoryStore) : MemoryStore :=
  { s with rules := s.rules.map StoredRule.recoded, keyed := s.keyed.map fun _ => rfl }

@[simp] theorem StoredRule.scope_recoded (rule : StoredRule) : rule.recoded.scope = rule.scope :=
  Scope.ofCode_code_ofCode rule.content.code

@[simp] theorem RuleRecord.scope_recoded (record : RuleRecord) :
    record.recoded.scope = record.scope :=
  Scope.ofCode_code_ofCode record.content.code

@[simp] theorem RuleGroup.scope_recoded (group : RuleGroup) : group.recoded.scope = group.scope :=
  Scope.ofCode_code_ofCode group.code

/-- Gathering goes by scopes and adds up counts; `recoded` leaves both alone, so it commutes with it
(`Relabels.gather_map`). -/
theorem RuleGroup.relabels_recoded : Relabels RuleGroup.recoded where
  scope := RuleGroup.scope_recoded
  count _ := rfl
  withCount _ _ := rfl

/-- Two records that differ in their code only are the same record once it is written anew. -/
theorem StoredRule.SameButCode.recoded {rule rule' : StoredRule} (h : rule.SameButCode rule') :
    rule'.recoded = rule.recoded := by
  have hscope : rule'.content.scope = rule.content.scope := h.code.ofCode
  rw [StoredRule.recoded, StoredRule.recoded, RuleContent.recoded, RuleContent.recoded, hscope,
    h.rest]

/-- To write the code of the global scope in the way in use is one such exchange. -/
theorem StoredRule.sameButCode_recoded (rule : StoredRule) : rule.SameButCode rule.recoded where
  code := by
    show Exchanged rule.content.code (Scope.ofCode rule.content.code).code
    rw [Scope.ofCode]
    split
    · rename_i hglobal
      exact .inr ⟨hglobal, rfl⟩
    · exact .inl rfl
  rest := rfl

namespace MemoryStore

variable {s t : MemoryStore} (caller : Caller)

/-- Recoding is an exchange of codes like any other, so a store and its recoded store are a case of
`SameButCodes`. -/
theorem sameButCodes_recoded (s : MemoryStore) : SameButCodes s s.recoded where
  records id := by
    rw [recoded, Table.find?_map]
    cases s.rules.find? id with
    | none => exact .none
    | some rule => exact .some rule.sameButCode_recoded
  rest := rfl

/-- Two stores that differ only in their codes of the global scope, recoded, are one. -/
theorem SameButCodes.recoded (h : SameButCodes s t) : t.recoded = s.recoded := by
  have hrules : t.rules.map StoredRule.recoded = s.rules.map StoredRule.recoded := by
    refine Table.ext_find? fun id => ?_
    have hrecord := h.records id
    rw [Table.find?_map, Table.find?_map]
    generalize s.rules.find? id = rule, t.rules.find? id = rule' at hrecord ⊢
    cases hrecord with
    | none => rfl
    | some hrule => exact congrArg some hrule.recoded
  obtain ⟨-, hrest⟩ := h
  cases s
  cases t
  cases hrest
  simp only [MemoryStore.recoded, hrules]

/-- The time that listings take does not bring two such stores apart. -/
theorem SameButCodes.iterate_tick (h : SameButCodes s t) (looks : Nat) :
    SameButCodes (tick^[looks] s) (tick^[looks] t) where
  records id := by
    rw [iterate_tick_rules, iterate_tick_rules]
    exact h.records id
  rest := by
    induction looks with
    | zero => exact h.rest
    | succ n ih =>
      rw [Function.iterate_succ_apply', Function.iterate_succ_apply', ih]
      rfl

/-! ## What is listed of a recoded store

These equations go from the table upwards: the visible records, the rows of a listing, the records
that a query for groups wants, and the groups themselves. -/

/-- Whether a caller sees a record depends on its tenant, not on its code. -/
theorem visible_recoded (s : MemoryStore) :
    s.recoded.visible caller = (s.visible caller).map fun e => (e.1, e.2.recoded) := by
  rw [visible, visible, List.map_reverse]
  exact congrArg List.reverse List.filter_map

theorem rows_recoded (s : MemoryStore) (l : List (Int64 × StoredRule)) :
    rows caller s.recoded (l.map fun e => (e.1, e.2.recoded))
      = (rows caller s l).map RuleRecord.recoded := by
  -- A look at the clock comes before each row, so the store is another one for the rest.
  induction l generalizing s with
  | nil => rfl
  | cons e rest ih =>
    have htick : s.recoded.tick = s.tick.recoded := rfl
    rw [List.map_cons, rows, htick, ih s.tick]
    rfl

theorem groupOf_recoded (s : MemoryStore) (rule : StoredRule) :
    s.recoded.groupOf rule.recoded = (s.groupOf rule).recoded := by
  rw [groupOf, StoredRule.scope_recoded]
  rfl

/-- Nor does it depend on the code which records a query for groups wants. -/
theorem wanted_recoded (s : MemoryStore) (query : GroupQuery) :
    s.recoded.wanted caller query = (s.wanted caller query).map fun e => (e.1, e.2.recoded) := by
  rw [wanted, wanted, visible_recoded, List.filter_map]
  refine congrArg _ (List.filter_congr fun e _ => ?_)
  exact selects_congr (Scope.ofCode_code_ofCode e.2.content.code)

/-- The groups are the same but for their codes. -/
theorem groups_recoded (s : MemoryStore) (query : GroupQuery) :
    s.recoded.groups caller query = (s.groups caller query).map RuleGroup.recoded := by
  have hgroups (l : List (Int64 × StoredRule)) :
      s.recoded.groupsOf (l.map fun e => (e.1, e.2.recoded))
        = (s.groupsOf l).map RuleGroup.recoded := by
    rw [groupsOf, groupsOf, List.map_map, List.map_map]
    exact List.map_congr_left fun e _ => groupOf_recoded s e.2
  -- Groups are gathered by their scopes, which recoding does not touch.
  have hrelabels := RuleGroup.relabels_recoded
  have hgather (l : List RuleGroup) : gather (fun g => g) (l.map RuleGroup.recoded)
      = (gather (fun g => g) l).map RuleGroup.recoded := by
    refine hrelabels.gather_map hrelabels ?_ l
    exact fun _ => rfl
  rw [groups_eq, groups_eq, wanted_recoded, hgroups, hgather, hrelabels.globalFirst_map]

end MemoryStore

/-! ## The two levels over a recoded store

Here the recoding comes to an end. The upper level shows canonical rows, which are the same with and
without it (`canonical_recoded`), so its pages are equal outright. The lower level shows records
with the codes they have, so its pages are equal only once both are recoded. -/

namespace Console

/-- The canonical row of a group does not show which code the group has. -/
theorem canonical_recoded (group : RuleGroup) : canonical group.recoded = canonical group := by
  rw [canonical, RuleGroup.scope_recoded]
  rfl

/-- What a group selects is its scope. -/
theorem selectGroup_recoded (group : RuleGroup) :
    selectGroup group.recoded = selectGroup group := by
  rw [selectGroup, RuleGroup.scope_recoded]
  rfl

theorem normalizeGroups_recoded (groups : List RuleGroup) :
    normalizeGroups (groups.map RuleGroup.recoded) = normalizeGroups groups := by
  have hgather : gather canonical (groups.map RuleGroup.recoded)
      = (gather canonical groups).map id :=
    RuleGroup.relabels_recoded.gather_map .id canonical_recoded groups
  rw [normalizeGroups_eq, normalizeGroups_eq, hgather, List.map_id]

/-- Selected codes are sent to the store by their scopes. -/
theorem storeCodes_congr {codes codes' : List String}
    (h : codes'.map Scope.ofCode = codes.map Scope.ofCode) :
    storeCodes codes' = storeCodes codes := by
  have hcodes (l : List String) :
      storeCodes l = ((l.map Scope.ofCode).flatMap codesOf).foldl addCode [] := by
    rw [storeCodes, List.flatMap_map]
  rw [hcodes, hcodes, h]

end Console

namespace MemoryStore

variable {s t : MemoryStore} {caller : Caller}

/-- A page of the upper level does not show which codes the records have. -/
theorem groupPage_recoded (s : MemoryStore) (caller : Caller) (filter : GroupQuery)
    (number size : UInt64) :
    s.recoded.groupPage caller filter number size = s.groupPage caller filter number size := by
  rw [groupPage, groups_recoded, paginate_map]
  exact congrArg (Page.new _ _ size) (normalizeGroups_recoded _)

theorem detailRows_recoded (s : MemoryStore) (caller : Caller) (scope : Scope)
    (name : Option String) : s.recoded.detailRows caller scope name
      = (s.detailRows caller scope name).map RuleRecord.recoded := by
  rw [detailRows, detailRows, visible_recoded, rows_recoded, List.filter_map]
  refine congrArg _ (List.filter_congr fun record _ => ?_)
  show RecordQuery.selects _ record.recoded = _
  rw [RecordQuery.selects, RuleRecord.scope_recoded]
  rfl

/-! ## What a caller sees

Each lemma is a chain of three: recode the one store, exchange it for the other by
`SameButCodes.recoded`, and take the recoding back. -/

namespace SameButCodes

variable (h : SameButCodes s t)
include h

theorem groupPage (filter : GroupQuery) (number size : UInt64) :
    t.groupPage caller filter number size = s.groupPage caller filter number size := by
  rw [← groupPage_recoded t, h.recoded, groupPage_recoded]

theorem groups (query : GroupQuery) :
    (t.groups caller query).map selectGroup = (s.groups caller query).map selectGroup := by
  have hselect (groups : List RuleGroup) :
      (groups.map RuleGroup.recoded).map selectGroup = groups.map selectGroup := by
    rw [List.map_map]
    exact List.map_congr_left fun group _ => selectGroup_recoded group
  rw [← hselect, ← groups_recoded, h.recoded, groups_recoded, hselect]

theorem length_visible (caller : Caller) :
    (t.visible caller).length = (s.visible caller).length := by
  have hlength (u : MemoryStore) :
      (u.recoded.visible caller).length = (u.visible caller).length := by
    rw [visible_recoded, List.length_map]
  rw [← hlength t, h.recoded, hlength]

theorem detailRows (scope : Scope) (name : Option String) :
    (t.detailRows caller scope name).map RuleRecord.recoded
      = (s.detailRows caller scope name).map RuleRecord.recoded := by
  rw [← detailRows_recoded, h.recoded, detailRows_recoded]

end SameButCodes

/-- **The choice between the two codes of the global scope is not seen.** Two stores differ only in
which of the codes some records have. Whoever browses, and whichever of the codes stands in the
request: every page of the upper level is the same and so are all options; the groups that the store
itself answers with lead to the same records; and the records of a code are on each page the same
but for their own codes, which are of the same scope. -/
theorem global_code_unseen (h : SameButCodes s t) (caller : Caller) :
    (∀ filter filter' : GroupQuery, List.Forall₂ Exchanged filter.codes filter'.codes →
      ∀ number size : UInt64,
        (∃ page, (Console.listGroups (session caller) filter number size).on s = (.ok page, s)
          ∧ (Console.listGroups (session caller) filter' number size).on t = (.ok page, t))
        ∧ ∃ answer answer', ((session caller).listGroups filter number size).on s = (.ok answer, s)
          ∧ ((session caller).listGroups filter' number size).on t = (.ok answer', t)
          ∧ answer'.map selectGroup = answer.map selectGroup)
    ∧ (∀ size : UInt64, ∃ options,
        (ruleCodeOptions (session caller) size).on s = (.ok options, s)
          ∧ (ruleCodeOptions (session caller) size).on t = (.ok options, t))
    ∧ ∀ code code' : String, Exchanged code code' →
        ∀ (name : Option String) (number size : UInt64), ∃ detail detail' later later',
          (listDetail (session caller) code name number size).on s = (.ok detail, later)
            ∧ (listDetail (session caller) code' name number size).on t = (.ok detail', later')
            ∧ detail'.map RuleRecord.recoded = detail.map RuleRecord.recoded
            ∧ SameButCodes later later' := by
  refine ⟨fun filter filter' hfilter number size => ⟨?_, ?_⟩, fun size => ?_,
    fun code code' hcode name number size => ?_⟩
  · have hcodes := storeCodes_congr (map_ofCode_of_exchanged hfilter)
    have hpage :
        t.groupPage caller filter' number size = s.groupPage caller filter number size := by
      rw [h.groupPage, groupPage, groupPage, hcodes]
    exact ⟨_, listGroups_session_on .., hpage ▸ listGroups_session_on ..⟩
  · refine ⟨_, _, listGroups_on .., listGroups_on .., ?_⟩
    have hquery : s.groups caller filter' = s.groups caller filter := by
      rw [MemoryStore.groups, MemoryStore.groups, selects_of_exchanged hfilter]
    rw [← paginate_map, ← paginate_map, h.groups, hquery]
  · obtain ⟨options, hoptions⟩ := optionsFrom_of_pages (session caller)
      (fun number => s.groupPage caller {} number (max size 1)) (max size 1) 1 []
    refine ⟨options, hoptions s fun _ => listGroups_session_on .., hoptions t fun number => ?_⟩
    rw [← h.groupPage]
    exact listGroups_session_on ..
  · refine ⟨_, _, _, _, listDetail_named_on .., listDetail_named_on .., ?_, ?_⟩
    · rw [← paginate_map, ← paginate_map, hcode.ofCode, h.detailRows]
    · rw [h.length_visible]
      exact h.iterate_tick _

/-- In a store with records under both codes, and asked for under the one or the other, the global
scope has one row. -/
theorem global_code_unseen_mixed :
    SameButCodes mixed.store mixed.store.recoded
      ∧ (mixed.store.existing? bob 1).map (·.content.code) = some legacyGlobalCode
      ∧ (mixed.store.recoded.existing? bob 1).map (·.content.code) = some globalCode
      ∧ List.Forall₂ Exchanged [legacyGlobalCode] [globalCode]
      ∧ ∃ page, (Console.listGroups (session bob) ⟨[legacyGlobalCode]⟩ 1 10).on mixed.store
            = (.ok page, mixed.store)
          ∧ (Console.listGroups (session bob) ⟨[globalCode]⟩ 1 10).on mixed.store.recoded
            = (.ok page, mixed.store.recoded)
          ∧ page.items = [⟨globalCode, globalDisplayName, 2⟩] := by
  have hsame := sameButCodes_recoded mixed.store
  have hcodes : List.Forall₂ Exchanged [legacyGlobalCode] [globalCode] :=
    .cons (.inr ⟨by decide, by decide⟩) .nil
  obtain ⟨hgroups, -, -⟩ := global_code_unseen hsame bob
  obtain ⟨⟨page, hpage, hpage'⟩, -⟩ := hgroups ⟨[legacyGlobalCode]⟩ ⟨[globalCode]⟩ hcodes 1 10
  have hitems : page.items = [⟨globalCode, globalDisplayName, 2⟩] := by
    rw [listGroups_session_on] at hpage
    cases hpage
    decide
  exact ⟨hsame, by decide, by decide, hcodes, page, hpage, hpage', hitems⟩

end MemoryStore
end Whitelist
