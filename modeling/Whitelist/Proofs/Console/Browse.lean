import Whitelist.Console.Browse
import Whitelist.Proofs.Attempt
import Whitelist.Proofs.Group
import Whitelist.Proofs.Page

/-!
# What browsing does with a store's answers

What is said here of the two levels of browsing holds over any store: which call the lower level
makes, and that rows are passed on as they are where the store has already done what the console
would do to them.

## What is here

* `mem_storeCodes`, `nodup_storeCodes` — the codes that a selection is sent as are all codes of the
  scopes selected, each once.
* `listGroups_calls` — the call that the upper level makes; `upperPage` is what it makes of the
  answer.
* `normalizeGroups_perm` — where no scope occurs twice, the rows of the upper level are those of the
  store under canonical codes.
* `listGroups_on_of_nodup` — then the page is as long as the store says.
* `withinScope_eq_self` — where all records are of the scope, none is dropped.
* `listDetail_calls` — the call that the lower level makes.
* `allGroupPages` — a walk through all pages of the upper level.
-/

set_option autoImplicit false
namespace Whitelist.Console

open RuleGroup

variable {σ : Type} {groups : List RuleGroup} {scope : Scope}

/-! ## The codes that are sent -/

theorem mem_foldl_addCode (l codes : List String) {code : String} :
    code ∈ l.foldl addCode codes ↔ code ∈ codes ∨ code ∈ l := by
  induction l generalizing codes with
  | nil => simp
  | cons first rest ih =>
    rw [List.foldl_cons, ih, List.mem_cons, ← or_assoc]
    refine or_congr_left ?_
    by_cases h : first ∈ codes
    · rw [addCode, if_pos h]
      exact ⟨.inl, fun hcode => hcode.elim id fun he => he ▸ h⟩
    · rw [addCode, if_neg h, List.mem_append, List.mem_singleton]

/-- A scope is asked for under all of its codes. -/
theorem mem_codesOf {code selected : String} :
    code ∈ codesOf (.ofCode selected) ↔ Scope.ofCode code = Scope.ofCode selected := by
  by_cases hselected : isGlobalCode selected = true
  · have hcode : Scope.ofCode code = .global ↔ isGlobalCode code = true := by
      by_cases h : isGlobalCode code = true <;> simp [Scope.ofCode, h]
    have hglobal : Scope.ofCode selected = .global := if_pos hselected
    rw [hglobal, hcode, codesOf, if_pos (by rfl)]
    simp [isGlobalCode]
  · have hrule : Scope.ofCode selected = .rule selected := if_neg hselected
    rw [hrule, codesOf, if_neg (by simp [Scope.isGlobal]), List.mem_singleton]
    refine ⟨fun h => by rw [h]; exact hrule, fun h => ?_⟩
    unfold Scope.ofCode at h
    split at h
    · cases h
    · exact Scope.rule.inj h

/-- A selection is sent as all codes of the scopes that it selects. -/
theorem mem_storeCodes {code : String} {selected : List String} :
    code ∈ storeCodes selected
      ↔ ∃ wanted ∈ selected, Scope.ofCode code = Scope.ofCode wanted := by
  rw [storeCodes, mem_foldl_addCode, or_iff_right List.not_mem_nil, List.mem_flatMap]
  simp only [mem_codesOf]

theorem nodup_foldl_addCode {codes : List String} (h : codes.Nodup) (l : List String) :
    (l.foldl addCode codes).Nodup := by
  induction l generalizing codes with
  | nil => exact h
  | cons first rest ih =>
    rw [List.foldl_cons]
    refine ih ?_
    by_cases hold : first ∈ codes
    · rwa [addCode, if_pos hold]
    · rw [addCode, if_neg hold]
      simp [List.nodup_append, h]
      intro code hcode heq
      exact hold (heq ▸ hcode)

/-- No code is sent twice. -/
theorem nodup_storeCodes (selected : List String) : (storeCodes selected).Nodup :=
  nodup_foldl_addCode .nil _

/-- A selected code is sent, among others perhaps. So no codes are sent for no selection only. -/
theorem storeCodes_eq_nil_iff {selected : List String} :
    storeCodes selected = [] ↔ selected = [] := by
  constructor
  · intro h
    cases selected with
    | nil => rfl
    | cons code rest =>
      have hsent : code ∈ storeCodes (code :: rest) :=
        mem_storeCodes.mpr ⟨code, List.mem_cons_self, rfl⟩
      rw [h] at hsent
      cases hsent
  · rintro rfl
    rfl

/-- What is sent for a selection is what the selection selects, code by code. -/
theorem mem_storeCodes_iff_selects {selected : List String} (hsome : selected ≠ [])
    (code : String) :
    code ∈ storeCodes selected ↔ (GroupQuery.mk selected).selects code = true := by
  rw [mem_storeCodes, GroupQuery.selects, List.isEmpty_eq_false_iff.mpr hsome]
  simp [@eq_comm _ (Scope.ofCode code)]

/-! ## The upper level -/

@[simp] theorem scope_canonical (group : RuleGroup) : (canonical group).scope = group.scope :=
  Scope.ofCode_code_ofCode group.code

theorem normalizeGroups_eq (groups : List RuleGroup) :
    normalizeGroups groups = globalFirst (gather canonical groups) := rfl

/-- Where no scope occurs twice, nothing is merged. -/
theorem normalizeGroups_perm (hnodup : (scopes groups).Nodup) :
    (normalizeGroups groups).Perm (groups.map canonical) := by
  rw [normalizeGroups_eq, ← gather_of_nodup hnodup scope_canonical]
  exact globalFirst_perm _

@[simp] theorem minus_zero (total : UInt64) : minus total 0 = total := UInt64.ofNat_toNat

@[simp] theorem toNat_minus (total : UInt64) (dropped : Nat) :
    (minus total dropped).toNat = total.toNat - dropped :=
  UInt64.toNat_ofNat_of_lt' (Nat.lt_of_le_of_lt (Nat.sub_le ..) total.toNat_lt)

/-- The page of the upper level that a store's answer makes. -/
def upperPage (size : UInt64) (answer : Page RuleGroup) : Page RuleGroup :=
  .new (minus answer.totalCount (answer.items.length - (normalizeGroups answer.items).length))
    answer.pageNumber size (normalizeGroups answer.items)

section Answered

variable {store : RuleStore σ} {filter : GroupQuery} {number size : UInt64} {s t : σ}

theorem listGroups_on_ok {answer : Page RuleGroup}
    (hanswer : (store.listGroups ⟨storeCodes filter.codes⟩ number size).on s = (.ok answer, t)) :
    (listGroups store filter number size).on s = (.ok (upperPage size answer), t) :=
  Attempt.on_bind_ok hanswer

/-- Where the store answers with no scope twice, the upper level keeps its count of rows. -/
theorem listGroups_on_of_nodup {answer : Page RuleGroup}
    (hanswer : (store.listGroups ⟨storeCodes filter.codes⟩ number size).on s = (.ok answer, t))
    (hnodup : (scopes answer.items).Nodup) :
    (listGroups store filter number size).on s
      = (.ok (.new answer.totalCount answer.pageNumber size (normalizeGroups answer.items)),
        t) := by
  have hlength := (normalizeGroups_perm hnodup).length_eq
  rw [List.length_map] at hlength
  rw [listGroups_on_ok hanswer, upperPage, hlength, Nat.sub_self, minus_zero]

end Answered

/-- The upper level makes one call, for the codes that the selection is sent as. -/
theorem listGroups_calls (store : RuleStore σ) (filter : GroupQuery) (number size : UInt64) (s : σ)
    (calls : List StoreCall) : ((listGroups store.recorded filter number size).on (s, calls)).2.2
      = calls ++ [.listGroups ⟨storeCodes filter.codes⟩ number size] := by
  have hcall (query : GroupQuery) : (store.recorded.listGroups query number size).on (s, calls)
      = (((store.listGroups query number size).on s).1,
        ((store.listGroups query number size).on s).2, calls ++ [.listGroups query number size]) :=
    rfl
  rw [listGroups, Attempt.on_bind, hcall]
  rcases (store.listGroups _ number size).on s with ⟨_ | answer, t⟩ <;> rfl

/-- The pages of the whole upper level, one after the other, as many as the first one speaks of. -/
def allGroupPages (store : RuleStore σ) (size : UInt64) : Attempt σ (List (Page RuleGroup)) := do
  let first ← listGroups store {} 1 size
  (pageNumbers first.pagesAvailable).mapM fun number => listGroups store {} number size

/-! ## The lower level -/

/-- Where all records are of the scope, none is dropped. -/
theorem withinScope_eq_self {answer : Page RuleRecord}
    (hscope : ∀ row ∈ answer.items, row.scope = scope) (size : UInt64) :
    withinScope scope size answer = answer := by
  have hkept : answer.items.filter (fun record => record.scope = scope) = answer.items :=
    List.filter_eq_self.mpr fun row hrow => decide_eq_true (hscope row hrow)
  rw [withinScope, hkept, Nat.sub_self]
  rfl

/-- The lower level makes one call, for the records of the scope, narrowed by the name. -/
theorem listDetail_calls (store : RuleStore σ) (code : String) (name : Option String)
    (number size : UInt64) (s : σ) (calls : List StoreCall) :
    ((listDetail store.recorded code name number size).on (s, calls)).2.2
      = calls ++ [.listRecords ((RecordQuery.forCode (Scope.ofCode code).code).withRuleName name)
        number size] := by
  have hcall (query : RecordQuery) : (store.recorded.listRecords query number size).on (s, calls)
      = (((store.listRecords query number size).on s).1,
        ((store.listRecords query number size).on s).2,
        calls ++ [.listRecords query number size]) := rfl
  rw [listDetail, Attempt.on_bind, hcall]
  rcases (store.listRecords _ number size).on s with ⟨_ | answer, t⟩ <;> rfl

end Whitelist.Console
