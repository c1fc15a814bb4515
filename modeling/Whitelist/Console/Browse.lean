import Whitelist.Rule.Group
import Whitelist.Store.Basic

/-!
# Browsing in two levels

The upper level has one row for each rule code, the lower one the records of one code. Stores
disagree on the code of the global scope, so it is asked for under both and shown under one.

## What is here

* `storeCodes` — the codes that a selection is sent as.
* `normalizeGroups` — one row for each scope, under its canonical code and label.
* `listGroups`, `listDetail` — the two levels.
* `NavigationIntent`, `selectGroup` — the way from a row of the upper level to the lower one.
* `ruleCodeOptions` — all rule codes, gathered page by page.
-/

set_option autoImplicit false
namespace Whitelist.Console

variable {σ : Type} (store : RuleStore σ)

/-! ## The upper level -/

/-- The codes with one more at the end, unless it is there already. -/
def addCode (codes : List String) (code : String) : List String :=
  if code ∈ codes then codes else codes ++ [code]

/-- The codes that a scope is asked for under. -/
def codesOf (scope : Scope) : List String :=
  if scope.isGlobal then [globalCode, legacyGlobalCode] else [scope.code]

/-- The codes that a selection is sent as, each once. -/
def storeCodes (selected : List String) : List String :=
  (selected.flatMap fun code => codesOf (.ofCode code)).foldl addCode []

/-- A row under the canonical code of its scope, with the label that follows from its name. -/
def canonical (group : RuleGroup) : RuleGroup where
  code := group.scope.code
  displayName := group.scope.displayName (some group.displayName)
  count := group.count

/-- One row for each scope: counts added up, canonical codes and labels, the global scope first and
the others in the order in which they were first met. -/
def normalizeGroups (groups : List RuleGroup) : List RuleGroup :=
  globalFirst (groups.foldl (fun merged group => addToGroup group (canonical group) merged) [])

/-- The difference, or 0 where it would be negative. -/
def minus (total : UInt64) (dropped : Nat) : UInt64 := .ofNat (total.toNat - dropped)

/-- One page of the upper level. The total goes down by the rows that were merged away. -/
def listGroups (filter : GroupQuery) (page size : UInt64) : Attempt σ (Page RuleGroup) := do
  let answer ← store.listGroups ⟨storeCodes filter.codes⟩ page size
  let rows := normalizeGroups answer.items
  let mergedAway := answer.items.length - rows.length
  return Page.new (minus answer.totalCount mergedAway) answer.pageNumber size rows

/-! ## The lower level -/

/-- The page without the rows outside a scope, and with its numbers corrected where there are
any. -/
def withinScope (scope : Scope) (size : UInt64) (answer : Page RuleRecord) : Page RuleRecord :=
  let rows := answer.items.filter fun record => record.scope = scope
  let dropped := answer.items.length - rows.length
  if dropped > 0 then Page.new (minus answer.totalCount dropped) answer.pageNumber size rows
  else { answer with items := rows }

/-- One page of the records of one code, narrowed by name if that is wanted. Nothing found is an
answer. -/
def listDetail (code : String) (name : Option String) (page size : UInt64) :
    Attempt σ (Page RuleRecord) := do
  let scope := Scope.ofCode code
  let query := (RecordQuery.forCode scope.code).withRuleName name
  let answer ← store.listRecords query page size
  return withinScope scope size answer

/-- What leads from a row to its records: the scope, the heading and the count. -/
structure NavigationIntent where
  scope : Scope
  title : String
  count : UInt64
  deriving DecidableEq, Repr

/-- Where selecting a row leads. -/
def selectGroup (group : RuleGroup) : NavigationIntent where
  scope := group.scope
  title := group.scope.displayName (some group.displayName)
  count := group.count

/-- The query for the records, narrowed by name if that is wanted. -/
def NavigationIntent.query (intent : NavigationIntent) (name : Option String) : RecordQuery :=
  (RecordQuery.forCode intent.scope.code).withRuleName name

/-! ## All rule codes -/

/-- A rule code to choose, and its label. -/
structure CodeOption where
  code : String
  label : String
  deriving DecidableEq, Repr

/-- The options with one for a group at the end, unless its code is there already. -/
def addOption (options : List CodeOption) (group : RuleGroup) : List CodeOption :=
  if options.any (·.code = group.code) then options
  else options ++ [⟨group.code, group.displayName⟩]

/-- The options found on this page and the pages after it, up to an empty page or to the last page
that the store speaks of. -/
def optionsFrom (size page : UInt64) (found : List CodeOption) : Attempt σ (List CodeOption) := do
  let answer ← listGroups store {} page size
  let found := answer.items.foldl addOption found
  if _h : answer.items.isEmpty ∨ answer.pagesAvailable ≤ page then return found
  else optionsFrom size (page + 1) found
termination_by UInt64.size - page.toNat
decreasing_by
  have hlt : page < answer.pagesAvailable := UInt64.not_le.mp fun h => _h (.inr h)
  have h1 : page.toNat < answer.pagesAvailable.toNat := UInt64.lt_iff_toNat_lt.mp hlt
  have h2 := answer.pagesAvailable.toNat_lt
  have h3 : (page + 1).toNat = page.toNat + 1 := by
    rw [UInt64.toNat_add]
    simp only [UInt64.toNat_one]
    omega
  simp only [UInt64.size]
  omega

/-- All rule codes, each once, from pages of this size; size 0 counts as 1. -/
def ruleCodeOptions (pageSize : UInt64) : Attempt σ (List CodeOption) :=
  optionsFrom store (max pageSize 1) 1 []

end Whitelist.Console
