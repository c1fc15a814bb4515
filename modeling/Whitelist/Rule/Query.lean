import Whitelist.Rule.Basic

/-!
# Queries

A query for records leaves a field empty where it does not narrow the answer. Codes are compared as
scopes, names by containment, everything else by equality.

## What is here

* `RecordQuery`, `RecordQuery.selects` — the filter on records.
* `RecordQuery.forCode`, `RecordQuery.withRuleName` — the queries that browsing sends.
* `GroupQuery`, `GroupQuery.selects` — the filter on groups.
-/

set_option autoImplicit false
namespace Whitelist

/-- Which records to list. -/
structure RecordQuery where
  code : Option String := none
  ruleName : Option String := none
  ruleType : Option RuleType := none
  tenantId : Option Int64 := none
  creatorName : Option String := none
  deriving DecidableEq, Repr

namespace RecordQuery

/-- All records of one code. -/
def forCode (code : String) : RecordQuery := { code := some code }

/-- The query with this name filter in place of its own; a blank filter is none. -/
def withRuleName (query : RecordQuery) (name : Option String) : RecordQuery :=
  { query with ruleName := name.filter fun n => !Text.isBlank n }

/-- Whether an optional wish is met. -/
def meets {α : Type} (wish : Option α) (test : α → Bool) : Bool :=
  match wish with
  | none => true
  | some a => test a

/-- Whether a record is wanted. -/
def selects (query : RecordQuery) (record : RuleRecord) : Bool :=
  meets query.code (fun code => Scope.ofCode code = record.scope)
    && meets query.ruleName (fun name => Text.contains record.content.name name)
    && meets query.ruleType (fun type => type = record.content.ruleType)
    && meets query.tenantId (fun tenant => record.tenantId = some tenant)
    && meets query.creatorName (fun creator => record.creatorName = some creator)

end RecordQuery

/-- Which groups to list; no codes at all select every group. -/
structure GroupQuery where
  codes : List String := []
  deriving DecidableEq, Repr

/-- Whether the group of a code is wanted. -/
def GroupQuery.selects (query : GroupQuery) (code : String) : Bool :=
  query.codes.isEmpty || query.codes.any fun c => Scope.ofCode c = Scope.ofCode code

end Whitelist
