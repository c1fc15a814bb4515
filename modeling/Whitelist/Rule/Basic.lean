import Whitelist.Fault
import Whitelist.Scope
import Whitelist.Text.Ascii
import Whitelist.Text.Cut

/-!
# Rules and what they consist of

A rule record says for which resources a rule does not apply. Part of it, the `RuleContent`, is what
a form edits; the rest is set by the store. Its `LockStatus` is the edit lock as one caller saw it
at one moment.

## What is here

* `RuleType`, `Operator` — the two kinds of rule, and the six comparisons of a config item.
* `ConfigItem`, `ConfigItem.ofText`, `ConfigItem.values` — one `key operator value` line of a rule.
* `LockStatus` — who may edit, as seen by the caller.
* `RuleContent`, `RuleRecord` — a rule's editable part, and a whole record.
* `RuleGroup` — the summary row of all records of one scope.
-/

set_option autoImplicit false
namespace Whitelist

/-! ## Kinds and comparisons -/

/-- A rule lists its conditions as config items, or it is a policy text in Rego. -/
inductive RuleType where
  | ruleEngine
  | rego
  deriving DecidableEq, Repr, Inhabited

namespace RuleType

/-- The name of a rule type in requests and on the command line. -/
def name : RuleType → String
  | ruleEngine => "RULE_ENGINE"
  | rego => "REGO"

/-- Both rule types. -/
def all : List RuleType := [ruleEngine, rego]

/-- The rule type with exactly this name. -/
def ofName (s : String) : Except Fault RuleType :=
  match all.find? (·.name = s) with
  | some t => .ok t
  | none => .error (.validation "ruleType must be RULE_ENGINE or REGO")

end RuleType

/-- How a config item compares a resource's attribute with its value. -/
inductive Operator where
  | eq
  | ne
  | like
  | notLike
  | isIn
  | notIn
  deriving DecidableEq, Repr, Inhabited

namespace Operator

/-- The name of a comparison in requests and on the command line. -/
def name : Operator → String
  | eq => "EQ"
  | ne => "NE"
  | like => "LIKE"
  | notLike => "NOT_LIKE"
  | isIn => "IN"
  | notIn => "NOT_IN"

/-- All comparisons, in the order in which they are listed. -/
def all : List Operator := [eq, ne, like, notLike, isIn, notIn]

/-- Whether the value is a comma-separated list. -/
def takesList : Operator → Bool
  | isIn | notIn => true
  | _ => false

/-- The comparison of this name, in any case of ASCII letters. -/
def ofName (s : String) : Except Fault Operator :=
  match all.find? fun op => Text.sameIgnoringCase op.name s with
  | some op => .ok op
  | none => .error (.validation s!"unknown operator '{s}'")

end Operator

/-! ## Config items -/

/-- One comparison of a rule. Conditions refer to it by its id. -/
structure ConfigItem where
  id : UInt32
  key : String
  operator : Operator
  value : String
  deriving DecidableEq, Repr

namespace ConfigItem

/-- A config item in its short form `key:OPERATOR:value`. The two colons that count are the first
two, so the value may hold more of them; blank space around the three parts is dropped. -/
def ofText (id : UInt32) (text : String) : Except Fault ConfigItem :=
  let parts := do
    let (key, rest) ← Text.cut ':' text.toList
    let (operator, value) ← Text.cut ':' rest
    some (key, operator, value)
  match parts with
  | none => .error (.validation s!"config item '{text}' must look like key:OPERATOR:value")
  | some (key, operator, value) => do
    let operator ← Operator.ofName (.ofList (Text.trim operator))
    return ⟨id, .ofList (Text.trim key), operator, .ofList (Text.trim value)⟩

/-- The values compared with: the pieces of a list, or the one value as it stands. -/
def values (item : ConfigItem) : List String :=
  if item.operator.takesList then Text.pieces item.value else [item.value]

end ConfigItem

/-! ## Records -/

/-- The edit lock of a record as one caller sees it: whether it is the caller's, and the name of
whoever holds it. -/
structure LockStatus where
  isLockHolder : Bool := false
  holderName : Option String := none
  deriving DecidableEq, Repr

namespace LockStatus

/-- The caller, known by this name, holds the lock. -/
def heldByCaller (name : String) : LockStatus := ⟨true, some name⟩

/-- Somebody else holds the lock. -/
def heldByOther (name : Option String) : LockStatus := ⟨false, name⟩

/-- Nobody holds the lock. -/
def unlocked : LockStatus := {}

end LockStatus

/-- The part of a rule that a form edits. -/
structure RuleContent where
  code : String := ""
  name : String := ""
  description : Option String := none
  ruleType : RuleType := .ruleEngine
  enabled : Bool := false
  items : List ConfigItem := []
  condition : Option String := none
  policy : Option String := none
  deriving DecidableEq, Repr

/-- The scope that the rule is filed under. -/
def RuleContent.scope (content : RuleContent) : Scope := .ofCode content.code

/-- One record as a store answers with it. -/
structure RuleRecord where
  id : Int64
  content : RuleContent := {}
  lock : LockStatus := {}
  tenantId : Option Int64 := none
  tenantName : Option String := none
  creatorName : Option String := none
  createdAt : Option String := none
  modifiedAt : Option String := none
  deriving DecidableEq, Repr

/-- The scope that the record is filed under. -/
def RuleRecord.scope (record : RuleRecord) : Scope := record.content.scope

/-- The summary of all records filed under one code. -/
structure RuleGroup where
  code : String
  displayName : String := ""
  count : UInt64 := 0
  deriving DecidableEq, Repr

/-- The scope that the group sums up. -/
def RuleGroup.scope (group : RuleGroup) : Scope := .ofCode group.code

end Whitelist
