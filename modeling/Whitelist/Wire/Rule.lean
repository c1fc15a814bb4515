import Whitelist.Rule.Form
import Whitelist.Rule.Query
import Whitelist.Wire.Layout

/-!
# Rules on the wire

How rule records, groups, queries and forms are written as JSON and read from it. A record gives its
code as `ruleCode` and is also read with `riskRuleCode`, the only name that a form uses. The enabled
flag is written as 0 or 1.

## What is here

For each type `T` of `RuleType`, `Operator`, `ConfigItem`, `LockStatus`, `RuleRecord`, `RuleGroup`,
`RecordQuery`, `GroupQuery` and `RuleForm`: `T.toJson` writes a value and `T.ofJson?` reads one.
-/

set_option autoImplicit false
namespace Whitelist

open Wire

/-! ## Names and flags -/

/-- A rule type is written by its name. -/
def RuleType.toJson (t : RuleType) : Json := .str t.name

/-- A rule type is read by its name. -/
def RuleType.ofJson? : Json → Option RuleType := asName all name

/-- A comparison is written by its name. -/
def Operator.toJson (op : Operator) : Json := .str op.name

/-- A comparison is read by its name, in capitals only. -/
def Operator.ofJson? : Json → Option Operator := asName all name

/-- The enabled flag is written as 1 or 0. -/
def flagToJson (enabled : Bool) : Json := .int (if enabled then 1 else 0)

/-- The enabled flag is read from a signed number of 64 bits, of which only 1 means yes, or from a
truth value. -/
def flagOfJson? : Json → Option Bool
  | .bool b => some b
  | value => (asInt64 value).map (· = 1)

/-! ## Config items and lock states -/

namespace ConfigItem

/-- A config item as an object. -/
def toJson (item : ConfigItem) : Json :=
  .obj [("id", ofUInt32 item.id), ("key", .str item.key), ("operator", item.operator.toJson),
    ("value", .str item.value)]

/-- The fields of a config item. -/
def layout : List FieldNames := [["id"], ["key"], ["operator"], ["value"]]

/-- A config item from an object or an array; every field is required. -/
def ofJson? (json : Json) : Option ConfigItem := do
  let [id, key, operator, value] ← slots layout json | none
  return {
    id := ← required asUInt32 id
    key := ← required asString key
    operator := ← required Operator.ofJson? operator
    value := ← required asString value }

end ConfigItem

namespace LockStatus

/-- The members that a lock state is written as. -/
def toMembers (lock : LockStatus) : List (String × Json) :=
  [("isLockHolder", .bool lock.isLockHolder),
    ("lockHolderName", ofOptional .str lock.holderName)]

/-- A lock state as an object. -/
def toJson (lock : LockStatus) : Json := .obj lock.toMembers

/-- The fields of a lock state. -/
def layout : List FieldNames := [["isLockHolder"], ["lockHolderName"]]

/-- A lock state from the slots of its two fields. -/
def ofSlots (isLockHolder holderName : Slot) : Option LockStatus := do
  return {
    isLockHolder := ← withDefault false asBool isLockHolder
    holderName := ← optionalOrNone asString holderName }

/-- A lock state from an object or an array; a missing field means that nobody holds the lock. -/
def ofJson? (json : Json) : Option LockStatus := do
  let [isLockHolder, holderName] ← slots layout json | none
  ofSlots isLockHolder holderName

end LockStatus

/-! ## Records and groups -/

namespace RuleRecord

/-- A record as an object. Nothing is left out but an empty list of items and a missing condition
or policy. -/
def toJson (record : RuleRecord) : Json :=
  let content := record.content
  .obj ([("id", ofInt64 record.id), ("ruleCode", .str content.code),
      ("ruleName", .str content.name), ("ruleDesc", ofOptional .str content.description),
      ("ruleType", content.ruleType.toJson), ("enable", flagToJson content.enabled)]
    ++ memberOfList "ruleConfigList" ConfigItem.toJson content.items
    ++ memberIf "condition" .str content.condition
    ++ memberIf "regoContent" .str content.policy
    ++ record.lock.toMembers
    ++ [("tenantId", ofOptional ofInt64 record.tenantId),
      ("tenantName", ofOptional .str record.tenantName),
      ("creatorName", ofOptional .str record.creatorName),
      ("gmtCreate", ofOptional .str record.createdAt),
      ("gmtModified", ofOptional .str record.modifiedAt)])

/-- The fields of a record, those of its lock state among them. -/
def layout : List FieldNames :=
  [["id"], ["ruleCode", "riskRuleCode"], ["ruleName"], ["ruleDesc"], ["ruleType"], ["enable"],
    ["ruleConfigList"], ["condition"], ["regoContent"], ["isLockHolder"], ["lockHolderName"],
    ["tenantId"], ["tenantName"], ["creatorName"], ["gmtCreate"], ["gmtModified"]]

/-- A record from an object; only the id is required. -/
def ofJson? (json : Json) : Option RuleRecord := do
  let [id, code, name, description, ruleType, enabled, items, condition, policy, isLockHolder,
    holderName, tenantId, tenantName, creatorName, createdAt, modifiedAt] ←
      memberSlots layout json | none
  return {
    id := ← required asInt64 id
    content := {
      code := ← withDefault "" asString code
      name := ← withDefault "" asString name
      description := ← optionalOrNone asString description
      ruleType := ← withDefault .ruleEngine RuleType.ofJson? ruleType
      enabled := ← withDefault false flagOfJson? enabled
      items := ← withDefault [] (asList ConfigItem.ofJson?) items
      condition := ← optionalOrNone asString condition
      policy := ← optionalOrNone asString policy }
    lock := ← LockStatus.ofSlots isLockHolder holderName
    tenantId := ← optionalOrNone asInt64 tenantId
    tenantName := ← optionalOrNone asString tenantName
    creatorName := ← optionalOrNone asString creatorName
    createdAt := ← optionalOrNone asString createdAt
    modifiedAt := ← optionalOrNone asString modifiedAt }

end RuleRecord

namespace RuleGroup

/-- A group as an object. -/
def toJson (group : RuleGroup) : Json :=
  .obj [("ruleCode", .str group.code), ("displayName", .str group.displayName),
    ("count", ofUInt64 group.count)]

/-- The fields of a group. -/
def layout : List FieldNames := [["ruleCode"], ["displayName", "ruleName"], ["count"]]

/-- A group from an object or an array; only the code is required. -/
def ofJson? (json : Json) : Option RuleGroup := do
  let [code, displayName, count] ← slots layout json | none
  return {
    code := ← required asString code
    displayName := ← withDefault "" asString displayName
    count := ← withDefault 0 asUInt64 count }

end RuleGroup

/-! ## Queries and forms -/

namespace RecordQuery

/-- The members that a query for records is written as: only the wishes that it has. -/
def toMembers (query : RecordQuery) : List (String × Json) :=
  memberIf "ruleCode" .str query.code ++ memberIf "ruleName" .str query.ruleName
    ++ memberIf "ruleType" RuleType.toJson query.ruleType
    ++ memberIf "tenantId" ofInt64 query.tenantId
    ++ memberIf "creatorName" .str query.creatorName

/-- A query for records as an object. -/
def toJson (query : RecordQuery) : Json := .obj query.toMembers

/-- The fields of a query for records. -/
def layout : List FieldNames :=
  [["ruleCode"], ["ruleName"], ["ruleType"], ["tenantId"], ["creatorName"]]

/-- A query for records from an object, or from an array of all five fields. -/
def ofJson? (json : Json) : Option RecordQuery := do
  let [code, ruleName, ruleType, tenantId, creatorName] ← slots layout json | none
  return {
    code := ← optional asString code
    ruleName := ← optional asString ruleName
    ruleType := ← optional RuleType.ofJson? ruleType
    tenantId := ← optional asInt64 tenantId
    creatorName := ← optional asString creatorName }

end RecordQuery

namespace GroupQuery

/-- The members that a query for groups is written as. -/
def toMembers (query : GroupQuery) : List (String × Json) :=
  memberOfList "ruleCodeList" .str query.codes

/-- A query for groups as an object. -/
def toJson (query : GroupQuery) : Json := .obj query.toMembers

/-- The one field of a query for groups. -/
def layout : List FieldNames := [["ruleCodeList"]]

/-- A query for groups from an object or an array. -/
def ofJson? (json : Json) : Option GroupQuery := do
  let [codes] ← slots layout json | none
  return { codes := ← withDefault [] (asList asString) codes }

end GroupQuery

namespace RuleForm

/-- A form as an object. What the form leaves empty is left out. -/
def toJson (form : RuleForm) : Json :=
  let content := form.content
  .obj (memberIf "id" ofInt64 form.id
    ++ [("riskRuleCode", .str content.code), ("ruleName", .str content.name)]
    ++ memberIf "ruleDesc" .str content.description
    ++ [("ruleType", content.ruleType.toJson), ("enable", flagToJson content.enabled)]
    ++ memberOfList "ruleConfigList" ConfigItem.toJson content.items
    ++ memberIf "condition" .str content.condition
    ++ memberIf "regoContent" .str content.policy)

/-- The fields of a form. -/
def layout : List FieldNames :=
  [["id"], ["riskRuleCode"], ["ruleName"], ["ruleDesc"], ["ruleType"], ["enable"],
    ["ruleConfigList"], ["condition"], ["regoContent"]]

/-- A form from an object or an array; name, type and flag are required. -/
def ofJson? (json : Json) : Option RuleForm := do
  let [id, code, name, description, ruleType, enabled, items, condition, policy] ←
    slots layout json | none
  return {
    id := ← optional asInt64 id
    content := {
      code := ← withDefault "" asString code
      name := ← required asString name
      description := ← optionalOrNone asString description
      ruleType := ← required RuleType.ofJson? ruleType
      enabled := ← required flagOfJson? enabled
      items := ← withDefault [] (asList ConfigItem.ofJson?) items
      condition := ← optionalOrNone asString condition
      policy := ← optionalOrNone asString policy } }

end RuleForm
end Whitelist
