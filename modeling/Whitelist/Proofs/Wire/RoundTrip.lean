import Whitelist.Proofs.Wire.Fields
import Whitelist.Wire.Action
import Whitelist.Wire.Envelope
import Whitelist.Wire.Page
import Whitelist.Wire.Rule

/-!
# What goes over the wire arrives

Records, forms, queries, actions and lists are read back as they were written, whatever they leave
out.

## What is here

* For each type that goes over the wire its `wireFields`, and that its values are written as those
  fields and read back from them.
* `WireType` — the types that go over the wire, each with its values, `write` and `read`.
* `WireType.ofText?_write` — a value is read back from its text, on one line or over lines.

Each type has its fields, in the order in which they are written (`wireFields`), and three facts
about them: that the writer writes just these (`toJson_eq`), that the reader finds each of them in
its slot (`finds`, by evaluation), and that what it makes of the slots is the value again (`Keeps`).
The classes `Writes` and `Keeps` let the facts about parts be found by instance search, so that a
page of records asks for those about records, and these for those about config items.

The proofs of `Keeps` follow the readers line by line: a reader is a chain of binds, one for each
field, and each is passed by the lemma for the way in which that field is read (`required_slotOf`,
`withDefault_slotOf`, `optional_slotOf`, `optionalOrNone_slotOf`).
-/

set_option autoImplicit false
namespace Whitelist

open Wire

variable {α : Type}

/-! ## Names and flags

A name is its own text, and the reader is tried on each value of the type. A flag is the number 0 or
1. -/

instance : Writes 0 RuleType.toJson := ⟨nofun, fun t => .str t.name⟩

instance : Keeps RuleType.toJson RuleType.ofJson? := ⟨fun t => by cases t <;> decide⟩

instance : Writes 0 Operator.toJson := ⟨nofun, fun op => .str op.name⟩

instance : Keeps Operator.toJson Operator.ofJson? := ⟨fun op => by cases op <;> decide⟩

instance : Writes 0 flagToJson where
  ne_null := nofun
  exact b := by cases b <;> exact .int (by decide) (by decide)

instance : Keeps flagToJson flagOfJson? := ⟨fun b => by cases b <;> rfl⟩

instance : Writes 0 ActionType.toJson := ⟨nofun, fun t => .str t.name⟩

instance : Keeps ActionType.toJson ActionType.ofJson? := ⟨fun t => by cases t <;> decide⟩

instance : Writes 0 NotifyChannel.toJson := ⟨nofun, fun channel => .str channel.name⟩

instance : Keeps NotifyChannel.toJson NotifyChannel.ofJson? :=
  ⟨fun channel => by cases channel <;> decide⟩

instance : Keeps NotifyChannel.toJson NotifyChannel.ofMember? :=
  ⟨fun channel => by cases channel <;> decide⟩

/-! ## Rules -/

namespace ConfigItem

/-- The fields of a config item. -/
def wireFields (item : ConfigItem) : List Field :=
  [("id", some (ofUInt32 item.id)), ("key", some (.str item.key)),
    ("operator", some item.operator.toJson), ("value", some (.str item.value))]

theorem toJson_eq (item : ConfigItem) : item.toJson = .obj (written item.wireFields) := rfl

theorem finds (item : ConfigItem) : Finds layout item.wireFields item.wireFields := rfl

instance : Writes 1 toJson := .of_fields toJson_eq fun item => by simp [wireFields]

instance : Keeps toJson ofJson? where
  read_write item := by
    refine bind_of_some (slots_written item.finds) ?_
    refine bind_of_some (required_slotOf _ _) ?_
    refine bind_of_some (required_slotOf _ _) ?_
    refine bind_of_some (required_slotOf _ _) ?_
    exact bind_of_some (required_slotOf _ _) rfl

end ConfigItem

namespace LockStatus

/-- The fields of a lock state. -/
def wireFields (lock : LockStatus) : List Field :=
  [("isLockHolder", some (.bool lock.isLockHolder)),
    ("lockHolderName", some (ofOptional .str lock.holderName))]

theorem toJson_eq (lock : LockStatus) : lock.toJson = .obj (written lock.wireFields) := rfl

theorem finds (lock : LockStatus) : Finds layout lock.wireFields lock.wireFields := rfl

instance : Writes 1 toJson := .of_fields toJson_eq fun lock => by simp [wireFields]

theorem ofSlots_wireFields (lock : LockStatus) (name name' : String) :
    ofSlots (slotOf (name, some (.bool lock.isLockHolder)))
      (slotOf (name', some (ofOptional .str lock.holderName))) = some lock :=
  bind_of_some (withDefault_slotOf _ _ _) (bind_of_some (optionalOrNone_ofOptional _ _) rfl)

instance : Keeps toJson ofJson? where
  read_write lock := bind_of_some (slots_written lock.finds) (lock.ofSlots_wireFields _ _)

end LockStatus

namespace RuleRecord

/-- The fields of a record. -/
def wireFields (record : RuleRecord) : List Field :=
  let content := record.content
  [("id", some (ofInt64 record.id)), ("ruleCode", some (.str content.code)),
    ("ruleName", some (.str content.name)),
    ("ruleDesc", some (ofOptional .str content.description)),
    ("ruleType", some content.ruleType.toJson), ("enable", some (flagToJson content.enabled)),
    ("ruleConfigList", unlessEmpty ConfigItem.toJson content.items),
    ("condition", content.condition.map .str), ("regoContent", content.policy.map .str),
    ("isLockHolder", some (.bool record.lock.isLockHolder)),
    ("lockHolderName", some (ofOptional .str record.lock.holderName)),
    ("tenantId", some (ofOptional ofInt64 record.tenantId)),
    ("tenantName", some (ofOptional .str record.tenantName)),
    ("creatorName", some (ofOptional .str record.creatorName)),
    ("gmtCreate", some (ofOptional .str record.createdAt)),
    ("gmtModified", some (ofOptional .str record.modifiedAt))]

theorem toJson_eq (record : RuleRecord) : record.toJson = .obj (written record.wireFields) := by
  simp [toJson, wireFields, memberIf_eq, memberOfList_eq, LockStatus.toMembers, written]

theorem finds (record : RuleRecord) : Finds layout record.wireFields record.wireFields := rfl

instance : Writes 3 toJson := .of_fields toJson_eq fun record => by simp [wireFields]

instance : Keeps toJson ofJson? where
  read_write record := by
    rw [toJson_eq]
    refine bind_of_some (memberSlots_written record.finds rfl) ?_
    refine bind_of_some (required_slotOf _ _) ?_
    refine bind_of_some (withDefault_slotOf _ _ _) ?_
    refine bind_of_some (withDefault_slotOf _ _ _) ?_
    refine bind_of_some (optionalOrNone_ofOptional _ _) ?_
    refine bind_of_some (withDefault_slotOf _ _ _) ?_
    refine bind_of_some (withDefault_slotOf _ _ _) ?_
    refine bind_of_some (withDefault_unlessEmpty _ _) ?_
    refine bind_of_some (optionalOrNone_slotOf _ _) ?_
    refine bind_of_some (optionalOrNone_slotOf _ _) ?_
    refine bind_of_some (record.lock.ofSlots_wireFields _ _) ?_
    refine bind_of_some (optionalOrNone_ofOptional _ _) ?_
    refine bind_of_some (optionalOrNone_ofOptional _ _) ?_
    refine bind_of_some (optionalOrNone_ofOptional _ _) ?_
    refine bind_of_some (optionalOrNone_ofOptional _ _) ?_
    exact bind_of_some (optionalOrNone_ofOptional _ _) rfl

end RuleRecord

namespace RuleGroup

/-- The fields of a group. -/
def wireFields (group : RuleGroup) : List Field :=
  [("ruleCode", some (.str group.code)), ("displayName", some (.str group.displayName)),
    ("count", some (ofUInt64 group.count))]

theorem toJson_eq (group : RuleGroup) : group.toJson = .obj (written group.wireFields) := rfl

theorem finds (group : RuleGroup) : Finds layout group.wireFields group.wireFields := rfl

instance : Writes 1 toJson := .of_fields toJson_eq fun group => by simp [wireFields]

instance : Keeps toJson ofJson? where
  read_write group := by
    refine bind_of_some (slots_written group.finds) ?_
    refine bind_of_some (required_slotOf _ _) ?_
    refine bind_of_some (withDefault_slotOf _ _ _) ?_
    exact bind_of_some (withDefault_slotOf _ _ _) rfl

end RuleGroup

/-! ## Queries and forms

A query also stands in a request, with the number and the size of a page beside its own members. So
`RecordQuery.ofJson?_of_slots` and `GroupQuery.ofJson?_of_slots` ask for the slots of the query only
and leave open what else the object has. -/

namespace RecordQuery

/-- The fields of a query for records. -/
def wireFields (query : RecordQuery) : List Field :=
  [("ruleCode", query.code.map .str), ("ruleName", query.ruleName.map .str),
    ("ruleType", query.ruleType.map RuleType.toJson), ("tenantId", query.tenantId.map ofInt64),
    ("creatorName", query.creatorName.map .str)]

theorem toMembers_eq (query : RecordQuery) : query.toMembers = written query.wireFields := by
  simp [toMembers, wireFields, memberIf_eq, written]

theorem toJson_eq (query : RecordQuery) : query.toJson = .obj (written query.wireFields) :=
  congrArg _ query.toMembers_eq

theorem finds (query : RecordQuery) : Finds layout query.wireFields query.wireFields := rfl

instance : Writes 1 toJson := .of_fields toJson_eq fun query => by simp [wireFields]

/-- Whatever else stands beside it, a query is read from its fields. -/
theorem ofJson?_of_slots {json : Json} (query : RecordQuery)
    (h : slots layout json = some (query.wireFields.map slotOf)) : ofJson? json = some query := by
  refine bind_of_some h ?_
  refine bind_of_some (optional_slotOf _ _) ?_
  refine bind_of_some (optional_slotOf _ _) ?_
  refine bind_of_some (optional_slotOf _ _) ?_
  refine bind_of_some (optional_slotOf _ _) ?_
  exact bind_of_some (optional_slotOf _ _) rfl

instance : Keeps toJson ofJson? where
  read_write query := query.ofJson?_of_slots (by rw [toJson_eq, slots_written query.finds])

end RecordQuery

namespace GroupQuery

/-- The one field of a query for groups. -/
def wireFields (query : GroupQuery) : List Field := [("ruleCodeList", unlessEmpty .str query.codes)]

theorem toMembers_eq (query : GroupQuery) : query.toMembers = written query.wireFields :=
  memberOfList_eq _ _ _

theorem toJson_eq (query : GroupQuery) : query.toJson = .obj (written query.wireFields) :=
  congrArg _ query.toMembers_eq

theorem finds (query : GroupQuery) : Finds layout query.wireFields query.wireFields := rfl

instance : Writes 2 toJson := .of_fields toJson_eq fun query => by simp [wireFields]

/-- Whatever else stands beside it, a query is read from its field. -/
theorem ofJson?_of_slots {json : Json} (query : GroupQuery)
    (h : slots layout json = some (query.wireFields.map slotOf)) : ofJson? json = some query :=
  bind_of_some h (bind_of_some (withDefault_unlessEmpty _ _) rfl)

instance : Keeps toJson ofJson? where
  read_write query := query.ofJson?_of_slots (by rw [toJson_eq, slots_written query.finds])

end GroupQuery

namespace RuleForm

/-- The fields of a form. -/
def wireFields (form : RuleForm) : List Field :=
  let content := form.content
  [("id", form.id.map ofInt64), ("riskRuleCode", some (.str content.code)),
    ("ruleName", some (.str content.name)), ("ruleDesc", content.description.map .str),
    ("ruleType", some content.ruleType.toJson), ("enable", some (flagToJson content.enabled)),
    ("ruleConfigList", unlessEmpty ConfigItem.toJson content.items),
    ("condition", content.condition.map .str), ("regoContent", content.policy.map .str)]

theorem toJson_eq (form : RuleForm) : form.toJson = .obj (written form.wireFields) := by
  simp [toJson, wireFields, memberIf_eq, memberOfList_eq, written]

theorem finds (form : RuleForm) : Finds layout form.wireFields form.wireFields := rfl

instance : Writes 3 toJson := .of_fields toJson_eq fun form => by simp [wireFields]

instance : Keeps toJson ofJson? where
  read_write form := by
    rw [toJson_eq]
    refine bind_of_some (slots_written form.finds) ?_
    refine bind_of_some (optional_slotOf _ _) ?_
    refine bind_of_some (withDefault_slotOf _ _ _) ?_
    refine bind_of_some (required_slotOf _ _) ?_
    refine bind_of_some (optionalOrNone_slotOf _ _) ?_
    refine bind_of_some (required_slotOf _ _) ?_
    refine bind_of_some (required_slotOf _ _) ?_
    refine bind_of_some (withDefault_unlessEmpty _ _) ?_
    refine bind_of_some (optionalOrNone_slotOf _ _) ?_
    exact bind_of_some (optionalOrNone_slotOf _ _) rfl

end RuleForm

/-! ## Actions

The fields of an action stand beside its type in an `Action`, and beside a number as well in an
`ActionItem`. `ActionFields.ofSlots_wireFields` reads them wherever they stand. -/

namespace ActionFields

/-- The fields of an action without its type. -/
def wireFields (action : ActionFields) : List Field :=
  [("action", action.channel.map NotifyChannel.toJson), ("name", action.name.map .str),
    ("url", action.url.map .str), ("period", action.period.map .str),
    ("timeList", unlessEmpty .str action.times)]

theorem toMembers_eq (action : ActionFields) : action.toMembers = written action.wireFields := by
  simp [toMembers, wireFields, memberIf_eq, memberOfList_eq, written]

theorem toJson_eq (action : ActionFields) : action.toJson = .obj (written action.wireFields) :=
  congrArg _ action.toMembers_eq

theorem finds (action : ActionFields) : Finds layout action.wireFields action.wireFields := rfl

instance : Writes 2 toJson := .of_fields toJson_eq fun action => by simp [wireFields]

/-- The fields are read from their slots, whichever way the channel is read. -/
theorem ofSlots_wireFields (action : ActionFields) {readChannel : Json → Option NotifyChannel}
    [Keeps NotifyChannel.toJson readChannel] : ofSlots readChannel
      (slotOf ("action", action.channel.map NotifyChannel.toJson))
      (slotOf ("name", action.name.map .str)) (slotOf ("url", action.url.map .str))
      (slotOf ("period", action.period.map .str))
      (slotOf ("timeList", unlessEmpty .str action.times)) = some action := by
  refine bind_of_some (optionalOrNone_slotOf _ _) ?_
  refine bind_of_some (optionalOrNone_slotOf _ _) ?_
  refine bind_of_some (optionalOrNone_slotOf _ _) ?_
  refine bind_of_some (optionalOrNone_slotOf _ _) ?_
  exact bind_of_some (withDefault_unlessEmpty _ _) rfl

instance : Keeps toJson ofJson? where
  read_write action := by
    rw [toJson_eq]
    exact bind_of_some (slots_written action.finds) action.ofSlots_wireFields

end ActionFields

namespace Action

/-- The fields of an action. -/
def wireFields (action : Action) : List Field :=
  ("actionType", some action.actionType.toJson) :: action.fields.wireFields

theorem toMembers_eq (action : Action) : action.toMembers = written action.wireFields := by
  rw [toMembers, ActionFields.toMembers_eq]
  rfl

theorem toJson_eq (action : Action) : action.toJson = .obj (written action.wireFields) :=
  congrArg _ action.toMembers_eq

theorem finds (action : Action) : Finds layout action.wireFields action.wireFields := rfl

instance : Writes 2 toJson := .of_fields toJson_eq fun action => by
  simp [wireFields, ActionFields.wireFields]

instance : Keeps toJson ofJson? where
  read_write action := by
    rw [toJson_eq]
    refine bind_of_some (memberSlots_written action.finds rfl) ?_
    refine bind_of_some (required_slotOf _ _) ?_
    exact bind_of_some action.fields.ofSlots_wireFields rfl

end Action

namespace ActionItem

/-- The fields of a row. -/
def wireFields (item : ActionItem) : List Field :=
  ("idx", some (ofUInt32 item.idx)) :: item.action.wireFields

theorem toJson_eq (item : ActionItem) : item.toJson = .obj (written item.wireFields) := by
  rw [toJson, Action.toMembers_eq]
  rfl

theorem finds (item : ActionItem) : Finds layout item.wireFields item.wireFields := rfl

instance : Writes 2 toJson := .of_fields toJson_eq fun item => by
  simp [wireFields, Action.wireFields, ActionFields.wireFields]

instance : Keeps toJson ofJson? where
  read_write item := by
    rw [toJson_eq]
    refine bind_of_some (memberSlots_written item.finds rfl) ?_
    refine bind_of_some (required_slotOf _ _) ?_
    refine bind_of_some (required_slotOf _ _) ?_
    exact bind_of_some item.action.fields.ofSlots_wireFields rfl

end ActionItem

/-! ## Lists and envelopes -/

section

variable {room : Nat} {write : α → Json} {read : Json → Option α}

namespace Page

variable (write) in
/-- The fields of a page. -/
def wireFields (page : Page α) : List Field :=
  [("totalCount", some (ofUInt64 page.totalCount)), ("pageNumber", some (ofUInt64 page.pageNumber)),
    ("pagesAvailable", some (ofUInt64 page.pagesAvailable)),
    ("pageItems", some (ofList write page.items))]

theorem toJson_eq (page : Page α) : page.toJson write = .obj (written (page.wireFields write)) :=
  rfl

theorem finds (page : Page α) : Finds layout (page.wireFields write) (page.wireFields write) := rfl

instance [Writes room write] : Writes (room + 2) (toJson write) :=
  .of_fields toJson_eq fun page => by simp [wireFields]

instance [Keeps write read] : Keeps (toJson write) (ofJson? read) where
  read_write page := by
    refine bind_of_some (slots_written page.finds) ?_
    refine bind_of_some (required_slotOf _ _) ?_
    refine bind_of_some (required_slotOf _ _) ?_
    refine bind_of_some (required_slotOf _ _) ?_
    exact bind_of_some (required_slotOf _ _) rfl

end Page

namespace Listing

variable (write) in
/-- The fields of a listing. -/
def wireFields (listing : Listing α) : List Field :=
  [("data", some (ofList write listing.rows)), ("total", some (ofUInt64 listing.total))]

theorem toJson_eq (listing : Listing α) :
    listing.toJson write = .obj (written (listing.wireFields write)) := rfl

theorem finds (listing : Listing α) :
    Finds layout (listing.wireFields write) (listing.wireFields write) := rfl

instance [Writes room write] : Writes (room + 2) (toJson write) :=
  .of_fields toJson_eq fun listing => by simp [wireFields]

instance [Keeps write read] : Keeps (toJson write) (ofJson? read) where
  read_write listing := by
    refine bind_of_some (slots_written listing.finds) ?_
    refine bind_of_some (withDefault_slotOf _ _ _) ?_
    exact bind_of_some (withDefault_slotOf _ _ _) rfl

/-- A listing is not taken for rows alone. -/
instance [Writes room write] [Keeps write read] : Keeps (toJson write) (ofRowsOrJson? read) where
  read_write listing := by
    have hreadable : (listing.toJson write).readable = true := (Writes.exact listing).readable
    rw [ofRowsOrJson?, if_pos hreadable]
    exact read_write (toJson write) (ofJson? read) listing

end Listing

namespace Envelope

/-- The fields of an envelope with a content. -/
def wireFields (code : Int32) (message : Option String) (content : Json) : List Field :=
  [("code", some (ofInt32 code)), ("msg", some (ofOptional .str message)),
    ("content", some content)]

theorem toJson_eq (code : Int32) (message : Option String) (content : Json) :
    toJson id ⟨code, message, some content⟩ = .obj (written (wireFields code message content)) :=
  rfl

theorem finds (code : Int32) (message : Option String) (content : Json) :
    Finds layout (wireFields code message content) (wireFields code message content) := rfl

/-- An envelope is read with whatever its content is read as. -/
theorem ofJson?_toJson {content : Json} {answer : Option α}
    (hread : nullable read content = some answer) (code : Int32) (message : Option String) :
    ofJson? read (toJson id ⟨code, message, some content⟩) = some ⟨code, message, answer⟩ := by
  refine bind_of_some (slots_written (finds code message content)) ?_
  refine bind_of_some (required_slotOf _ _) ?_
  refine bind_of_some (optional_ofOptional _ _) ?_
  exact bind_of_some hread rfl

theorem exact_toJson {content : Json} (h : content.Exact room) (code : Int32)
    (message : Option String) : (toJson id ⟨code, message, some content⟩).Exact (room + 1) := by
  have hcontent : IsExact room ("content", some content) := fun value hvalue =>
    Option.some.inj hvalue ▸ h
  rw [toJson_eq]
  exact exact_written (by simp [wireFields, hcontent])

end Envelope

end

/-! ## All of them -/

/-- The types of what goes over the wire. -/
inductive WireType where
  | record
  | form
  | configItem
  | lock
  | group
  | recordQuery
  | groupQuery
  | actionFields
  | actionItem
  | action
  | recordPage
  | groupPage
  deriving DecidableEq, Repr

namespace WireType

/-- The values of a type. -/
abbrev Value : WireType → Type
  | record => RuleRecord
  | form => RuleForm
  | configItem => ConfigItem
  | lock => LockStatus
  | group => RuleGroup
  | recordQuery => RecordQuery
  | groupQuery => GroupQuery
  | actionFields => ActionFields
  | actionItem => ActionItem
  | action => Action
  | recordPage => Page RuleRecord
  | groupPage => Page RuleGroup

/-- How a value is written. -/
abbrev write : (type : WireType) → type.Value → Json
  | record => RuleRecord.toJson
  | form => RuleForm.toJson
  | configItem => ConfigItem.toJson
  | lock => LockStatus.toJson
  | group => RuleGroup.toJson
  | recordQuery => RecordQuery.toJson
  | groupQuery => GroupQuery.toJson
  | actionFields => ActionFields.toJson
  | actionItem => ActionItem.toJson
  | action => Action.toJson
  | recordPage => Page.toJson RuleRecord.toJson
  | groupPage => Page.toJson RuleGroup.toJson

/-- How a value is read. -/
abbrev read : (type : WireType) → Json → Option type.Value
  | record => RuleRecord.ofJson?
  | form => RuleForm.ofJson?
  | configItem => ConfigItem.ofJson?
  | lock => LockStatus.ofJson?
  | group => RuleGroup.ofJson?
  | recordQuery => RecordQuery.ofJson?
  | groupQuery => GroupQuery.ofJson?
  | actionFields => ActionFields.ofJson?
  | actionItem => ActionItem.ofJson?
  | action => Action.ofJson?
  | recordPage => Page.ofJson? RuleRecord.ofJson?
  | groupPage => Page.ofJson? RuleGroup.ofJson?

/-- The value that a text is, if it is one of the type. -/
def ofText? (type : WireType) (text : String) : Option type.Value :=
  (Json.ofText? text).bind type.read

/-- A text that loses nothing is read as what it was written from. -/
theorem ofText?_of_exact (type : WireType) {room : Nat} {json : Json} (h : json.Exact room)
    (hroom : room ≤ Json.Reader.maxDepth) :
    type.ofText? json.toText = type.read json ∧ type.ofText? json.pretty = type.read json := by
  rw [ofText?, ofText?, h.ofText?_toText hroom, h.ofText?_pretty hroom]
  exact ⟨rfl, rfl⟩

theorem keeps (type : WireType) : Keeps type.write type.read := by
  cases type <;> exact inferInstance

/-- The levels of nesting of the deepest type, a page of records. -/
def levels : Nat := 5

theorem exact (type : WireType) (value : type.Value) : (type.write value).Exact levels := by
  cases type <;> exact exact_write _ value (by decide)

/-- **What goes over the wire arrives**, in whichever of the two layouts it is written, and so what
has once been read stays the same however often it is written and read again. -/
theorem ofText?_write (type : WireType) :
    (∀ value : type.Value, type.read (type.write value) = some value
        ∧ type.ofText? (type.write value).toText = some value
        ∧ type.ofText? (type.write value).pretty = some value)
      ∧ ∀ text, (type.ofText? text).bind (fun value => type.ofText? (type.write value).toText)
        = type.ofText? text := by
  have hread (value : type.Value) : type.read (type.write value) = some value :=
    type.keeps.read_write value
  have hroom : levels ≤ Json.Reader.maxDepth := by decide
  have htext (value : type.Value) : type.ofText? (type.write value).toText = some value := by
    rw [ofText?, (type.exact value).ofText?_toText hroom, Option.bind_some, hread]
  have hpretty (value : type.Value) : type.ofText? (type.write value).pretty = some value := by
    rw [ofText?, (type.exact value).ofText?_pretty hroom, Option.bind_some, hread]
  refine ⟨fun value => ⟨hread value, htext value, hpretty value⟩, fun text => ?_⟩
  cases hvalue : type.ofText? text with
  | none => rfl
  | some value => exact htext value

end WireType
end Whitelist
