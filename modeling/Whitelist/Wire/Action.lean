import Whitelist.Action.Editor
import Whitelist.Wire.Layout

/-!
# Actions on the wire

The fields of an action stand beside its type, in one object. Fields that are not filled in are not
written.

## What is here

For each type `T` of `ActionType`, `NotifyChannel`, `ActionFields`, `Action` and `ActionItem`:
`T.toJson` writes a value and `T.ofJson?` reads one.
-/

set_option autoImplicit false
namespace Whitelist

open Wire

/-- An action type is written by its name. -/
def ActionType.toJson (t : ActionType) : Json := .str t.name

/-- An action type is read by its name. -/
def ActionType.ofJson? : Json → Option ActionType := asName all name

/-- A channel is written by its name. -/
def NotifyChannel.toJson (channel : NotifyChannel) : Json := .str channel.name

/-- A channel is read by its name. -/
def NotifyChannel.ofJson? : Json → Option NotifyChannel := asName all name

/-- A channel is read by its name where it stands beside an action's type. -/
def NotifyChannel.ofMember? : Json → Option NotifyChannel := asNameLoosely all name

namespace ActionFields

/-- The members that the fields are written as: only those that are filled in. -/
def toMembers (fields : ActionFields) : List (String × Json) :=
  memberIf "action" NotifyChannel.toJson fields.channel ++ memberIf "name" .str fields.name
    ++ memberIf "url" .str fields.url ++ memberIf "period" .str fields.period
    ++ memberOfList "timeList" .str fields.times

/-- The fields as an object of their own. -/
def toJson (fields : ActionFields) : Json := .obj fields.toMembers

/-- The names of the fields. -/
def layout : List FieldNames := [["action"], ["name"], ["url"], ["period"], ["timeList"]]

/-- The fields from their slots. -/
def ofSlots (readChannel : Json → Option NotifyChannel) (channel name url period times : Slot) :
    Option ActionFields := do
  return {
    channel := ← optionalOrNone readChannel channel
    name := ← optionalOrNone asString name
    url := ← optionalOrNone asString url
    period := ← optionalOrNone asString period
    times := ← withDefault [] (asList asString) times }

/-- The fields from an object or an array of their own. -/
def ofJson? (json : Json) : Option ActionFields := do
  let [channel, name, url, period, times] ← slots layout json | none
  ofSlots NotifyChannel.ofJson? channel name url period times

end ActionFields

namespace Action

/-- The members that an action is written as: its type, then its fields. -/
def toMembers (action : Action) : List (String × Json) :=
  ("actionType", action.actionType.toJson) :: action.fields.toMembers

/-- An action as an object. -/
def toJson (action : Action) : Json := .obj action.toMembers

/-- The fields of an action, its type first. -/
def layout : List FieldNames := ["actionType"] :: ActionFields.layout

/-- An action from an object; only the type is required. -/
def ofJson? (json : Json) : Option Action := do
  let [actionType, channel, name, url, period, times] ← memberSlots layout json | none
  return {
    actionType := ← required ActionType.ofJson? actionType
    fields := ← ActionFields.ofSlots NotifyChannel.ofMember? channel name url period times }

end Action

namespace ActionItem

/-- A row as an object: its number before the action. -/
def toJson (item : ActionItem) : Json :=
  .obj (("idx", ofUInt32 item.idx) :: item.action.toMembers)

/-- The fields of a row. -/
def layout : List FieldNames := ["idx"] :: Action.layout

/-- A row from an object; number and type are required. -/
def ofJson? (json : Json) : Option ActionItem := do
  let [idx, actionType, channel, name, url, period, times] ← memberSlots layout json | none
  return {
    idx := ← required asUInt32 idx
    action := {
      actionType := ← required ActionType.ofJson? actionType
      fields := ← ActionFields.ofSlots NotifyChannel.ofMember? channel name url period times } }

end ActionItem
end Whitelist
