import Whitelist.Fault
import Whitelist.Field

/-!
# Notification actions

A subscription notifies people through a list of actions. A timing action sends a digest at fixed
times of day, a realtime action fires as soon as a risk appears.

## What is here

* `ActionType`, `NotifyChannel` — when a notification is sent, and where to.
* `ActionFields` — what the sub-form of an action fills in.
* `ActionError`, `ActionFields.check` — whether the fields are complete for a type of action.
* `Action` — an action as it is stored: its type and its fields, but no place of its own.
-/

set_option autoImplicit false
namespace Whitelist

/-- When a notification is sent. -/
inductive ActionType where
  | timing
  | realtime
  deriving DecidableEq, Repr

namespace ActionType

/-- The name of an action type. -/
def name : ActionType → String
  | timing => "timing"
  | realtime => "realtime"

/-- Both action types. -/
def all : List ActionType := [timing, realtime]

/-- The action type with exactly this name. -/
def ofName (s : String) : Except Fault ActionType :=
  match all.find? (·.name = s) with
  | some t => .ok t
  | none => .error (.validation s!"unknown action type '{s}'")

end ActionType

/-- Where a notification is delivered. -/
inductive NotifyChannel where
  | dingGroup
  | wechat
  | interfaceCallback
  deriving DecidableEq, Repr

namespace NotifyChannel

/-- The name of a channel. -/
def name : NotifyChannel → String
  | dingGroup => "dingGroup"
  | wechat => "wechat"
  | interfaceCallback => "interfaceCallback"

/-- All channels. -/
def all : List NotifyChannel := [dingGroup, wechat, interfaceCallback]

/-- Whether the channel addresses a named group chat; a callback only needs its address. -/
def needsGroupName : NotifyChannel → Bool
  | interfaceCallback => false
  | _ => true

end NotifyChannel

/-- What the sub-form of an action fills in. -/
structure ActionFields where
  channel : Option NotifyChannel := none
  name : Option String := none
  url : Option String := none
  period : Option String := none
  times : List String := []
  deriving DecidableEq, Repr

/-- Why the fields are refused. -/
inductive ActionReason where
  | channelRequired
  | callbackNotTimed
  | field (error : FieldError)
  | periodRequired
  | timeRequired
  deriving DecidableEq, Repr

/-- The text shown for a reason. -/
def ActionReason.text : ActionReason → String
  | channelRequired => "notification channel is required"
  | callbackNotTimed => "interface callbacks are only available for realtime notifications"
  | field error => error.code
  | periodRequired => "period is required"
  | timeRequired => "at least one notification time is required"

/-- A refusal of an action of this type. -/
structure ActionError where
  actionType : ActionType
  reason : ActionReason
  deriving DecidableEq, Repr

/-- The text shown for a refused action. -/
def ActionError.message (e : ActionError) : String :=
  s!"{e.actionType.name} action: {e.reason.text}"

/-- The refusal as a fault. -/
def ActionError.fault (e : ActionError) : Fault := .validation e.message

namespace ActionFields

/-- Whether nothing has been filled in. -/
def isEmpty (fields : ActionFields) : Bool := fields = {}

/-- A check on one field, as a check on the action. -/
def checkField (check : FieldCheck) : Except ActionReason Unit :=
  match check with
  | .ok () => .ok ()
  | .error e => .error (.field e)

/-- Every time of day in the list is well formed; the first that is not is reported. -/
def checkTimes : List String → Except ActionReason Unit
  | [] => .ok ()
  | time :: rest => do
    checkField (checkTimeOfDay time)
    checkTimes rest

/-- What a timing action needs beyond channel and address. -/
def checkSchedule (fields : ActionFields) : Except ActionReason Unit := do
  if (fields.period.map Text.isBlank).getD true then throw .periodRequired
  if fields.times = [] then throw .timeRequired
  checkTimes fields.times

/-- Whether the fields are complete for an action of this type. -/
def reasonAgainst (fields : ActionFields) (actionType : ActionType) : Except ActionReason Unit := do
  let some channel := fields.channel | throw .channelRequired
  if actionType = .timing ∧ channel = .interfaceCallback then throw .callbackNotTimed
  if channel.needsGroupName then checkField (checkTargetName (fields.name.getD ""))
  checkField (checkUrl (fields.url.getD ""))
  if actionType = .timing then checkSchedule fields

/-- Whether the fields are complete for an action of this type; the refusal names the type. -/
def check (fields : ActionFields) (actionType : ActionType) : Except ActionError Unit :=
  match fields.reasonAgainst actionType with
  | .ok () => .ok ()
  | .error reason => .error ⟨actionType, reason⟩

end ActionFields

/-- An action as it is stored and sent. -/
structure Action where
  actionType : ActionType
  fields : ActionFields := {}
  deriving DecidableEq, Repr

/-- Whether the action is complete. -/
def Action.check (action : Action) : Except ActionError Unit :=
  action.fields.check action.actionType

/-- Whether anything has been filled in. -/
def Action.isConfigured (action : Action) : Bool := !action.fields.isEmpty

end Whitelist
