import Whitelist.Remote.Client
import Whitelist.Store.Basic
import Whitelist.Wire.Page
import Whitelist.Wire.Rule

/-!
# The remote store

Each of the nine calls as a request to a server. A server answers with an envelope; a code other
than 200 is an error, also where the status is success.

## What is here

* `contentOf`, `call` — the content of an envelope, and a call for it.
* `grab`, `release`, `list`, `listGroups`, `operators`, `detail`, `changeStatus`, `delete`, `save` —
  the requests.
* `store` — a client as a `RuleStore`.
-/

set_option autoImplicit false
namespace Whitelist.Remote

open Client (Dialog Ask)

variable {τ : Type} (settings : ClientSettings) (transport : Transport τ)

/-- Where all paths start. -/
def basePath : String := "/api/whitedRule"

/-- The content of an envelope that says success. -/
def contentOf {α : Type} (envelope : Envelope α) : Except ClientError (Option α) :=
  if envelope.isSuccess then .ok envelope.content else .error (.server envelope.code envelope.text)

/-- The content that a request is answered with. -/
def call {α : Type} (read : Json → Option α) (ask : Ask) : Dialog τ (Option α) := do
  let envelope ← Client.request settings transport (Envelope.ofJson? read) ask
  (contentOf envelope : Except ClientError (Option α))

/-- Any value; of members with one name the last counts. -/
def anyValue (json : Json) : Option Json := if json.readable then some json.collapse else none

/-- A request without a body. -/
def postEmpty (path : String) : Ask := ⟨.post, basePath ++ path, none⟩

/-- A request with a body. -/
def postJson (path : String) (body : Json) : Ask := ⟨.post, basePath ++ path, some body⟩

/-! ## Requests -/

/-- The lock state that the answer to a grab gives; older servers give none. -/
def statusIn (content : Option Json) : Option LockStatus :=
  match content with
  | some (.obj members) => LockStatus.ofJson? (.obj members)
  | _ => none

/-- Ask for the edit lock. -/
def grab (id : Int64) : Dialog τ (Option LockStatus) := do
  return statusIn (← call settings transport anyValue (postEmpty s!"/grabLock/{id}"))

/-- Give the edit lock back. -/
def release (id : Int64) : Dialog τ Unit := do
  let _ ← call settings transport anyValue (postEmpty s!"/releaseLock/{id}")

/-- A query with the page that is wanted. -/
def pageRequest (query : List (String × Json)) (page size : UInt64) : Json :=
  .obj (query ++ [("page", Wire.ofUInt64 page), ("size", Wire.ofUInt64 size)])

/-- The page in an answer; no content is a page without rows. -/
def pageIn {α : Type} (content : Option (Listing α)) (page size : UInt64) : Page α :=
  match content with
  | some listing => listing.toPage page size
  | none => Page.new 0 page size []

/-- One page of the records that a query wants. -/
def list (query : RecordQuery) (page size : UInt64) : Dialog τ (Page RuleRecord) := do
  let content ← call settings transport (Listing.ofRowsOrJson? RuleRecord.ofJson?)
    (postJson "/list" (pageRequest query.toMembers page size))
  return pageIn content page size

/-- One page of the groups that a query wants. -/
def listGroups (query : GroupQuery) (page size : UInt64) : Dialog τ (Page RuleGroup) := do
  let content ← call settings transport (Listing.ofRowsOrJson? RuleGroup.ofJson?)
    (postJson "/listGroupByRuleCode" (pageRequest query.toMembers page size))
  return pageIn content page size

/-- The comparisons that the server accepts. -/
def operators : Dialog τ (List Operator) := do
  let content ← call settings transport (Wire.asList Operator.ofJson?) (postEmpty "/operator")
  return content.getD []

/-- One record. Success without a content means that there is none. -/
def detail (id : Int64) : Dialog τ RuleRecord := do
  let content ← call settings transport RuleRecord.ofJson?
    ⟨.get, basePath ++ s!"/{id}", none⟩
  match content with
  | some record => return record
  | none => throw (.server 404 s!"whited rule {id}")

/-- Enable or disable a record. -/
def changeStatus (id : Int64) (enabled : Bool) : Dialog τ Unit := do
  let body := Json.obj [("id", Wire.ofInt64 id), ("enable", flagToJson enabled)]
  let _ ← call settings transport anyValue (postJson "/changeStatus" body)

/-- Delete a record. -/
def delete (id : Int64) : Dialog τ Unit := do
  let _ ← call settings transport anyValue (postEmpty s!"/delete/{id}")

/-- The id of the record that a save affected. -/
def effectId? (json : Json) : Option Int64 := do
  let [id] ← Wire.slots [["effectId"]] json | none
  Wire.required Wire.asInt64 id

/-- A record was created, but which one is not known. -/
def noEffectId : ClientError := .other "save succeeded without returning an id"

/-- Create or update a record. A server that gives no id back has saved the one that was sent. -/
def save (form : RuleForm) : Dialog τ Int64 := do
  let effect ← call settings transport effectId? (postJson "/save" form.toJson)
  match effect, form.id with
  | some id, _ => return id
  | none, some id => return id
  | none, none => throw noEffectId

/-! ## The store -/

/-- What a client does, with its errors as faults. -/
def attempt {α : Type} (dialog : Dialog τ α) : Attempt (Link τ) α :=
  .of fun link =>
    match dialog.run link with
    | (.ok a, link) => (.ok a, link)
    | (.error e, link) => (.error e.fault, link)

/-- Ask for the edit lock; where the answer gives no lock state, read the record for it. -/
def grabLock (id : Int64) : Attempt (Link τ) LockStatus := do
  match ← attempt (grab settings transport id) with
  | some status => return status
  | none => return (← attempt (detail settings transport id)).lock

/-- A client as a store. -/
def store : RuleStore (Link τ) where
  answer
    | .grabLock id => grabLock settings transport id
    | .releaseLock id => attempt (release settings transport id)
    | .listRecords query page size => attempt (list settings transport query page size)
    | .listGroups query page size => attempt (listGroups settings transport query page size)
    | .getRecord id => attempt (detail settings transport id)
    | .setEnabled id enabled => attempt (changeStatus settings transport id enabled)
    | .deleteRecord id => attempt (delete settings transport id)
    | .saveRecord form => attempt (save settings transport form)
    | .operators => attempt (operators settings transport)

end Whitelist.Remote
