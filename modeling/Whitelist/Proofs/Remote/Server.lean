import Whitelist.Proofs.Remote.Dialog
import Whitelist.Proofs.Remote.Url
import Whitelist.Proofs.Store.Visibility
import Whitelist.Proofs.Wire.RoundTrip

/-!
# A server in front of a store

A server keeps its records in memory and answers requests for one caller: it makes out the call from
the address and the body of a request, puts it to the store and writes the answer into an envelope.
A client of such a server does what the caller would do with the store itself.

## What is here

* `askOf` — the request that a client makes for a call.
* `callOf?` — the call that a server makes out from a request; `callOf?_of_prepare` says that it is
  the one that the request was made for.
* `contentFor`, `successText` — what a server answers a call with; `ofText?_successText` says what
  is read from it.
* `Serves` — a network with such a server behind it; `serving` is one.

The server is part of the theory and not of the program: it is what a client of the protocol may
suppose about the other side. `serving` shows that the supposition can be met. `Serves` is the
weaker form that the theorems use; it leaves the status, the message and everything about refusals
open.

A server goes by the last segments of an address, since it may stand behind any prefix. That they
are the ones which the client has written there is the theorem of `Proofs.Remote.Url`.
-/

set_option autoImplicit false
namespace Whitelist

/-! ## Requests for calls -/

namespace Remote

open Client (Ask address)
open Wire

/-- The request that a client makes for a call. -/
def askOf : StoreCall → Ask
  | .grabLock id => postEmpty s!"/grabLock/{id}"
  | .releaseLock id => postEmpty s!"/releaseLock/{id}"
  | .listRecords query page size => postJson "/list" (pageRequest query.toMembers page size)
  | .listGroups query page size =>
    postJson "/listGroupByRuleCode" (pageRequest query.toMembers page size)
  | .getRecord id => ⟨.get, basePath ++ s!"/{id}", none⟩
  | .setEnabled id enabled =>
    postJson "/changeStatus" (.obj [("id", ofInt64 id), ("enable", flagToJson enabled)])
  | .deleteRecord id => postEmpty s!"/delete/{id}"
  | .saveRecord form => postJson "/save" form.toJson
  | .operators => postEmpty "/operator"

/-! ## What a server makes of requests

Which call is meant follows from the method and from the last one or two segments; ids are in the
path for some calls and in the body for others. -/

/-- What the body of a request is read as. -/
def bodyOf? {α : Type} (read : Json → Option α) (request : Request) : Option α :=
  request.body.bind fun body => (Json.ofText? body.toText).bind read

/-- A query, and beside it the page that is wanted. -/
def pagedQuery? {α : Type} (read : Json → Option α) (json : Json) :
    Option (α × UInt64 × UInt64) := do
  let query ← read json
  let [page, size] ← slots [["page"], ["size"]] json | none
  return (query, ← required asUInt64 page, ← required asUInt64 size)

/-- A record and whether it is to be enabled. -/
def status? (json : Json) : Option (Int64 × Bool) := do
  let [id, enabled] ← slots [["id"], ["enable"]] json | none
  return (← required asInt64 id, ← required flagOfJson? enabled)

/-- The segments of an address, last first. -/
def segmentsOf (url : String) : List String := ((url.toList.splitOn '/').map .ofList).reverse

/-- The call that the last segment of a path and the body of a request ask for. -/
def bodyCall? (action : String) (request : Request) : Option StoreCall :=
  match action with
  | "list" => (bodyOf? (pagedQuery? RecordQuery.ofJson?) request).map fun (query, page, size) =>
    .listRecords query page size
  | "listGroupByRuleCode" =>
    (bodyOf? (pagedQuery? GroupQuery.ofJson?) request).map fun (query, page, size) =>
      .listGroups query page size
  | "changeStatus" => (bodyOf? status? request).map fun (id, enabled) => .setEnabled id enabled
  | "save" => (bodyOf? RuleForm.ofJson? request).map .saveRecord
  | "operator" => some .operators
  | _ => none

/-- The call that a segment of a path asks for, with an id behind it. -/
def idCall? (action : String) (id : Int64) : Option StoreCall :=
  match action with
  | "grabLock" => some (.grabLock id)
  | "releaseLock" => some (.releaseLock id)
  | "delete" => some (.deleteRecord id)
  | _ => none

/-- The call that a request asks for, made out from its method, the end of its path and its body. -/
def callOf? (request : Request) : Option StoreCall :=
  match request.method, segmentsOf request.url with
  | .get, id :: "whitedRule" :: _ => (Text.readInt64? id.toList).map .getRecord
  | .post, action :: "whitedRule" :: _ => bodyCall? action request
  | .post, id :: action :: "whitedRule" :: _ => (Text.readInt64? id.toList).bind (idCall? action)
  | _, _ => none

/-! ## A server makes out the call that a request was made for

The path of a request ends with `tailOf` of its call, which consists of fixed words and of numbers,
and these are plain in the sense of `Proofs.Remote.Url`. -/

/-- The segments of the path for a call, without the first. -/
def tailOf : StoreCall → List String
  | .grabLock id => ["whitedRule", "grabLock", toString id]
  | .releaseLock id => ["whitedRule", "releaseLock", toString id]
  | .listRecords .. => ["whitedRule", "list"]
  | .listGroups .. => ["whitedRule", "listGroupByRuleCode"]
  | .getRecord id => ["whitedRule", toString id]
  | .setEnabled .. => ["whitedRule", "changeStatus"]
  | .deleteRecord id => ["whitedRule", "delete", toString id]
  | .saveRecord _ => ["whitedRule", "save"]
  | .operators => ["whitedRule", "operator"]

/-- The path of a request is written with these segments. -/
theorem path_askOf (call : StoreCall) :
    (askOf call).path.toList = Url.pathOf (("api" :: tailOf call).map String.toList) := by
  have hstring (s : String) : toString s = s := rfl
  cases call <;> simp [askOf, tailOf, postEmpty, postJson, basePath, Url.pathOf, hstring]

/-- A text that may be a segment of a plain path. -/
def IsSegment (text : String) : Prop :=
  text.toList ≠ [] ∧ text.toList.all Url.isPlain = true

instance (text : String) : Decidable (IsSegment text) := inferInstanceAs (Decidable (_ ∧ _))

/-- A number is written with digits, and perhaps a dash. -/
theorem isSegment_toString (n : Int64) : IsSegment (toString n) := by
  have hdigits (m : Nat) : (Nat.toDigits 10 m).all Url.isPlain = true :=
    List.all_eq_true.mpr fun c hc => by
      rw [Url.isPlain, Char.isAlphanum, Text.isDigit_of_mem_toDigits hc, Bool.or_true, Bool.true_or]
  have htext : toString n = n.toInt.repr := rfl
  rw [IsSegment, htext, Int.repr_eq_if]
  split
  · rw [Nat.toList_repr]
    exact ⟨Nat.toDigits_ne_nil, hdigits _⟩
  · rw [String.toList_append, Nat.toList_repr, List.all_append, hdigits]
    exact ⟨by simp, rfl⟩

/-- The words that paths are made of. -/
def words : List String := ["api", "whitedRule", "grabLock", "releaseLock", "list",
  "listGroupByRuleCode", "changeStatus", "delete", "save", "operator"]

theorem isSegment_of_mem_words : ∀ word ∈ words, IsSegment word := by decide

theorem mem_tailOf (call : StoreCall) : ∀ text ∈ tailOf call,
    text ∈ words ∨ ∃ id : Int64, text = toString id := by
  cases call <;> simp [tailOf, words]

theorem isSegment_of_mem (call : StoreCall) {text : String} (h : text ∈ "api" :: tailOf call) :
    IsSegment text := by
  rcases List.mem_cons.mp h with rfl | h
  · exact isSegment_of_mem_words _ List.mem_cons_self
  · rcases mem_tailOf call text h with h | ⟨id, rfl⟩
    · exact isSegment_of_mem_words text h
    · exact isSegment_toString id

theorem plainPath_tailOf (call : StoreCall) :
    Url.PlainPath (("api" :: tailOf call).map String.toList) where
  ne_nil := by simp
  segment_ne_nil segment hsegment := by
    obtain ⟨text, htext, rfl⟩ := List.mem_map.mp hsegment
    exact (isSegment_of_mem call htext).1
  plain segment hsegment := by
    obtain ⟨text, htext, rfl⟩ := List.mem_map.mp hsegment
    exact List.all_eq_true.mp (isSegment_of_mem call htext).2

variable {call : StoreCall} {server contextPath : String} {request : Request}

/-- They are the last segments of the address that is sent to. -/
theorem segmentsOf_of_prepare (h : Request.prepare (askOf call).method
      (address server contextPath (askOf call).path) none (askOf call).body = .ok request) :
    ∃ front, segmentsOf request.url = (tailOf call).reverse ++ front := by
  have hplain := plainPath_tailOf call
  have hne : (tailOf call).map String.toList ≠ [] := by cases call <;> simp [tailOf]
  have hbehind : Url.PlainPath ((tailOf call).map String.toList) := ⟨hne,
    fun s hs => hplain.segment_ne_nil s (List.mem_cons_of_mem _ hs),
    fun s hs => hplain.plain s (List.mem_cons_of_mem _ hs)⟩
  obtain ⟨front, hfront⟩ : ∃ front, front ++ Url.pathOf ((tailOf call).map String.toList)
      = request.url.toList := Url.suffix_url hplain hne (path_askOf call) h
  have hback : ((tailOf call).map String.toList).map String.ofList = tailOf call := by
    simp [Function.comp_def]
  refine ⟨((front.splitOn '/').map String.ofList).reverse, ?_⟩
  rw [segmentsOf, ← hfront, Url.splitOn_pathOf hbehind, List.map_append, List.reverse_append, hback]

/-- The fields for the page that is wanted. -/
def pageFields (page size : UInt64) : List Field :=
  [("page", some (ofUInt64 page)), ("size", some (ofUInt64 size))]

theorem pageRequest_eq {members : List (String × Json)} {fields : List Field}
    (h : members = written fields) (page size : UInt64) :
    pageRequest members page size = .obj (written (fields ++ pageFields page size)) := by
  rw [pageRequest, h, written_append]
  rfl

/-- A query and the page beside it are read independently of each other. -/
theorem pagedQuery?_eq {α : Type} {read : Json → Option α} {query : α} {fields : List Field}
    {page size : UInt64}
    (hread : read (.obj (written (fields ++ pageFields page size))) = some query)
    (hfinds : Finds [["page"], ["size"]] (fields ++ pageFields page size) (pageFields page size)) :
    pagedQuery? read (.obj (written (fields ++ pageFields page size)))
      = some (query, page, size) := by
  refine bind_of_some hread ?_
  refine bind_of_some (slots_written hfinds) ?_
  refine bind_of_some (required_slotOf _ _) ?_
  exact bind_of_some (required_slotOf _ _) rfl

/-- The fields that enable or disable a record. -/
def statusFields (id : Int64) (enabled : Bool) : List Field :=
  [("id", some (ofInt64 id)), ("enable", some (flagToJson enabled))]

theorem status?_eq (id : Int64) (enabled : Bool) :
    status? (.obj (written (statusFields id enabled))) = some (id, enabled) := by
  refine bind_of_some (slots_written (show Finds _ _ (statusFields id enabled) from rfl)) ?_
  refine bind_of_some (required_slotOf _ _) ?_
  exact bind_of_some (required_slotOf _ _) rfl

/-- What is read from a body is what was put into it. No body is nested deeper than a form. -/
theorem bodyOf?_eq {α : Type} {read : Json → Option α} {a : α} {request : Request}
    {fields : List Field} (hbody : request.body = some (.obj (written fields)))
    (hexact : ∀ field ∈ fields, IsExact 2 field) (hread : read (.obj (written fields)) = some a) :
    bodyOf? read request = some a := by
  rw [bodyOf?, hbody, Option.bind_some, (exact_written hexact).ofText?_toText (by decide),
    Option.bind_some, hread]

/-- **A server makes out the call that a request was made for**, from whatever address the request
was prepared. -/
theorem callOf?_of_prepare (h : Request.prepare (askOf call).method
      (address server contextPath (askOf call).path) none (askOf call).body = .ok request) :
    callOf? request = some call := by
  obtain ⟨front, hsegments⟩ := segmentsOf_of_prepare h
  obtain ⟨hmethod, -, hbody⟩ := Client.prepare_eq_ok h
  rw [callOf?, hmethod, hsegments]
  cases call with
  | grabLock id | releaseLock id | deleteRecord id =>
    show (Text.readInt64? (toString id).toList).bind _ = _
    rw [Text.readInt64?_toString]
    rfl
  | getRecord id =>
    show (Text.readInt64? (toString id).toList).map _ = _
    rw [Text.readInt64?_toString]
    rfl
  | operators => rfl
  | saveRecord form =>
    have hform := form.toJson_eq
    have hread : RuleForm.ofJson? (.obj (written form.wireFields)) = some form := by
      rw [← hform, read_write RuleForm.toJson RuleForm.ofJson?]
    have hexact : ∀ field ∈ form.wireFields, IsExact 2 field := by simp [RuleForm.wireFields]
    show (bodyOf? RuleForm.ofJson? request).map _ = _
    rw [bodyOf?_eq (hbody.trans (congrArg some hform)) hexact hread]
    rfl
  | setEnabled id enabled =>
    have hexact : ∀ field ∈ statusFields id enabled, IsExact 2 field := by simp [statusFields]
    show (bodyOf? status? request).map _ = _
    rw [bodyOf?_eq hbody hexact (status?_eq id enabled)]
    rfl
  | listRecords query page size =>
    have hpage := pageRequest_eq query.toMembers_eq page size
    have hread := query.ofJson?_of_slots (slots_written
      (show Finds _ (query.wireFields ++ pageFields page size) _ from rfl))
    have hexact : ∀ field ∈ query.wireFields ++ pageFields page size, IsExact 2 field := by
      simp [RecordQuery.wireFields, pageFields]
    show (bodyOf? (pagedQuery? RecordQuery.ofJson?) request).map _ = _
    rw [bodyOf?_eq (hbody.trans (congrArg some hpage)) hexact (pagedQuery?_eq hread rfl)]
    rfl
  | listGroups query page size =>
    have hpage := pageRequest_eq query.toMembers_eq page size
    have hread := query.ofJson?_of_slots (slots_written
      (show Finds _ (query.wireFields ++ pageFields page size) _ from rfl))
    have hexact : ∀ field ∈ query.wireFields ++ pageFields page size, IsExact 2 field := by
      simp [GroupQuery.wireFields, pageFields]
    show (bodyOf? (pagedQuery? GroupQuery.ofJson?) request).map _ = _
    rw [bodyOf?_eq (hbody.trans (congrArg some hpage)) hexact (pagedQuery?_eq hread rfl)]
    rfl

/-! ## Answers

What a caller is told goes into the content of an envelope, in the form that the client reads. -/

/-- The content that a call is answered with. -/
def contentFor : (call : StoreCall) → call.Answer → Json
  | .grabLock _, lock => lock.toJson
  | .listRecords .., page => Listing.toJson RuleRecord.toJson ⟨page.items, page.totalCount⟩
  | .listGroups .., page => Listing.toJson RuleGroup.toJson ⟨page.items, page.totalCount⟩
  | .getRecord _, record => record.toJson
  | .saveRecord _, id => .obj [("effectId", ofInt64 id)]
  | .operators, operators => ofList Operator.toJson operators
  | .releaseLock _, () | .setEnabled .., () | .deleteRecord _, () => .null

/-- The one field of the answer to a save. -/
def effectFields (id : Int64) : List Field := [("effectId", some (ofInt64 id))]

theorem effectId?_eq (id : Int64) : effectId? (.obj (written (effectFields id))) = some id := by
  refine bind_of_some (slots_written (show Finds _ _ (effectFields id) from rfl)) ?_
  exact required_slotOf _ _

/-- The deepest content is a listing of records. -/
def contentLevels : Nat := 5

/-- The text of a content loses nothing. -/
theorem exact_contentFor (call : StoreCall) (value : call.Answer) :
    (contentFor call value).Exact contentLevels := by
  cases call with
  | grabLock id => exact exact_write LockStatus.toJson value (by decide)
  | listRecords query page size =>
    exact exact_write (Listing.toJson RuleRecord.toJson) _ (by decide)
  | listGroups query page size => exact exact_write (Listing.toJson RuleGroup.toJson) _ (by decide)
  | getRecord id => exact exact_write RuleRecord.toJson value (by decide)
  | saveRecord form =>
    have hexact : ∀ field ∈ effectFields value, IsExact 4 field := by simp [effectFields]
    exact exact_written hexact
  | operators => exact exact_write (ofList Operator.toJson) value (by decide)
  | releaseLock id | setEnabled id enabled | deleteRecord id => exact .null

/-- A lock state is found in its content, in which no name is repeated. -/
theorem statusIn_toJson (lock : LockStatus) : statusIn (some lock.toJson.collapse) = some lock := by
  obtain ⟨isLockHolder, holderName⟩ := lock
  cases holderName <;> rfl

/-- The body of an answer that says success. -/
def successText (message : Option String) (content : Json) : String :=
  (Envelope.toJson id ⟨Envelope.successCode, message, some content⟩).toText

/-- An answer that says success is read with whatever its content is read as. -/
theorem ofText?_successText {α : Type} {read : Json → Option α} {content : Json} {a : Option α}
    (hread : nullable read content = some a) (hexact : content.Exact contentLevels)
    (message : Option String) :
    (Json.ofText? (successText message content)).bind (Envelope.ofJson? read)
      = some ⟨Envelope.successCode, message, a⟩ := by
  rw [successText, (Envelope.exact_toJson hexact _ _).ofText?_toText (by decide), Option.bind_some,
    Envelope.ofJson?_toJson hread]

/-- Behind this network a server keeps a store, and answers each call that this caller may make
with success, with any status and message that say so. -/
structure Serves (caller : Caller) (transport : Transport MemoryStore) : Prop where
  answers : ∀ (request : Request) (call : StoreCall) (store later : MemoryStore)
    (value : call.Answer), callOf? request = some call →
    ((MemoryStore.session caller).answer call).on store = (.ok value, later) →
    ∃ (response : Response) (message : Option String),
      (transport.send request).run store = (some response, later)
        ∧ 200 ≤ response.status ∧ response.status < 300
        ∧ response.body = successText message (contentFor call value)

/-- The body of an answer that says why a call was refused. -/
def failureText (fault : Fault) : String :=
  (Envelope.toJson id (.failure 400 fault.message)).toText

/-- A server that keeps a store and answers for one caller. -/
def serving (caller : Caller) : Transport MemoryStore where
  send request store :=
    match callOf? request with
    | none => (some ⟨404, ""⟩, store)
    | some call =>
      match ((MemoryStore.session caller).answer call).on store with
      | (.ok value, later) =>
        (some ⟨200, successText (some Envelope.successText) (contentFor call value)⟩, later)
      | (.error fault, later) => (some ⟨200, failureText fault⟩, later)

/-- There is such a server. -/
theorem serves_serving (caller : Caller) : Serves caller (serving caller) where
  answers request call store later value hcall hanswer := by
    refine ⟨⟨200, successText (some Envelope.successText) (contentFor call value)⟩, _, ?_,
      Nat.le_refl 200, by simp, rfl⟩
    show (match callOf? request with | none => _ | some call => _) = _
    rw [hcall]
    dsimp only
    rw [hanswer]

end Remote
end Whitelist
