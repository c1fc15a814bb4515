import Whitelist.Proofs.Remote.Server

/-!
# The requests behind the calls of a store

Each call of a store is one request, and something that is made of the content of the envelope that
comes back. Only a grab may take a second request: where its answer tells no lock state, the record
is read for it.

## What is here

* `Endpoint` — a request, how the content of its answer is read, and what is made of that.
* `grabbing`, `endpointOf` — the endpoints of the nine calls; `answer_eq` and `grabLock_on` say
  that the calls of a store are requests to them.
* `Endpoint.dialog_on` — a request to an endpoint is settled by its envelope.
* `answer_on_keeps`, `answer_on_error` — what is known of all requests is known of all calls.
* `twoServers`, `noOperators` — settings and an answer to try things with.

Nine calls with nine ways of reading an answer would mean nine proofs of everything. `Endpoint`
takes them apart into data: what is asked, how the content is read, what is made of it. A statement
about all calls is then proved for a request to any endpoint, and carried over by `answer_on_keeps`
or `answer_on_error`. Grabs need a word of their own, since a second request may follow.
-/

set_option autoImplicit false
namespace Whitelist
namespace Remote

open Client

variable {τ α β : Type} (settings : ClientSettings) (transport : Transport τ)

/-- Beside a query there is always the page that is wanted, which no login asks for. -/
theorem pageRequest_ne_loginForm (query : List (String × Json)) (page size : UInt64) :
    some (pageRequest query page size) ≠ some (loginForm settings) := by
  intro h
  have hmembers := Json.obj.inj (Option.some_inj.mp h)
  have hpage : ("page", Wire.ofUInt64 page) ∈ query ++ [("page", Wire.ofUInt64 page),
      ("size", Wire.ofUInt64 size)] := by simp
  rw [hmembers] at hpage
  simp at hpage

theorem form_ne_loginForm (form : RuleForm) : some form.toJson ≠ some (loginForm settings) := by
  intro h
  have hmembers := Json.obj.inj (Option.some_inj.mp h)
  have hname : ("ruleName", Json.str form.content.name) ∈ [("userId", Json.str settings.username),
      ("password", Json.str settings.password)] := by
    rw [← hmembers]
    simp
  simp at hname

/-- No call asks for anything with the form of a login. -/
theorem body_askOf_ne (call : StoreCall) : (askOf call).body ≠ some (loginForm settings) := by
  cases call with
  | listRecords query page size | listGroups query page size =>
    exact pageRequest_ne_loginForm settings _ page size
  | saveRecord form => exact form_ne_loginForm settings form
  | setEnabled id enabled =>
    intro h
    have hmembers := Json.obj.inj (Option.some_inj.mp h)
    simp at hmembers
  | grabLock id | releaseLock id | getRecord id | deleteRecord id | operators =>
    exact nofun

/-! ## Endpoints

An endpoint may make something of a missing content or complain about it, which is its `make`. -/

/-- What is asked of a server, how the content of the answer is read, and what is made of it. -/
structure Endpoint (α β : Type) where
  ask : Ask
  read : Json → Option α
  make : Option α → Except ClientError β
  /-- Nothing is asked for with the form of a login. -/
  body_ne (settings : ClientSettings) : ask.body ≠ some (loginForm settings)
  /-- Where a record is read, and nowhere else, no content means that the record is missing. -/
  make_missing_iff (content : Option α) :
    (∃ text, make content = .error (.server 404 text)) ↔ content = none ∧ ask.method = .get

namespace Endpoint

/-- A request to an endpoint. -/
def dialog (endpoint : Endpoint α β) : Dialog τ β := do
  let content ← call settings transport endpoint.read endpoint.ask
  (endpoint.make content : Except ClientError β)

/-- What an endpoint makes of an envelope. -/
def settle (endpoint : Endpoint α β) (envelope : Envelope α) : Except ClientError β :=
  contentOf envelope >>= endpoint.make

/-- What the request of an endpoint brings over a link. -/
def received (endpoint : Endpoint α β) (link : Link τ) :
    Except ClientError (Envelope α) × Link τ :=
  (Client.request settings transport (Envelope.ofJson? endpoint.read) endpoint.ask).on link

variable {settings transport}

/-- A request to an endpoint is settled by its envelope, which leaves the link as it is. -/
theorem dialog_on (endpoint : Endpoint α β) (link : Link τ) :
    (endpoint.dialog settings transport).on link
      = ((endpoint.received settings transport link).1 >>= endpoint.settle,
        (endpoint.received settings transport link).2) := by
  rw [dialog, Dialog.on_bind, call, Dialog.on_bind, received]
  rcases (Client.request settings transport (Envelope.ofJson? endpoint.read) endpoint.ask).on link
    with ⟨e | envelope, later⟩
  · rfl
  · dsimp only
    rw [Dialog.on_liftM]
    show _ = (contentOf envelope >>= endpoint.make, later)
    cases contentOf envelope with
    | error e => rfl
    | ok content =>
      dsimp only
      rw [Dialog.on_liftM]
      rfl

end Endpoint

/-! ## The endpoints of the calls

`grabbing` reads its content as any JSON value, since what a grab is answered with may be no lock
state at all. -/

/-- An endpoint that makes something of any content, and of none. -/
def plain (call : StoreCall) (hpost : (askOf call).method = .post) (read : Json → Option α)
    (make : Option α → β) : Endpoint α β where
  ask := askOf call
  read := read
  make content := .ok (make content)
  body_ne settings := body_askOf_ne settings call
  make_missing_iff content := by simp [hpost]

/-- The endpoint where the edit lock is asked for. -/
def grabbing (id : Int64) : Endpoint Json (Option LockStatus) :=
  plain (.grabLock id) rfl anyValue statusIn

/-- The endpoint where a record is read, for something that it tells. -/
def reading (id : Int64) (part : RuleRecord → β) : Endpoint RuleRecord β where
  ask := askOf (.getRecord id)
  read := RuleRecord.ofJson?
  make
    | some record => .ok (part record)
    | none => .error (.server 404 s!"whited rule {id}")
  body_ne settings := body_askOf_ne settings (.getRecord id)
  make_missing_iff content := by cases content <;> simp [askOf]

/-- The endpoint where a record is saved. -/
def saving (form : RuleForm) : Endpoint Int64 Int64 where
  ask := askOf (.saveRecord form)
  read := effectId?
  make effect :=
    match effect, form.id with
    | some id, _ => .ok id
    | none, some id => .ok id
    | none, none => .error noEffectId
  body_ne settings := body_askOf_ne settings (.saveRecord form)
  make_missing_iff effect := by
    cases effect <;> cases form.id <;> simp [askOf, postJson, noEffectId]

/-- What the content of the answer that settles a call is read as. -/
@[reducible] def Content : StoreCall → Type
  | .grabLock _ | .getRecord _ => RuleRecord
  | .releaseLock _ | .setEnabled .. | .deleteRecord _ => Json
  | .listRecords .. => Listing RuleRecord
  | .listGroups .. => Listing RuleGroup
  | .saveRecord _ => Int64
  | .operators => List Operator

/-- The endpoint whose answer settles a call; for a grab, the one that is asked where the grab was
not told the lock state. -/
def endpointOf : (call : StoreCall) → Endpoint (Content call) call.Answer
  | .grabLock id => reading id (·.lock)
  | .releaseLock id => plain (.releaseLock id) rfl anyValue fun _ => ()
  | .listRecords query page size => plain (.listRecords query page size) rfl
      (Listing.ofRowsOrJson? RuleRecord.ofJson?) fun content => pageIn content page size
  | .listGroups query page size => plain (.listGroups query page size) rfl
      (Listing.ofRowsOrJson? RuleGroup.ofJson?) fun content => pageIn content page size
  | .getRecord id => reading id fun record => record
  | .setEnabled id enabled => plain (.setEnabled id enabled) rfl anyValue fun _ => ()
  | .deleteRecord id => plain (.deleteRecord id) rfl anyValue fun _ => ()
  | .saveRecord form => saving form
  | .operators => plain .operators rfl (Wire.asList Operator.ofJson?) fun content => content.getD []

variable {settings transport}

/-- Every call but a grab is one request. -/
theorem answer_eq (call : StoreCall) (hcall : ∀ id, call ≠ .grabLock id) :
    (store settings transport).answer call
      = attempt ((endpointOf call).dialog settings transport) := by
  cases call with
  | grabLock id => exact absurd rfl (hcall id)
  | getRecord id =>
    refine congrArg (fun k => attempt (Remote.call settings transport _ _ >>= k))
      (funext fun r => ?_)
    cases r <;> rfl
  | saveRecord form =>
    obtain ⟨saved, content⟩ := form
    refine congrArg (fun k => attempt (Remote.call settings transport _ _ >>= k))
      (funext fun e => ?_)
    cases e <;> cases saved <;> rfl
  | releaseLock id => rfl
  | listRecords query page size => rfl
  | listGroups query page size => rfl
  | setEnabled id enabled => rfl
  | deleteRecord id => rfl
  | operators => rfl

/-- A part of a record is told by the record. -/
theorem settle_reading (id : Int64) (part : RuleRecord → β) (envelope : Envelope RuleRecord) :
    (reading id part).settle envelope
      = ((reading id fun record => record).settle envelope).map part := by
  rw [Endpoint.settle, Endpoint.settle, contentOf]
  split
  · rcases envelope with ⟨_, _, _ | _⟩ <;> rfl
  · rfl

theorem attempt_dialog_on (endpoint : Endpoint α β) (link : Link τ) :
    (attempt (endpoint.dialog settings transport)).on link
      = (((endpoint.received settings transport link).1 >>= endpoint.settle).mapError
          ClientError.fault, (endpoint.received settings transport link).2) := by
  rw [attempt_on, Endpoint.dialog_on]

/-- Reading a record for a part of it is reading it. -/
theorem attempt_reading_on (id : Int64) (part : RuleRecord → β) (link : Link τ) :
    (attempt ((reading id part).dialog settings transport)).on link
      = ((((store settings transport).answer (.getRecord id)).on link).1.map part,
        (((store settings transport).answer (.getRecord id)).on link).2) := by
  have hrecord : ((store settings transport).answer (.getRecord id)).on link
      = (attempt ((reading id fun record => record).dialog settings transport)).on link := by
    rw [answer_eq (.getRecord id) nofun]
    rfl
  -- The same is received either way.
  have hreceived : (reading id part).received settings transport link
      = (reading id fun record => record).received settings transport link := rfl
  rw [hrecord, attempt_dialog_on, attempt_dialog_on, hreceived]
  rcases (reading id fun record => record).received settings transport link
    with ⟨e | envelope, later⟩
  · rfl
  · simp only [bind, Except.bind]
    rw [settle_reading id part]
    cases (reading id fun record => record).settle envelope <;> rfl

/-- A grab whose answer tells no lock state takes a second request, which reads the record. -/
theorem grabLock_on (id : Int64) (link : Link τ) :
    ((store settings transport).answer (.grabLock id)).on link
      = match (attempt ((grabbing id).dialog settings transport)).on link with
        | (.error fault, later) => (.error fault, later)
        | (.ok (some status), later) => (.ok status, later)
        | (.ok none, later) =>
          (attempt ((endpointOf (.grabLock id)).dialog settings transport)).on later := by
  show (attempt ((grabbing id).dialog settings transport) >>= _ : Attempt (Link τ) LockStatus).on
    link = _
  rw [Attempt.on_bind]
  rcases (attempt ((grabbing id).dialog settings transport)).on link with ⟨e | _ | status, later⟩
  · rfl
  · show (attempt (detail settings transport id) >>= fun record => pure record.lock).on later
      = (attempt ((reading id (·.lock)).dialog settings transport)).on later
    rw [attempt_reading_on, Attempt.on_bind]
    show _ = (((attempt (detail settings transport id)).on later).1.map (·.lock),
      ((attempt (detail settings transport id)).on later).2)
    rcases (attempt (detail settings transport id)).on later with ⟨e | record, last⟩ <;> rfl
  · rfl

/-! ## From requests to calls

The hypothesis is on requests to all endpoints at once, so that it can be used for both requests of
a grab. -/

/-- What every request keeps, every call keeps. -/
theorem answer_on_keeps {I : Link τ → Prop} (hkeeps : ∀ {α β : Type} (endpoint : Endpoint α β)
      (link : Link τ), I link → I (endpoint.received settings transport link).2)
    (call : StoreCall) {link : Link τ} (hlink : I link) :
    I (((store settings transport).answer call).on link).2 := by
  have hattempt {α β : Type} (endpoint : Endpoint α β) {link : Link τ} (hlink : I link) :
      I ((attempt (endpoint.dialog settings transport)).on link).2 := by
    rw [attempt_dialog_on]
    exact hkeeps endpoint link hlink
  by_cases hgrab : ∃ id, call = .grabLock id
  · obtain ⟨id, rfl⟩ := hgrab
    have hfirst := hattempt (grabbing id) hlink
    rw [grabLock_on]
    rcases hon : (attempt ((grabbing id).dialog settings transport)).on link
      with ⟨e | _ | status, later⟩ <;> rw [hon] at hfirst
    · exact hfirst
    · exact hattempt (endpointOf (.grabLock id)) hfirst
    · exact hfirst
  · rw [answer_eq call fun id h => hgrab ⟨id, h⟩]
    exact hattempt (endpointOf call) hlink

/-- Where every request fails, every call fails with its first. -/
theorem answer_on_error {link later : Link τ} {e : ClientError}
    (herror : ∀ {α β : Type} (endpoint : Endpoint α β),
      endpoint.received settings transport link = (.error e, later)) (call : StoreCall) :
    ((store settings transport).answer call).on link = (.error e.fault, later) := by
  by_cases hgrab : ∃ id, call = .grabLock id
  · obtain ⟨id, rfl⟩ := hgrab
    rw [grabLock_on, attempt_dialog_on, herror]
    rfl
  · rw [answer_eq call fun id h => hgrab ⟨id, h⟩, attempt_dialog_on, herror]
    rfl

/-! ## Two servers and an answer -/

/-- Two servers with a login. -/
def twoServers : ClientSettings :=
  { servers := ["http://[::1]", "http://[::1]:8080"], username := "u", password := "p" }

/-- The answer of a server that knows no comparisons. -/
def noOperators : Response := ⟨200, successText none (contentFor .operators [])⟩

/-- What is made of an answer that says success. -/
theorem accept_successText {read : Json → Option α} {content : Json} {a : Option α}
    (hread : Wire.nullable read content = some a) (hexact : content.Exact contentLevels)
    (request : Request) :
    accept (Envelope.ofJson? read) request ⟨200, successText none content⟩
      = .ok ⟨Envelope.successCode, none, a⟩ := by
  have hsuccess : (⟨200, successText none content⟩ : Response).isSuccess = true := rfl
  rw [accept, if_pos hsuccess, decode, ofText?_successText hread hexact]

theorem accept_noOperators (request : Request) :
    accept (Envelope.ofJson? (Wire.asList Operator.ofJson?)) request noOperators
      = .ok ⟨Envelope.successCode, none, some []⟩ :=
  accept_successText
    (Wire.nullable_write (Wire.ofList Operator.toJson) (Wire.asList Operator.ofJson?) [])
    (exact_contentFor .operators []) request

end Remote
end Whitelist
