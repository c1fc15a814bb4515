import Whitelist.Proofs.Remote.Attempts

/-!
# What the faults of a remote store tell

A call of a store may end in many ways: no server answers, one answers with an error, the body
cannot be read, the envelope in it tells an error, or a login fails. The caller is told only whether
something is missing or something went wrong. This file says which of the two it is told, from what
was answered.

## What is here

* `LastOf` — the last entry of a log that has a property.
* `Verdict`, `verdictIn`, `Missing`, `Succeeded` — what an answer says about its call.
* `Ends` — how a request ends: with an answer that settles it, or without one (`attempts_ends`).
* `Explains` — the outcome of a call is what its answers say it is.
* `faults_of_answers` — so it is with every call.

The log of what was sent (`Transport.noted`) is what makes such a statement possible. A call may
send several requests to several servers, and its outcome is tied to the log by the last entry that
was answered and was no login. The proof has two layers. `attempts_ends` goes through the loop over
the servers and finds that a request ends either with an answer that is passed on as it is, or with
none, in which case the error is one of the client's own. `Ends.explains` then reads the answer.
Since an error of a server is never one of the client's own (`OfServer`), the two cases cannot be
taken for each other.
-/

set_option autoImplicit false
namespace Whitelist

/-! ## The last entry of a kind

These lemmas say where the last entry of a log is when the log grows by one entry or by another log.
-/

/-- The last entry of a log that has the property. -/
def LastOf (P : Sent → Prop) (log : List Sent) (sent : Sent) : Prop :=
  ∃ before after, log = before ++ sent :: after ∧ P sent ∧ ∀ other ∈ after, ¬ P other

namespace LastOf

variable {P : Sent → Prop} {first second before : List Sent} {sent last : Sent}

theorem concat (h : P sent) : LastOf P (before ++ [sent]) sent :=
  ⟨before, [], rfl, h, nofun⟩

theorem append_right (h : LastOf P second sent) : LastOf P (first ++ second) sent := by
  obtain ⟨before, after, rfl, hsent, hafter⟩ := h
  exact ⟨first ++ before, after, (List.append_assoc ..).symm, hsent, hafter⟩

/-- The last entry is in the second part, unless there is none. -/
theorem of_append (h : LastOf P (first ++ second) sent) :
    LastOf P second sent ∨ LastOf P first sent ∧ ∀ other ∈ second, ¬ P other := by
  obtain ⟨before, after, hlog, hsent, hafter⟩ := h
  rcases List.append_eq_append_iff.mp hlog with ⟨middle, -, hsecond⟩ | ⟨middle, hfirst, hrest⟩
  · exact .inl ⟨middle, after, hsecond, hsent, hafter⟩
  · cases middle with
    | nil => exact .inl ⟨[], after, hrest.symm, hsent, hafter⟩
    | cons head middle =>
      rw [List.cons_append, List.cons.injEq] at hrest
      obtain ⟨rfl, rfl⟩ := hrest
      obtain ⟨hmiddle, hsecond⟩ := List.forall_mem_append.mp hafter
      exact .inr ⟨⟨before, middle, hfirst, hsent, hmiddle⟩, hsecond⟩

theorem eq_of_concat (h : LastOf P (before ++ [last]) sent) (hlast : P last) : sent = last := by
  rcases h.of_append with ⟨start, after, hone, -⟩ | ⟨-, hnone⟩
  · have hmem : sent ∈ [last] := by simp [hone]
    exact List.mem_singleton.mp hmem
  · exact absurd hlast (hnone last (List.mem_singleton_self last))

end LastOf

namespace Remote

open Client

variable {τ α β : Type} {settings : ClientSettings} {transport : Transport τ}

/-! ## Errors and faults

Callers are told faults, not errors, and all errors but the code 404 of a server become the same
kind of fault. The lemmas of this section turn a statement on faults into one on errors. -/

/-- The error of a server that has not got what it was asked for. -/
def IsMissing (outcome : Except ClientError α) : Prop :=
  ∃ text, outcome = .error (.server 404 text)

/-- A server has answered with an error. -/
def OfServer : ClientError → Prop
  | .server .. => True
  | _ => False

/-- Without an error of a server something has gone wrong. -/
theorem fault_of_not_ofServer {e : ClientError} (h : ¬ OfServer e) :
    ∃ reason, e.fault = .transport reason := by
  cases e with
  | server code text => exact absurd trivial h
  | http error => exact ⟨_, rfl⟩
  | authFailed reason => exact ⟨_, rfl⟩
  | other reason => exact ⟨_, rfl⟩

/-- A caller is told that something is missing, or that something went wrong. -/
theorem fault_cases (e : ClientError) :
    (∃ what, e.fault = .notFound what) ∨ ∃ reason, e.fault = .transport reason := by
  by_cases hserver : OfServer e
  · cases e with
    | server code text =>
      rw [ClientError.fault]
      split
      · exact .inl ⟨_, rfl⟩
      · exact .inr ⟨_, rfl⟩
    | _ => cases hserver
  · exact .inr (fault_of_not_ofServer hserver)

/-- Of the errors of servers it is the one with the code 404. -/
theorem isMissing_server_iff {code : Int32} {text : String} :
    IsMissing (.error (.server code text) : Except ClientError α) ↔ code = 404 := by
  constructor
  · rintro ⟨other, hmissing⟩
    exact (ClientError.server.inj (Except.error.inj hmissing)).1
  · rintro rfl
    exact ⟨text, rfl⟩

/-- Nothing else becomes a fault that something is missing. -/
theorem exists_notFound_iff {outcome : Except ClientError α} :
    (∃ what, outcome.mapError ClientError.fault = .error (.notFound what)) ↔ IsMissing outcome := by
  constructor
  · rintro ⟨what, hwhat⟩
    cases outcome with
    | ok a => cases hwhat
    | error e =>
      have hfault : e.fault = .notFound what := Except.error.inj hwhat
      cases e with
      | server code text =>
        rw [ClientError.fault] at hfault
        split at hfault
        · rename_i hcode
          exact ⟨text, by rw [hcode]⟩
        · cases hfault
      | http error => cases hfault
      | authFailed reason => cases hfault
      | other reason => cases hfault
  · rintro ⟨text, rfl⟩
    exact ⟨text, rfl⟩

/-! ## What an answer says

The status of an answer and the code in its envelope are two different numbers. Both may be 404, and
a success may carry an envelope that is an error. `Missing` puts together what counts as 404;
`isMissing_accept_iff` shows that the client takes just that for it. -/

/-- What counts in an envelope: its code, and whether it has a content. -/
structure Verdict where
  code : Int32
  hasContent : Bool

/-- The verdict of an answer, if there is an envelope in it that the endpoint can read. -/
def Endpoint.verdict (endpoint : Endpoint α β) (response : Response) : Option Verdict :=
  ((Json.ofText? response.body).bind (Envelope.ofJson? endpoint.read)).map fun envelope =>
    ⟨envelope.code, envelope.content.isSome⟩

/-- The verdict of an answer to a request of this call. A grab is the one call that may take two
requests: one for the lock, and one that reads the record. -/
def verdictIn (call : StoreCall) (request : Request) (response : Response) : Option Verdict :=
  match call, request.method with
  | .grabLock id, .post => (grabbing id).verdict response
  | call, _ => (endpointOf call).verdict response

/-- A request of this call, made like this, reads a record. -/
def ReadsRecord : StoreCall → Method → Prop
  | .getRecord _, .get | .grabLock _, .get => True
  | _, _ => False

/-- The answer is an error 404, or a success with an envelope that tells one, or, where a record is
read, a success without a content. -/
def Missing (call : StoreCall) (request : Request) (response : Response) : Prop :=
  response.status = 404 ∨ response.isSuccess = true ∧ ∃ v, verdictIn call request response = some v
    ∧ (v.code = 404 ∨ v.code = Envelope.successCode ∧ v.hasContent = false
      ∧ ReadsRecord call request.method)

/-- The answer is a success with an envelope that tells one. -/
def Succeeded (call : StoreCall) (request : Request) (response : Response) : Prop :=
  response.isSuccess = true
    ∧ ∃ v, verdictIn call request response = some v ∧ v.code = Envelope.successCode

/-- A call makes requests to the endpoint. -/
structure Covers (call : StoreCall) (endpoint : Endpoint α β) : Prop where
  verdict {request : Request} {response : Response}
    (hmethod : request.method = endpoint.ask.method) :
    verdictIn call request response = endpoint.verdict response
  reads : ReadsRecord call endpoint.ask.method ↔ endpoint.ask.method = .get

/-- The first request of a grab. -/
theorem covers_grabbing (id : Int64) : Covers (.grabLock id) (grabbing id) where
  verdict hmethod := by
    unfold verdictIn
    rw [hmethod]
    rfl
  reads := iff_of_false not_false nofun

/-- The one request of every other call, and the second of a grab. -/
theorem covers_endpointOf (call : StoreCall) : Covers call (endpointOf call) where
  verdict hmethod := by
    unfold verdictIn
    rw [hmethod]
    cases call <;> rfl
  reads := by
    cases call with
    | getRecord id | grabLock id => exact iff_of_true trivial rfl
    | _ => exact iff_of_false not_false nofun

/-- A status is a number of 16 bits, so none is taken for another as a code. -/
theorem ofNat_eq_404_iff {status : Nat} (h : status < 2 ^ 16) :
    Int32.ofNat status = 404 ↔ status = 404 := by
  constructor
  · intro hcode
    have hint := congrArg Int32.toInt hcode
    rw [Int32.toInt_ofNat_of_lt (h.trans (by decide))] at hint
    exact Int.ofNat.inj hint
  · rintro rfl
    rfl

variable {endpoint : Endpoint α β} {call : StoreCall} {request : Request} {response : Response}

/-- What an endpoint makes of an envelope tells that something is missing. -/
theorem isMissing_settle_iff (envelope : Envelope α) : IsMissing (endpoint.settle envelope) ↔
    envelope.code = 404
      ∨ envelope.code = Envelope.successCode ∧ envelope.content = none
        ∧ endpoint.ask.method = .get := by
  rw [Endpoint.settle, contentOf]
  by_cases hcode : envelope.code = Envelope.successCode
  · have hsuccess : envelope.isSuccess = true := decide_eq_true hcode
    have hother : Envelope.successCode ≠ 404 := by decide
    rw [if_pos hsuccess, hcode]
    simp only [hother, false_or, true_and]
    exact endpoint.make_missing_iff envelope.content
  · have hfails : ¬ envelope.isSuccess = true := by simp [Envelope.isSuccess, hcode]
    rw [if_neg hfails]
    simp only [hcode, false_and, or_false]
    exact isMissing_server_iff

/-- What an endpoint makes of an answer tells that something is missing. -/
theorem isMissing_accept_iff (hcovers : Covers call endpoint)
    (hmethod : request.method = endpoint.ask.method) (hstatus : response.status < 2 ^ 16) :
    IsMissing (accept (Envelope.ofJson? endpoint.read) request response >>= endpoint.settle)
      ↔ Missing call request response := by
  rw [accept, Missing, hcovers.verdict hmethod, hmethod, hcovers.reads, Endpoint.verdict]
  cases hsuccess : response.isSuccess with
  | false =>
    simp only [Bool.false_eq_true, if_false, false_and, or_false, ← ofNat_eq_404_iff hstatus]
    exact isMissing_server_iff
  | true =>
    have hother : response.status ≠ 404 := by
      rintro h404
      simp [Response.isSuccess, h404] at hsuccess
    rw [if_pos rfl, decode]
    cases (Json.ofText? response.body).bind (Envelope.ofJson? endpoint.read) with
    | none =>
      simp only [hother, Option.map_none, reduceCtorEq, false_and, exists_false, and_false,
        or_false, iff_false]
      rintro ⟨text, hmissing⟩
      cases hmissing
    | some envelope =>
      simp only [hother, Option.map_some, Option.some.injEq, exists_eq_left',
        Option.isSome_eq_false_iff, Option.isNone_iff_eq_none, false_or, true_and]
      exact isMissing_settle_iff envelope

/-- An endpoint makes something only of a success. -/
theorem succeeded_of_accept {b : β} (hcovers : Covers call endpoint)
    (hmethod : request.method = endpoint.ask.method)
    (h : accept (Envelope.ofJson? endpoint.read) request response >>= endpoint.settle = .ok b) :
    Succeeded call request response := by
  rw [accept] at h
  split at h
  · rename_i hsuccess
    refine ⟨hsuccess, ?_⟩
    rw [decode] at h
    rw [hcovers.verdict hmethod, Endpoint.verdict]
    cases hread : (Json.ofText? response.body).bind (Envelope.ofJson? endpoint.read) with
    | none =>
      rw [hread] at h
      cases h
    | some envelope =>
      rw [hread] at h
      refine ⟨_, rfl, ?_⟩
      by_contra hcode
      have hfails : endpoint.settle envelope = .error (.server envelope.code envelope.text) := by
        rw [Endpoint.settle, contentOf, if_neg (by simp [Envelope.isSuccess, hcode])]
        rfl
      cases h.symm.trans hfails
  · cases h

/-! ## How a request ends

`Ends` speaks of the whole log of a request, with the logins in it. That they were granted matters,
because a login that was refused with 404 must not be taken for an answer to the call. -/

variable (settings) in
/-- So far every login has brought a token, and whatever else was answered was turned down. -/
structure Open (log : List Sent) : Prop where
  granted : ∀ login ∈ log, IsLogin settings login → ∃ token, Grants settings login token
  refused : ∀ sent ∈ log, ¬ IsLogin settings sent → ∀ response, sent.answer = some response →
    response.status = 401

variable (settings) in
/-- How a request ends, with all that was sent for it. -/
inductive Ends (read : Json → Option α) (ask : Ask) : List Sent → Except ClientError α → Prop
  /-- The last answer settles it, and no login has failed before. -/
  | answered {before : List Sent} {request : Request} {response : Response}
      (hbefore : Open settings before) (hbody : request.body ≠ some (loginForm settings))
      (hmethod : request.method = ask.method) :
      Ends read ask (before ++ [⟨request, some response⟩]) (accept read request response)
  /-- Nothing has settled it: a login has failed, or no attempt is left. -/
  | unsettled {log : List Sent} {e : ClientError}
      (hrefused : ∀ sent ∈ log, ¬ IsLogin settings sent → ∀ response, sent.answer = some response →
        response.status = 401)
      (herror : ¬ OfServer e) : Ends read ask log (.error e)

variable (settings) in
/-- How a login ends, or whatever may take one, with the logins that were sent for it. -/
inductive EndsLogin {γ : Type} (log : List Sent) :
    Except ClientError γ × Link (τ × List Sent) → Prop
  | done {c : γ} {link : Link (τ × List Sent)} {more : List Sent}
      (hlog : link.network.2 = log ++ more)
      (hmore : ∀ login ∈ more, ∃ token, Grants settings login token) : EndsLogin log (.ok c, link)
  | failed {e : ClientError} {link : Link (τ × List Sent)} {more : List Sent}
      (hlog : link.network.2 = log ++ more) (hmore : ∀ login ∈ more, IsLogin settings login)
      (herror : ¬ OfServer e) : EndsLogin log (.error e, link)

/-- The answer to a login is never passed on as an error of a server. -/
theorem not_ofServer_tokenOf {e : ClientError} (h : tokenOf request response = .error e) :
    ¬ OfServer e := by
  intro hserver
  rw [tokenOf] at h
  split at h
  · rw [decode] at h
    cases hread : (Json.ofText? response.body).bind (Envelope.ofJson? Wire.asString) with
    | none =>
      rw [hread] at h
      cases h
      cases hserver
    | some envelope =>
      rw [hread] at h
      simp only [bind, Except.bind] at h
      split at h
      · split at h <;> cases h
        cases hserver
      · cases h
        cases hserver
  · cases h
    cases hserver

variable (settings transport) in
theorem endsLogin_login (link : Link (τ × List Sent)) :
    EndsLogin settings link.network.2 ((login settings transport.noted).on link) := by
  obtain ⟨client, network, log⟩ := link
  rw [login_on_eq, exchange_noted_on]
  cases hprepare : Request.prepare .post (addressOn settings client settings.loginPath) none
      (some (loginForm settings)) with
  | error e => exact .failed (List.append_nil log).symm nofun id
  | ok form =>
    obtain ⟨-, -, hbody⟩ := prepare_eq_ok hprepare
    have hlogin (answer : Option Response) : ∀ login ∈ [Sent.mk form answer],
        IsLogin settings login := fun login hmem => List.mem_singleton.mp hmem ▸ hbody
    dsimp only
    rcases (transport.send form).run network with ⟨_ | response, later⟩
    · exact .failed rfl (hlogin none) id
    · dsimp only [answered]
      cases htoken : tokenOf form response with
      | error e => exact .failed rfl (hlogin (some response)) (not_ofServer_tokenOf htoken)
      | ok token =>
        refine .done rfl fun login hmem => ⟨token, ?_⟩
        rw [List.mem_singleton.mp hmem]
        have hform := hlogin (some response) _ (List.mem_singleton_self _)
        exact (grants_iff hform rfl form).mpr htoken

variable (settings transport) in
theorem endsLogin_ensureToken (link : Link (τ × List Sent)) :
    EndsLogin settings link.network.2 ((ensureToken settings transport.noted).on link) := by
  rw [ensureToken_on_eq]
  split
  · exact .done (List.append_nil _).symm nofun
  · cases usableToken link.client with
    | some text => exact .done (List.append_nil _).symm nofun
    | none =>
      have hends := endsLogin_login settings transport link
      dsimp only
      generalize (login settings transport.noted).on link = result at hends ⊢
      cases hends with
      | failed hlog hmore herror => exact .failed hlog hmore herror
      | @done _ later more hlog hmore =>
        dsimp only
        cases usableToken later.client with
        | some text => exact .done hlog hmore
        | none =>
          refine .failed hlog (fun login hlogin => ?_) id
          obtain ⟨token, hgrants⟩ := hmore login hlogin
          exact hgrants.1

/-- What is open stays so when more is sent that settles nothing. -/
theorem Open.append {log more : List Sent} (h : Open settings log) (hmore : Open settings more) :
    Open settings (log ++ more) where
  granted := List.forall_mem_append.mpr ⟨h.granted, hmore.granted⟩
  refused := List.forall_mem_append.mpr ⟨h.refused, hmore.refused⟩

theorem open_of_grants {log : List Sent} (h : ∀ login ∈ log, ∃ token, Grants settings login token) :
    Open settings log where
  granted login hmem _ := h login hmem
  refused sent hmem hnot := by
    obtain ⟨token, hgrants⟩ := h sent hmem
    exact absurd hgrants.1 hnot

/-- A request that is not answered, or turned down, leaves the call open. -/
theorem open_singleton {answer : Option Response} (hbody : request.body ≠ some (loginForm settings))
    (hanswer : ∀ response, answer = some response → response.status = 401) :
    Open settings [⟨request, answer⟩] where
  granted login hmem hlogin := by
    rw [List.mem_singleton.mp hmem] at hlogin
    exact absurd hlogin hbody
  refused sent hmem _ response hresponse := by
    rw [List.mem_singleton.mp hmem] at hresponse
    exact hanswer response hresponse

variable (settings) in
/-- What comes of a request that was begun with this log, with what was sent for it behind that. -/
def EndsFrom (read : Json → Option α) (ask : Ask) (log : List Sent)
    (result : Except ClientError α × Link (τ × List Sent)) : Prop :=
  ∃ more, result.2.network.2 = log ++ more ∧ Ends settings read ask more result.1

/-- A failed login ends a request, and one that brings a token leaves it open. -/
theorem EndsLogin.endsFrom {γ : Type} {read : Json → Option α} {ask : Ask} {log before : List Sent}
    {result : Except ClientError γ × Link (τ × List Sent)}
    {final : Except ClientError α × Link (τ × List Sent)}
    (h : EndsLogin settings (log ++ before) result) (hopen : Open settings before)
    (hfailed : ∀ e link, result = (.error e, link) → final = (.error e, link))
    (hdone : ∀ c (link : Link (τ × List Sent)) more, result = (.ok c, link) → Open settings more →
      link.network.2 = log ++ more → EndsFrom settings read ask log final) :
    EndsFrom settings read ask log final := by
  cases h with
  | @done c link more hlog hmore =>
    exact hdone c link (before ++ more) rfl (hopen.append (open_of_grants hmore))
      (hlog.trans (List.append_assoc ..))
  | @failed e link more hlog hmore herror =>
    rw [hfailed e link rfl]
    refine ⟨before ++ more, hlog.trans (List.append_assoc ..), .unsettled ?_ herror⟩
    exact List.forall_mem_append.mpr ⟨hopen.refused, fun login hmem hnot =>
      absurd (hmore login hmem) hnot⟩

/-- However many servers it takes, a request ends in one of the two ways. -/
theorem attempts_ends {read : Json → Option α} {ask : Ask}
    (hbody : ask.body ≠ some (loginForm settings)) {log before : List Sent}
    (hopen : Open settings before) (link : Link (τ × List Sent))
    (hlog : link.network.2 = log ++ before) (left : Nat) (lastError : Option HttpError) :
    EndsFrom settings read ask log
      ((attempts settings transport.noted read ask left lastError).on link) := by
  induction left generalizing before link lastError with
  | zero =>
    refine ⟨before, hlog, .unsettled hopen.refused ?_⟩
    cases lastError <;> exact id
  | succ left ih =>
    have htoken := endsLogin_ensureToken settings transport link
    rw [attempts_on_succ]
    rw [hlog] at htoken
    generalize (ensureToken settings transport.noted).on link = result at htoken ⊢
    refine htoken.endsFrom hopen (by rintro e later rfl; rfl) ?_
    rintro token ⟨client, network, current⟩ ready rfl hready hlater
    obtain rfl : current = log ++ ready := hlater
    dsimp only
    rw [exchange_noted_on]
    cases hprepare : Request.prepare ask.method (addressOn settings link.client ask.path) token
        ask.body with
    | error e => exact ih hready _ rfl _
    | ok request =>
      obtain ⟨hmethod, -, hsame⟩ := prepare_eq_ok hprepare
      rw [← hsame] at hbody
      dsimp only
      rcases (transport.send request).run network with ⟨_ | response, after⟩
      · have hsilent : Open settings [⟨request, none⟩] := open_singleton hbody nofun
        exact ih (hready.append hsilent) _ (List.append_assoc ..) _
      · dsimp only [answered]
        split
        · -- A refusal leaves the request open, and so does a login after it that brings a token.
          rename_i hrefused
          have hturned : Open settings [⟨request, some response⟩] :=
            open_singleton hbody fun _ hsome => Option.some_inj.mp hsome ▸ hrefused.1
          have hlogin := endsLogin_login settings transport ⟨{ client with token := none },
            (after, log ++ ready ++ [⟨request, some response⟩])⟩
          rw [List.append_assoc] at hlogin ⊢
          generalize (login settings transport.noted).on _ = result at hlogin ⊢
          refine hlogin.endsFrom (hready.append hturned) (by rintro e last rfl; rfl) ?_
          rintro _ last sent rfl hsent hlast
          exact ih hsent last hlast lastError
        · exact ⟨_, List.append_assoc .., .answered hready hbody hmethod⟩

/-! ## What the answers to a call say

A grab may take two requests, and the first one has then brought a success without a content.
`Explains.append` says that such a first request does not count any more. -/

variable (settings) in
/-- A request other than a login that was answered. -/
def IsAnswered (sent : Sent) : Prop :=
  ¬ IsLogin settings sent ∧ ∃ response, sent.answer = some response

variable (settings) in
/-- The outcome of a call is what the answers say that it is. -/
structure Explains (call : StoreCall) (log : List Sent) (outcome : Except Fault β) : Prop where
  /-- After a success the last request other than a login was answered with one. -/
  success : ∀ b, outcome = .ok b → ∃ sent response,
    LastOf (fun sent => ¬ IsLogin settings sent) log sent ∧ sent.answer = some response
      ∧ Succeeded call sent.request response
  /-- A failure tells that something is missing, or that something went wrong. -/
  failure : ∀ fault, outcome = .error fault →
    (∃ what, fault = .notFound what) ∨ ∃ reason, fault = .transport reason
  /-- It tells that something is missing exactly where the last answer, logins apart, does. -/
  missing : (∃ what, outcome = .error (.notFound what)) ↔ ∃ sent response,
    LastOf (IsAnswered settings) log sent ∧ sent.answer = some response
      ∧ Missing call sent.request response
  /-- A login that is answered with 404 is something that went wrong. -/
  login : ∀ sent ∈ log, IsLogin settings sent → ∀ response, sent.answer = some response →
    response.status = 404 → ∃ reason, outcome = .error (.transport reason)

/-- Every answer has a status that is a number of 16 bits. -/
def StatusesFit (log : List Sent) : Prop :=
  ∀ sent ∈ log, ∀ response, sent.answer = some response → response.status < 2 ^ 16

/-- Faults come from errors. -/
theorem failure_mapError {outcome : Except ClientError α} {fault : Fault}
    (h : outcome.mapError ClientError.fault = .error fault) :
    (∃ what, fault = .notFound what) ∨ ∃ reason, fault = .transport reason := by
  cases outcome with
  | ok a => cases h
  | error e => exact Except.error.inj h ▸ fault_cases e

/-- A refusal of the token does not say that something is missing. -/
theorem not_missing_of_refused (h : response.status = 401) : ¬ Missing call request response := by
  rintro (h404 | ⟨hsuccess, -⟩)
  · omega
  · simp [Response.isSuccess, h] at hsuccess

theorem status_ne_of_grants {sent : Sent} {token : String} (h : Grants settings sent token)
    (hanswer : sent.answer = some response) : response.status ≠ 404 := by
  obtain ⟨-, given, envelope, hgiven, hlow, hhigh, -⟩ := h
  obtain rfl := Option.some_inj.mp (hanswer.symm.trans hgiven)
  omega

theorem StatusesFit.of_append {first second : List Sent} (h : StatusesFit (first ++ second)) :
    StatusesFit first ∧ StatusesFit second :=
  List.forall_mem_append.mp h

/-- An answer that settles a request explains its outcome. -/
theorem explains_of_answer (hcovers : Covers call endpoint) {before : List Sent}
    (hbefore : Open settings before) (hbody : request.body ≠ some (loginForm settings))
    (hmethod : request.method = endpoint.ask.method) (hstatus : response.status < 2 ^ 16) :
    Explains settings call (before ++ [⟨request, some response⟩])
      ((accept (Envelope.ofJson? endpoint.read) request response >>= endpoint.settle).mapError
        ClientError.fault) := by
  have hlogin : ¬ IsLogin settings ⟨request, some response⟩ := hbody
  have hanswered : IsAnswered settings ⟨request, some response⟩ := ⟨hlogin, response, rfl⟩
  refine ⟨fun b hb => ?_, fun fault => failure_mapError, exists_notFound_iff.trans ?_, ?_⟩
  · refine ⟨⟨request, some response⟩, response, .concat hlogin, rfl, ?_⟩
    cases houtcome : accept (Envelope.ofJson? endpoint.read) request response
        >>= endpoint.settle with
    | error e =>
      rw [houtcome] at hb
      cases hb
    | ok b => exact succeeded_of_accept hcovers hmethod houtcome
  · rw [isMissing_accept_iff hcovers hmethod hstatus]
    constructor
    · exact fun hmissing => ⟨_, response, .concat hanswered, rfl, hmissing⟩
    · rintro ⟨sent, given, hlast, hgiven, hmissing⟩
      obtain rfl := hlast.eq_of_concat hanswered
      obtain rfl := Option.some_inj.mp hgiven
      exact hmissing
  · intro sent hmem hsent given hgiven h404
    rcases List.mem_append.mp hmem with hmem | hmem
    · obtain ⟨token, hgrants⟩ := hbefore.granted sent hmem hsent
      exact absurd h404 (status_ne_of_grants hgrants hgiven)
    · exact absurd (List.mem_singleton.mp hmem ▸ hsent) hlogin

/-- Where nothing has settled a request, something has gone wrong. -/
theorem explains_of_unsettled {log : List Sent} {e : ClientError}
    (hrefused : ∀ sent ∈ log, ¬ IsLogin settings sent → ∀ response, sent.answer = some response →
      response.status = 401)
    (herror : ¬ OfServer e) : Explains settings call log (.error e.fault : Except Fault β) := by
  obtain ⟨reason, hreason⟩ := fault_of_not_ofServer herror
  rw [hreason]
  refine ⟨nofun, fun fault hfault => .inr ⟨reason, (Except.error.inj hfault).symm⟩, ?_,
    fun _ _ _ _ _ _ => ⟨reason, rfl⟩⟩
  refine iff_of_false (by simp) ?_
  rintro ⟨sent, given, ⟨before, after, rfl, hsent, -⟩, hgiven, hmissing⟩
  exact not_missing_of_refused (hrefused sent (by simp) hsent.1 given hgiven) hmissing

/-- The answers to one request explain its outcome. -/
theorem Ends.explains {log : List Sent} {received : Except ClientError (Envelope α)}
    (h : Ends settings (Envelope.ofJson? endpoint.read) endpoint.ask log received)
    (hcovers : Covers call endpoint) (hstatus : StatusesFit log) :
    Explains settings call log ((received >>= endpoint.settle).mapError ClientError.fault) := by
  cases h with
  | @answered before request response hbefore hbody hmethod =>
    have hfits : response.status < 2 ^ 16 :=
      hstatus _ (List.mem_append_right _ (List.mem_singleton_self _)) _ rfl
    exact explains_of_answer hcovers hbefore hbody hmethod hfits
  | unsettled hrefused herror => exact explains_of_unsettled hrefused herror

/-- Where the first request brings something, the answers to the second explain the outcome. -/
theorem Explains.append {first second : List Sent} {a : α}
    {outcome : Except Fault β} (hfirst : Explains settings call first (.ok a : Except Fault α))
    (hsecond : Explains settings call second outcome) :
    Explains settings call (first ++ second) outcome where
  success b hb := by
    obtain ⟨sent, response, hlast, hsucceeded⟩ := hsecond.success b hb
    exact ⟨sent, response, hlast.append_right, hsucceeded⟩
  failure := hsecond.failure
  missing := by
    rw [hsecond.missing]
    constructor
    · rintro ⟨sent, response, hlast, hmissing⟩
      exact ⟨sent, response, hlast.append_right, hmissing⟩
    · rintro ⟨sent, response, hlast, hmissing⟩
      rcases hlast.of_append with hlast | ⟨hlast, -⟩
      · exact ⟨sent, response, hlast, hmissing⟩
      · obtain ⟨what, hwhat⟩ := hfirst.missing.mpr ⟨sent, response, hlast, hmissing⟩
        cases hwhat
  login sent hmem hsent response hresponse h404 := by
    rcases List.mem_append.mp hmem with hmem | hmem
    · obtain ⟨reason, hreason⟩ := hfirst.login sent hmem hsent response hresponse h404
      cases hreason
    · exact hsecond.login sent hmem hsent response hresponse h404

/-- Whatever fails alike is explained alike. -/
theorem Explains.congr {log : List Sent} {outcome : Except Fault α}
    {other : Except Fault β} (h : Explains settings call log outcome)
    (hsame : ∀ fault, other = .error fault ↔ outcome = .error fault) :
    Explains settings call log other where
  success b hb := by
    cases outcome with
    | ok a => exact h.success a rfl
    | error fault => cases hb.symm.trans ((hsame fault).mpr rfl)
  failure fault hfault := h.failure fault ((hsame fault).mp hfault)
  missing := by
    rw [← h.missing]
    exact exists_congr fun what => hsame (.notFound what)
  login sent hmem hsent response hresponse h404 := by
    obtain ⟨reason, hreason⟩ := h.login sent hmem hsent response hresponse h404
    exact ⟨reason, (hsame _).mpr hreason⟩

/-- The answers to one request to an endpoint explain what comes of it. -/
theorem attempt_explains (hcovers : Covers call endpoint) {link later : Link (τ × List Sent)}
    {outcome : Except Fault β}
    (hon : (attempt (endpoint.dialog settings transport.noted)).on link = (outcome, later))
    (hstatus : StatusesFit later.network.2) :
    ∃ more, later.network.2 = link.network.2 ++ more ∧ Explains settings call more outcome := by
  have hopen : Open settings [] := ⟨nofun, nofun⟩
  obtain ⟨more, hlog, hends⟩ : EndsFrom settings (Envelope.ofJson? endpoint.read) endpoint.ask
      link.network.2 (endpoint.received settings transport.noted link) :=
    attempts_ends (endpoint.body_ne settings) hopen link (List.append_nil _).symm _ _
  rw [attempt_dialog_on] at hon
  cases hon
  rw [hlog] at hstatus
  exact ⟨more, hlog, hends.explains hcovers hstatus.of_append.2⟩

/-- The answers to a grab explain what comes of it, with one request or with two. -/
theorem grabLock_explains {id : Int64} {client : ClientState} {network : τ}
    {outcome : Except Fault LockStatus} {later : Link (τ × List Sent)}
    (hon : ((store settings transport.noted).answer (.grabLock id)).on ⟨client, (network, [])⟩
      = (outcome, later))
    (hstatus : StatusesFit later.network.2) :
    Explains settings (.grabLock id) later.network.2 outcome := by
  have alone {first : Except Fault (Option LockStatus)}
      (hfirst : (attempt ((grabbing id).dialog settings transport.noted)).on
        ⟨client, (network, [])⟩ = (first, later))
      (hsame : ∀ fault, outcome = .error fault ↔ first = .error fault) :
      Explains settings (.grabLock id) later.network.2 outcome := by
    obtain ⟨more, hlog, hexplains⟩ := attempt_explains (covers_grabbing id) hfirst hstatus
    rw [hlog]
    exact hexplains.congr hsame
  rw [grabLock_on] at hon
  rcases hfirst : (attempt ((grabbing id).dialog settings transport.noted)).on
    ⟨client, (network, [])⟩ with ⟨fault | _ | status, between⟩ <;> rw [hfirst] at hon
  · cases hon
    exact alone hfirst (by simp)
  · obtain ⟨second, hlog, hsecond⟩ := attempt_explains (covers_endpointOf _) hon hstatus
    rw [hlog] at hstatus ⊢
    obtain ⟨more, hbetween, hexplains⟩ :=
      attempt_explains (covers_grabbing id) hfirst hstatus.of_append.1
    rw [hbetween]
    exact hexplains.append hsecond
  · cases hon
    exact alone hfirst (by simp)

/-- **The last answer decides what a call brings**, over any network and whatever the client has
remembered. A call succeeds only where a success was the last that was answered, it fails only with
something missing or something gone wrong, and something is missing exactly where the last answer
says so; no login can say it. -/
theorem faults_of_answers (settings : ClientSettings) (transport : Transport τ)
    (client : ClientState) (network : τ) (call : StoreCall) (outcome : Except Fault call.Answer)
    (later : Link (τ × List Sent))
    (hon : ((store settings transport.noted).answer call).on ⟨client, (network, [])⟩
      = (outcome, later))
    (hstatus : StatusesFit later.network.2) :
    Explains settings call later.network.2 outcome := by
  by_cases hgrab : ∃ id, call = .grabLock id
  · obtain ⟨id, rfl⟩ := hgrab
    exact grabLock_explains hon hstatus
  · rw [answer_eq call fun id h => hgrab ⟨id, h⟩] at hon
    obtain ⟨more, hlog, hexplains⟩ := attempt_explains (covers_endpointOf _) hon hstatus
    rw [hlog]
    exact hexplains

/-- One server without a login. -/
def oneServer : ClientSettings := { servers := ["http://[::1]"] }

/-- The server does not know the record. -/
def unknownRecord : Transport.Script := { answers := [some ⟨404, "gone"⟩] }

/-- The record is read, and the answer tells that it is missing. -/
theorem faults_of_answers_unknown : ∃ later,
    ((store oneServer Transport.scripted.noted).answer (.getRecord 1)).on ⟨{}, (unknownRecord, [])⟩
        = (.error (.notFound "gone"), later)
      ∧ StatusesFit later.network.2
      ∧ ∃ sent response, LastOf (IsAnswered oneServer) later.network.2 sent
        ∧ sent.answer = some response
        ∧ Missing (.getRecord 1) sent.request response := by
  have hok : (requestTo oneServer (askOf (.getRecord 1)) none (serverAhead oneServer {} 0)).isOk
      = true := by decide +kernel
  obtain ⟨request, hrequest⟩ := exists_of_isOk hok
  have hreceived : (endpointOf (.getRecord 1)).received oneServer Transport.scripted.noted
      ⟨{}, (unknownRecord, [])⟩ = (.error (.server 404 "gone"),
        ⟨{}, ({ answers := [], received := [request] }, [⟨request, some ⟨404, "gone"⟩⟩])⟩) := by
    have htoken : (ensureToken oneServer Transport.scripted.noted).on ⟨{}, (unknownRecord, [])⟩
        = (.ok none, ⟨{}, (unknownRecord, [])⟩) := ensureToken_on_of_not_logsIn rfl
    exact attempts_on_answered htoken hrequest rfl (by decide)
  have hon : ((store oneServer Transport.scripted.noted).answer (.getRecord 1)).on
      ⟨{}, (unknownRecord, [])⟩ = (.error (.notFound "gone"),
        ⟨{}, ({ answers := [], received := [request] }, [⟨request, some ⟨404, "gone"⟩⟩])⟩) := by
    rw [answer_eq (.getRecord 1) nofun, attempt_dialog_on, hreceived]
    rfl
  have hstatus : StatusesFit [⟨request, some ⟨404, "gone"⟩⟩] := by
    intro sent hmem response hresponse
    obtain rfl := List.mem_singleton.mp hmem
    cases hresponse
    decide
  have hexplains := faults_of_answers oneServer Transport.scripted {} unknownRecord (.getRecord 1)
    _ _ hon hstatus
  exact ⟨_, hon, hstatus, hexplains.missing.mp ⟨"gone", rfl⟩⟩

end Remote
end Whitelist
