import Whitelist.Proofs.Remote.Endpoint

/-!
# Where tokens come from

A client that logs in keeps the token of its last login, shows it with every request, and throws it
away when a server turns it down. What goes over the network is written down here beside the
network, so that a request can be compared with all that was sent and answered before it.

## What is here

* `Sent`, `Transport.noted` — a request with its answer, and a network that notes them all.
* `IsLogin`, `Grants`, `IsTurnedDown` — logins, logins that bring a token, and other requests that
  are answered with 401.
* `Current` — the token of the last login that brought one, with nothing turned down since.
* `Kept` — every request so far was sent with the token that was current then, and the token that
  the client has is current now. `keeps_attempts` and its like say that no dialog breaks it.
* `ClientStep`, `afterSteps` — calls and the time between them.
* `tokens_of_logins` — the tokens that a client sends are those of its latest logins.

The invariant is `Kept`, on a link and its log together. That everything so far was sent as it
should be is a statement on the past, which nothing can undo; what has to be carried along is that
the token which the client has now is the current one, for it will be sent next. Each piece of a
dialog is an `Ensures` for `Kept`, and the pieces of a call, of a store and of a run are put
together by `Ensures.bind` and by induction on the attempts and on the steps.

A failed dialog must keep the invariant as well. In between there are moments when it holds only
because the client has no token, as after a refusal (`AllProper.kept`).
-/

set_option autoImplicit false
namespace Whitelist

/-! ## What has been sent

`Current` is about the log alone. It asks for a login that brought the token, with no other such
login and no refusal after it. -/

/-- A request as it was sent, with the answer, if there was one. -/
structure Sent where
  request : Request
  answer : Option Response

/-- The same network, with all requests and their answers noted, the latest last. -/
def Transport.noted {τ : Type} (transport : Transport τ) : Transport (τ × List Sent) where
  send request := fun (network, log) =>
    let (answer, network) := (transport.send request).run network
    (answer, (network, log ++ [⟨request, answer⟩]))

namespace Client

variable {τ α : Type} (settings : ClientSettings)

/-- A login: nothing else is sent with the form of user name and password. -/
def IsLogin (sent : Sent) : Prop := sent.request.body = some (loginForm settings)

/-- A login that is answered with success and a token that is not empty. -/
def Grants (sent : Sent) (token : String) : Prop :=
  IsLogin settings sent ∧ ∃ response envelope, sent.answer = some response
    ∧ 200 ≤ response.status ∧ response.status < 300
    ∧ (Json.ofText? response.body).bind (Envelope.ofJson? Wire.asString) = some envelope
    ∧ envelope.code = 200 ∧ envelope.content = some token ∧ token ≠ ""

/-- A request other than a login that is answered with 401. -/
def IsTurnedDown (sent : Sent) : Prop :=
  ¬ IsLogin settings sent ∧ ∃ response, sent.answer = some response ∧ response.status = 401

/-- The token is that of the latest login that brought one. -/
def Latest (log : List Sent) (token : String) : Prop :=
  ∃ before login after, log = before ++ login :: after ∧ Grants settings login token
    ∧ ∀ sent ∈ after, ∀ other, ¬ Grants settings sent other

/-- The token is that of the latest login that brought one, and no request has been turned down
since. -/
def Current (log : List Sent) (token : String) : Prop :=
  ∃ before login after, log = before ++ login :: after ∧ Grants settings login token
    ∧ ∀ sent ∈ after, (∀ other, ¬ Grants settings sent other) ∧ ¬ IsTurnedDown settings sent

variable {settings} {log before later : List Sent} {sent : Sent} {token : String}

theorem Current.latest (h : Current settings log token) : Latest settings log token := by
  obtain ⟨before, login, after, hlog, hgrants, hafter⟩ := h
  exact ⟨before, login, after, hlog, hgrants, fun sent hsent => (hafter sent hsent).1⟩

/-- Where a token is current, there was a login after each request that was turned down. -/
theorem Current.login_after (h : Current settings (before ++ sent :: later) token)
    (hsent : IsTurnedDown settings sent) :
    ∃ login ∈ later, ∃ other, Grants settings login other := by
  obtain ⟨earlier, login, after, hlog, hgrants, hafter⟩ := h
  rcases List.append_eq_append_iff.mp hlog with ⟨middle, hearlier, hlater⟩ | ⟨middle, -, hlater⟩
  · cases middle with
    | nil =>
      -- The request that was turned down would be the login.
      obtain rfl : sent = login := by simpa using congrArg List.head? hlater
      exact absurd hgrants.1 hsent.1
    | cons first middle =>
      refine ⟨login, ?_, token, hgrants⟩
      rw [List.cons_append, List.cons.injEq] at hlater
      rw [hlater.2]
      simp
  · cases middle with
    | nil =>
      obtain rfl : login = sent := by simpa using congrArg List.head? hlater
      exact absurd hgrants.1 hsent.1
    | cons first middle =>
      rw [List.cons_append, List.cons.injEq] at hlater
      exact absurd hsent (hafter sent (by rw [hlater.2]; simp)).2

theorem Current.of_grants (h : Grants settings sent token) :
    Current settings (log ++ [sent]) token :=
  ⟨log, sent, [], rfl, h, fun _ hmem => absurd hmem List.not_mem_nil⟩

/-- A token stays current while no other is granted and nothing is turned down. -/
theorem Current.append (h : Current settings log token)
    (hgrants : ∀ other, ¬ Grants settings sent other)
    (hturned : ¬ IsTurnedDown settings sent) : Current settings (log ++ [sent]) token := by
  obtain ⟨before, login, after, rfl, hlogin, hafter⟩ := h
  refine ⟨before, login, after ++ [sent], by simp, hlogin, fun x hx => ?_⟩
  rcases List.mem_append.mp hx with hx | hx
  · exact hafter x hx
  · obtain rfl := List.mem_singleton.mp hx
    exact ⟨hgrants, hturned⟩

/-! ## What a client keeps to

A client that does not log in sends no token; one that does sends the current one with each request
but the login itself. -/

variable (settings)

/-- The token that may be sent after all that has been sent: the current one where the client logs
in, and none where it does not. -/
def MaySend (log : List Sent) (token : Option String) : Prop :=
  if settings.logsIn then ∃ text, token = some text ∧ Current settings log text else token = none

/-- After what was sent before, this was sent as it should be. -/
def Proper (before : List Sent) (sent : Sent) : Prop :=
  (IsLogin settings sent → settings.logsIn = true ∧ sent.request.token = none)
    ∧ (¬ IsLogin settings sent → MaySend settings before sent.request.token)

/-- Everything was sent as it should be. -/
def AllProper (log : List Sent) : Prop :=
  ∀ before sent after, log = before ++ sent :: after → Proper settings before sent

/-- Everything was sent as it should be, and the token that the client has is current. -/
structure Kept (link : Link (τ × List Sent)) : Prop where
  proper : AllProper settings link.network.2
  current : ∀ kept, link.client.token = some kept →
    settings.logsIn = true ∧ Current settings link.network.2 kept.text

variable {settings} {link : Link (τ × List Sent)}

/-- Nothing was sent yet. -/
theorem allProper_nil : AllProper settings [] := fun before sent after h =>
  absurd h.symm (List.append_ne_nil_of_right_ne_nil before (List.cons_ne_nil sent after))

/-- One more request, sent as it should be. -/
theorem AllProper.append (h : AllProper settings log) (hsent : Proper settings log sent) :
    AllProper settings (log ++ [sent]) := by
  intro before x after heq
  rcases List.eq_nil_or_concat after with rfl | ⟨after, last, rfl⟩
  · obtain ⟨rfl, hx⟩ := List.append_inj' heq rfl
    obtain rfl := List.singleton_inj.mp hx
    exact hsent
  · rw [List.concat_eq_append, ← List.cons_append, ← List.append_assoc] at heq
    exact h before x after (List.append_inj' heq rfl).1

/-- A link with another server is as good. -/
theorem Kept.setClient (h : Kept settings link) {client : ClientState}
    (hclient : client.token = link.client.token) : Kept settings { link with client } where
  proper := h.proper
  current kept hkept := h.current kept (hclient ▸ hkept)

/-- A client without a token cannot send a wrong one. -/
theorem AllProper.kept (h : AllProper settings link.network.2) (hnone : link.client.token = none) :
    Kept settings link where
  proper := h
  current kept hkept := by
    rw [hnone] at hkept
    cases hkept

/-- Time takes no token away; it only makes it unusable. -/
theorem Kept.elapse (h : Kept settings link) (seconds : Nat) :
    Kept settings { link with client := link.client.elapse seconds } where
  proper := h.proper
  current kept hkept := by
    obtain ⟨kept', hkept', rfl⟩ := Option.map_eq_some_iff.mp hkept
    exact h.current kept' hkept'

/-! ## Logins

A login is sent without a token, whatever the client has, and is answered with a token in an
envelope. -/

variable (transport : Transport τ)

/-- A request over a network that notes it. -/
theorem exchange_noted (method : Method) (address : String) (token : Option String)
    (body : Option Json) (link : Link (τ × List Sent)) :
    (∃ e, (exchange transport.noted method address token body).run link = (.error e, link))
      ∨ ∃ sent network, sent.request.token = token ∧ sent.request.body = body
        ∧ (exchange transport.noted method address token body).run link
          = (answered sent.request sent.answer,
            { link with network := (network, link.network.2 ++ [sent]) }) := by
  rw [exchange_on]
  cases hprepare : Request.prepare method address token body with
  | error e => exact .inl ⟨e, rfl⟩
  | ok request =>
    obtain ⟨-, htoken, hbody⟩ := prepare_eq_ok hprepare
    exact .inr ⟨⟨request, ((transport.send request).run link.network.1).1⟩,
      ((transport.send request).run link.network.1).2, htoken, hbody, rfl⟩

/-- What can be decoded is a body that reads as JSON and then as the value. -/
theorem decode_eq_ok {read : Json → Option α} (request : Request) {response : Response} {a : α} :
    decode read request response = .ok a ↔ (Json.ofText? response.body).bind read = some a := by
  rw [decode]
  cases (Json.ofText? response.body).bind read <;> simp

/-- An answer gives a token if it is a success, with an envelope that tells one, and a text in it
that is not empty. -/
theorem tokenOf_eq_ok {request : Request} {response : Response} :
    tokenOf request response = .ok token ↔ response.isSuccess = true ∧ ∃ envelope,
      (Json.ofText? response.body).bind (Envelope.ofJson? Wire.asString) = some envelope
        ∧ envelope.isSuccess = true ∧ envelope.content = some token ∧ token ≠ "" := by
  rw [tokenOf]
  cases response.isSuccess with
  | false => simp
  | true =>
    simp only [if_true, true_and, ← decode_eq_ok request]
    cases decode (Envelope.ofJson? Wire.asString) request response with
    | error e =>
      simp only [reduceCtorEq, false_and, exists_false, iff_false]
      exact nofun
    | ok envelope =>
      dsimp only [bind, Except.bind]
      cases hcontent : envelope.content with
      | none => simp [hcontent]
      | some text =>
        dsimp only
        split
        · rename_i hgood
          simp only [Except.ok.injEq, exists_eq_left', hcontent, Option.some.injEq]
          exact ⟨fun h => ⟨hgood.1, h, h ▸ hgood.2⟩, fun h => h.2.1⟩
        · rename_i hbad
          simp only [Except.ok.injEq, exists_eq_left', hcontent, Option.some.injEq, reduceCtorEq,
            false_iff]
          rintro ⟨hsuccess, rfl, hne⟩
          exact hbad ⟨hsuccess, hne⟩

/-- A login brings a token exactly where its answer gives one. -/
theorem grants_iff {response : Response} (hlogin : IsLogin settings sent)
    (hanswer : sent.answer = some response) (request : Request) :
    Grants settings sent token ↔ tokenOf request response = .ok token := by
  have hstatus : response.isSuccess = true ↔ 200 ≤ response.status ∧ response.status < 300 := by
    simp [Response.isSuccess]
  have hcode (envelope : Envelope String) : envelope.isSuccess = true ↔ envelope.code = 200 :=
    decide_eq_true_iff
  simp only [tokenOf_eq_ok, hstatus, hcode, Grants, hanswer, Option.some_inj]
  constructor
  · rintro ⟨-, _, envelope, rfl, hlow, hhigh, hgiven⟩
    exact ⟨⟨hlow, hhigh⟩, envelope, hgiven⟩
  · rintro ⟨⟨hlow, hhigh⟩, envelope, hgiven⟩
    exact ⟨hlogin, response, envelope, rfl, hlow, hhigh, hgiven⟩

/-- The exchange of a login has brought a token. -/
def Brings (outcome : Except HttpError (Request × Response)) (token : String) : Prop :=
  ∃ request response, outcome = .ok (request, response) ∧ tokenOf request response = .ok token

variable (settings) in
/-- What is known of a link after the exchange of a login: a token that it brought is the current
one, and if it brought none, the one that the client has stays so. -/
structure AfterLogin (outcome : Except HttpError (Request × Response))
    (link : Link (τ × List Sent)) : Prop where
  proper : AllProper settings link.network.2
  current : ∀ token, Brings outcome token → Current settings link.network.2 token
  kept : (∀ token, ¬ Brings outcome token) → Kept settings link

theorem brings_answered_iff (hlogin : IsLogin settings sent) :
    Brings (answered sent.request sent.answer) token ↔ Grants settings sent token := by
  constructor
  · rintro ⟨request, response, houtcome, htoken⟩
    cases hanswer : sent.answer with
    | none =>
      rw [hanswer] at houtcome
      cases houtcome
    | some given =>
      rw [hanswer] at houtcome
      cases houtcome
      exact (grants_iff hlogin hanswer _).mpr htoken
  · intro hgrants
    obtain ⟨-, response, -, hanswer, -⟩ := id hgrants
    exact ⟨sent.request, response, by rw [hanswer]; rfl, (grants_iff hlogin hanswer _).mp hgrants⟩

/-- The exchange keeps to the rules, and tells what to do with the token. -/
theorem Kept.exchange_login (h : Kept settings link) (hlogs : settings.logsIn = true)
    (address : String) : AfterLogin settings
      ((exchange transport.noted .post address none (some (loginForm settings))).run link).1
      ((exchange transport.noted .post address none (some (loginForm settings))).run link).2 := by
  rcases exchange_noted transport .post address none (some (loginForm settings)) link with
    ⟨e, hnone⟩ | ⟨sent, network, htoken, hlogin, hsent⟩
  · rw [hnone]
    exact ⟨h.proper, nofun, fun _ => h⟩
  · rw [hsent]
    have hlast : Proper settings link.network.2 sent :=
      ⟨fun _ => ⟨hlogs, htoken⟩, fun hnot => absurd hlogin hnot⟩
    have hproper := h.proper.append hlast
    refine ⟨hproper, fun token hbrings => .of_grants ((brings_answered_iff hlogin).mp hbrings),
      fun hnone => ⟨hproper, fun kept hkept => ⟨hlogs, ?_⟩⟩⟩
    exact (h.current kept hkept).2.append
      (fun token hgrants => hnone token ((brings_answered_iff hlogin).mpr hgrants))
      fun hturned => hturned.1 hlogin

/-- A login is noted as it should be, and the token that it brings is kept. -/
theorem keeps_login : Dialog.Ensures (fun link => Kept settings link ∧ settings.logsIn = true)
    (login settings transport.noted) (fun _ => Kept settings) (Kept settings) := by
  unfold login
  refine .bind _ .get fun start => ?_
  refine .bind (fun (outcome : Except HttpError (Request × Response)) link =>
    settings.logsIn = true ∧ AfterLogin settings outcome link) ?_ fun outcome => ?_
  · exact .lift fun link hlink => ⟨hlink.2.2, hlink.2.1.exchange_login transport hlink.2.2 _⟩
  · rcases outcome with e | ⟨request, response⟩
    · exact .throw fun link hlink => hlink.2.kept nofun
    · dsimp only
      refine .bind (fun token link => settings.logsIn = true
        ∧ AllProper settings link.network.2 ∧ Current settings link.network.2 token)
        (.liftExcept ?_ ?_) fun token => .setClient fun link hlink => ⟨hlink.2.1, ?_⟩
      · exact fun token htoken link hlink =>
          ⟨hlink.1, hlink.2.proper, hlink.2.current token ⟨request, response, rfl, htoken⟩⟩
      · refine fun e he link hlink => hlink.2.kept fun token hbrings => ?_
        obtain ⟨_, _, houtcome, htoken⟩ := hbrings
        cases houtcome
        rw [he] at htoken
        cases htoken
      · intro kept hkept
        obtain rfl := Option.some_inj.mp hkept
        exact ⟨hlink.1, hlink.2.2⟩

/-! ## Calls

Between the look for a token and the request no time passes and nothing else is sent, so the token
that was found is current still. -/

/-- A token that may be used is the one that the client has. -/
theorem Kept.usable (h : Kept settings link) {text : String}
    (husable : usableToken link.client = some text) :
    settings.logsIn = true ∧ Current settings link.network.2 text := by
  obtain ⟨kept, hkept, rfl⟩ := Option.map_eq_some_iff.mp husable
  exact h.current kept (Option.filter_eq_some_iff.mp hkept).1

/-- The token that a request is to be sent with may be sent. -/
theorem keeps_ensureToken : Dialog.Ensures (Kept settings) (ensureToken settings transport.noted)
    (fun token link => Kept settings link ∧ MaySend settings link.network.2 token)
    (Kept settings) := by
  have usable (link : Link (τ × List Sent)) (hkept : Kept settings link) (text : String)
      (husable : usableToken link.client = some text) :
      Kept settings link ∧ MaySend settings link.network.2 (some text) := by
    obtain ⟨hlogs, hcurrent⟩ := hkept.usable husable
    exact ⟨hkept, by rw [MaySend, if_pos hlogs]; exact ⟨text, rfl, hcurrent⟩⟩
  unfold ensureToken
  cases hlogs : settings.logsIn with
  | false =>
    exact .pure fun link hkept => ⟨hkept, by rw [MaySend, hlogs]; rfl⟩
  | true =>
    refine .bind _ .get fun start => ?_
    cases husable : usableToken start.client with
    | some text => exact .pure fun link hlink => usable link hlink.2 text (hlink.1 ▸ husable)
    | none =>
      refine .bind _ ((keeps_login transport).mono fun link hlink => ⟨hlink.2, hlogs⟩) fun _ => ?_
      refine .bind _ .get fun later => ?_
      cases husable : usableToken later.client with
      | some text => exact .pure fun link hlink => usable link hlink.2 text (hlink.1 ▸ husable)
      | none => exact .throw fun link hlink => hlink.2

variable (settings) in
/-- The exchange of a request has been answered with 401, and the client can log in. -/
def Refused (outcome : Except HttpError (Request × Response)) : Prop :=
  ∃ request response, outcome = .ok (request, response)
    ∧ response.status = 401 ∧ settings.logsIn = true

theorem not_refused_error {e : HttpError} : ¬ Refused settings (.error e) := by
  rintro ⟨_, _, houtcome, -⟩
  cases houtcome

variable (settings) in
/-- What is known of a link after the exchange of a request that is no login: unless it was turned
down, the token that the client has is still current. -/
structure AfterAsk (outcome : Except HttpError (Request × Response)) (link : Link (τ × List Sent)) :
    Prop where
  proper : AllProper settings link.network.2
  kept : ¬ Refused settings outcome → Kept settings link

/-- A request that is not turned down leaves the token current. -/
theorem Kept.exchange_ask (h : Kept settings link) {token : Option String}
    (htoken : MaySend settings link.network.2 token) {body : Option Json}
    (hbody : body ≠ some (loginForm settings)) (method : Method) (address : String) :
    AfterAsk settings ((exchange transport.noted method address token body).run link).1
      ((exchange transport.noted method address token body).run link).2 := by
  rcases exchange_noted transport method address token body link with
    ⟨e, hnone⟩ | ⟨sent, network, rfl, rfl, hsent⟩
  · rw [hnone]
    exact ⟨h.proper, fun _ => h⟩
  · rw [hsent]
    have hlast : Proper settings link.network.2 sent :=
      ⟨fun hlogin => absurd hlogin hbody, fun _ => htoken⟩
    have hproper := h.proper.append hlast
    refine ⟨hproper, fun hkeep => ⟨hproper, fun kept hkept => ?_⟩⟩
    obtain ⟨hlogs, hcurrent⟩ := h.current kept hkept
    refine ⟨hlogs, hcurrent.append (fun _ hgrants => hbody hgrants.1) fun hturned => hkeep ?_⟩
    obtain ⟨-, response, hanswer, hstatus⟩ := hturned
    exact ⟨sent.request, response, by rw [hanswer]; rfl, hstatus, hlogs⟩

/-- However often a request is tried, it is sent with the current token each time. -/
theorem keeps_attempts (read : Json → Option α) (ask : Ask)
    (hbody : ask.body ≠ some (loginForm settings)) (left : Nat) (lastError : Option HttpError) :
    Dialog.Ensures (Kept settings) (attempts settings transport.noted read ask left lastError)
      (fun _ => Kept settings) (Kept settings) := by
  induction left generalizing lastError with
  | zero => exact .throw fun link hlink => hlink
  | succ left ih =>
    unfold attempts
    refine .bind _ .get fun start => ?_
    refine .bind _ ((keeps_ensureToken transport).mono fun link hlink => hlink.2) fun token => ?_
    refine .bind (fun (outcome : Except HttpError (Request × Response)) link =>
      AfterAsk settings outcome link) ?_ fun outcome => ?_
    · exact .lift fun link hlink => hlink.1.exchange_ask transport hlink.2 hbody _ _
    · rcases outcome with e | ⟨request, response⟩
      · refine .bind _ (.setClient fun link hlink => ?_) fun _ => ih (some e)
        have hkept := hlink.kept not_refused_error
        exact hkept.setClient rfl
      · dsimp only
        split
        · rename_i hrefused
          refine .bind (fun _ link => Kept settings link ∧ settings.logsIn = true)
            (.setClient fun link hlink => ?_)
            fun _ => .bind _ (keeps_login transport) fun _ => ih lastError
          refine ⟨AllProper.kept ?_ rfl, hrefused.2⟩
          exact hlink.proper
        · rename_i hother
          have hnot : ¬ Refused settings (.ok (request, response)) := by
            rintro ⟨_, _, houtcome, hrefused⟩
            cases houtcome
            exact hother hrefused
          exact .liftExcept (fun _ _ link hlink => hlink.kept hnot)
            fun _ _ link hlink => hlink.kept hnot

end Client

/-! ## The calls of a store -/

namespace Remote

open Client

variable {τ : Type} {settings : ClientSettings} {transport : Transport τ}

/-- None of the requests that a store makes is a login, so none of them breaks anything. -/
theorem keeps_answer (storeCall : StoreCall) {link : Link (τ × List Sent)}
    (hlink : Kept settings link) :
    Kept settings (((store settings transport.noted).answer storeCall).on link).2 :=
  answer_on_keeps (fun endpoint _ => (keeps_attempts transport (Envelope.ofJson? endpoint.read)
    endpoint.ask (endpoint.body_ne settings) settings.servers.length none).after) storeCall hlink

/-! ## Runs

Time only makes tokens unusable. A token that is not used any more leads to a login at the next
call. -/

/-- What a client goes through: calls, and the time between them. -/
inductive ClientStep where
  | call (storeCall : StoreCall)
  | elapse (seconds : Nat)

variable (settings) in
/-- The link after a step, over a network that notes what is sent. -/
def ClientStep.after (transport : Transport τ) (link : Link (τ × List Sent)) :
    ClientStep → Link (τ × List Sent)
  | .call storeCall => (((store settings transport.noted).answer storeCall).on link).2
  | .elapse seconds => { link with client := link.client.elapse seconds }

variable (settings) in
/-- The link after a run. -/
def afterSteps (transport : Transport τ) (link : Link (τ × List Sent)) (steps : List ClientStep) :
    Link (τ × List Sent) :=
  steps.foldl (ClientStep.after settings transport) link

variable (settings) in
/-- A client that has just been made, logged in or not, and a network on which nothing had been sent
before. -/
def IsNew (transport : Transport τ) (network : τ) (link : Link (τ × List Sent)) : Prop :=
  connect settings (network, []) = .ok link
    ∨ connectAndLogin settings transport.noted (network, []) = .ok link

/-- What every step keeps, a run keeps. -/
theorem afterSteps_keeps {I : Link (τ × List Sent) → Prop}
    (hstep : ∀ (step : ClientStep) (link : Link (τ × List Sent)), I link →
      I (ClientStep.after settings transport link step))
    {link : Link (τ × List Sent)} (hlink : I link) (steps : List ClientStep) :
    I (afterSteps settings transport link steps) := by
  induction steps generalizing link with
  | nil => exact hlink
  | cons step rest ih => exact ih (hstep step link hlink)

/-- What is so of a client without a token, and what a login keeps, is so of a new client. -/
theorem IsNew.holds {I : Link (τ × List Sent) → Prop} {network : τ} {link : Link (τ × List Sent)}
    (h : IsNew settings transport network link)
    (hconnected : settings.servers ≠ [] → I { network := (network, []) })
    (hlogin : settings.logsIn = true → ∀ link, I link →
      I ((login settings transport.noted).on link).2) : I link := by
  have hconnect {link : Link (τ × List Sent)} (h : connect settings (network, []) = .ok link) :
      I link := by
    rw [connect] at h
    split at h
    · cases h
    · rename_i hservers
      cases h
      exact hconnected hservers
  rcases h with h | h
  · exact hconnect h
  · rw [connectAndLogin] at h
    cases hlink : connect settings (network, ([] : List Sent)) with
    | error e =>
      rw [hlink] at h
      cases h
    | ok start =>
      rw [hlink] at h
      cases hlogs : settings.logsIn with
      | false =>
        rw [hlogs] at h
        exact Except.ok.inj h ▸ hconnect hlink
      | true =>
        rw [hlogs] at h
        exact Except.ok.inj h ▸ hlogin hlogs start (hconnect hlink)

theorem keeps_afterSteps {link : Link (τ × List Sent)} (hlink : Kept settings link)
    (steps : List ClientStep) : Kept settings (afterSteps settings transport link steps) := by
  refine afterSteps_keeps (fun step link hkept => ?_) hlink steps
  cases step with
  | call storeCall => exact keeps_answer storeCall hkept
  | elapse seconds => exact hkept.elapse seconds

theorem IsNew.kept {network : τ} {link : Link (τ × List Sent)}
    (h : IsNew settings transport network link) : Kept settings link :=
  h.holds (fun _ => allProper_nil.kept rfl)
    fun hlogs _ hkept => (keeps_login transport).after ⟨hkept, hlogs⟩

/-- **A client sends the token of its latest login, and after a refusal a newer one.** Over any
network, and so for any script of answers, and over any run of calls. Without a user name no login
is sent, and no token. With one, every request but a login is sent with the token of the latest
login that brought one, and if a request was answered with 401 before, then a login has brought a
token since. -/
theorem tokens_of_logins (settings : ClientSettings) (transport : Transport τ) (network : τ)
    (link : Link (τ × List Sent)) (hnew : IsNew settings transport network link)
    (steps : List ClientStep) :
    (settings.username = "" → ∀ sent ∈ (afterSteps settings transport link steps).network.2,
        ¬ IsLogin settings sent ∧ sent.request.token = none)
      ∧ (settings.username ≠ "" → ∀ before sent after,
        (afterSteps settings transport link steps).network.2 = before ++ sent :: after →
        ¬ IsLogin settings sent →
        (∃ token, sent.request.token = some token ∧ Latest settings before token)
          ∧ ∀ earlier refused between, before = earlier ++ refused :: between →
            IsTurnedDown settings refused →
            ∃ login ∈ between, ∃ token, Grants settings login token) := by
  have hkept : Kept settings (afterSteps settings transport link steps) :=
    keeps_afterSteps hnew.kept steps
  refine ⟨fun hname sent hsent => ?_, fun hname before sent after hlog hsent => ?_⟩
  · have hlogs : settings.logsIn = false := by simp [ClientSettings.logsIn, hname]
    obtain ⟨before, after, hlog⟩ := List.append_of_mem hsent
    obtain ⟨hlogin, hother⟩ := hkept.proper before sent after hlog
    have hnot : ¬ IsLogin settings sent := fun h => by
      rw [hlogs] at hlogin
      cases (hlogin h).1
    have htoken := hother hnot
    rw [MaySend, hlogs] at htoken
    exact ⟨hnot, htoken⟩
  · have hlogs : settings.logsIn = true := by simp [ClientSettings.logsIn, hname]
    have htoken := (hkept.proper before sent after hlog).2 hsent
    rw [MaySend, if_pos hlogs] at htoken
    obtain ⟨text, hsome, hcurrent⟩ := htoken
    refine ⟨⟨text, hsome, hcurrent.latest⟩, ?_⟩
    rintro earlier refused between rfl hrefused
    exact hcurrent.login_after hrefused

/-- A client that logs in. -/
def asUser : ClientSettings := { servers := ["http://[::1]"], username := "u", password := "p" }

/-- The answer to a login that gives a token. -/
def welcome : Response :=
  ⟨200, (Envelope.toJson id ⟨Envelope.successCode, none, some (.str "first")⟩).toText⟩

theorem tokenOf_welcome (request : Request) : tokenOf request welcome = .ok "first" := by
  rw [tokenOf_eq_ok]
  refine ⟨rfl, ⟨Envelope.successCode, none, some "first"⟩, ?_, rfl, rfl, by decide⟩
  have hcontent : (Json.str "first").Exact 0 := .str "first"
  rw [welcome, (Envelope.exact_toJson hcontent _ _).ofText?_toText (by decide), Option.bind_some,
    Envelope.ofJson?_toJson rfl]

/-- A new client whose login will bring a token, and whose next request will not succeed. -/
def welcomed : Link (Transport.Script × List Sent) :=
  { network := ({ answers := [some welcome, some ⟨500, ""⟩] }, []) }

/-- A login, and then the request. -/
theorem log_welcomed : ∃ login ask,
    (afterSteps asUser Transport.scripted welcomed [.call .operators]).network.2 = [login, ask]
      ∧ ¬ IsLogin asUser ask := by
  have hokLogin : (Request.prepare .post (addressOn asUser welcomed.client asUser.loginPath) none
    (some (loginForm asUser))).isOk = true := by decide +kernel
  have hokAsk : (Request.prepare (postEmpty "/operator").method
    (addressOn asUser welcomed.client (postEmpty "/operator").path) (some "first")
    (postEmpty "/operator").body).isOk = true := by decide +kernel
  obtain ⟨login, hlogin⟩ := exists_of_isOk hokLogin
  obtain ⟨ask, hask⟩ := exists_of_isOk hokAsk
  obtain ⟨-, -, hbody⟩ := prepare_eq_ok hask
  refine ⟨⟨login, some welcome⟩, ⟨ask, some ⟨500, ""⟩⟩, ?_, by rw [IsLogin, hbody]; nofun⟩
  have hstart : (Client.login asUser Transport.scripted.noted).on welcomed = (.ok (), _) :=
    login_on hlogin rfl (tokenOf_welcome login)
  have htoken : (ensureToken asUser Transport.scripted.noted).on welcomed
      = (.ok (some "first"), _) := ensureToken_on rfl rfl hstart rfl
  have hfailure : (attempts asUser Transport.scripted.noted
      (Envelope.ofJson? (Wire.asList Operator.ofJson?)) (postEmpty "/operator") 1 none).on welcomed
      = (.error (.server 500 ""), _) :=
    attempts_on_answered htoken hask rfl (by decide)
  show ((attempt (operators asUser Transport.scripted.noted)).on welcomed).2.network.2 = _
  rw [operators, attempt_call_on_error hfailure]
  rfl

/-- The request after the login is sent with the token that the login has brought. -/
theorem tokens_of_logins_welcomed : IsNew asUser Transport.scripted welcomed.network.1 welcomed
    ∧ ∃ login ask,
      (afterSteps asUser Transport.scripted welcomed [.call .operators]).network.2 = [login, ask]
        ∧ ¬ IsLogin asUser ask
        ∧ ∃ token, ask.request.token = some token ∧ Latest asUser [login] token := by
  have hnew : IsNew asUser Transport.scripted welcomed.network.1 welcomed := .inl rfl
  obtain ⟨login, ask, hlog, hask⟩ := log_welcomed
  obtain ⟨-, htokens⟩ := tokens_of_logins asUser Transport.scripted welcomed.network.1 welcomed hnew
    [.call .operators]
  obtain ⟨htoken, -⟩ := htokens (by decide) [login] ask [] hlog hask
  exact ⟨hnew, login, ask, hlog, hask, htoken⟩

end Remote
end Whitelist
