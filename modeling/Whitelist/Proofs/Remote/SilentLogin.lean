import Whitelist.Proofs.Remote.Attempts

/-!
# Logins without an answer

Only the request of a call is tried on one server after another. The login that it may need is sent
to the server that the client is with, and where that does not answer, the call fails and the client
stays.

## What is here

* `SilentLogin` — a client needs a login, and its server does not answer it; `request_on` says what
  comes of a call.
* `Waiting` — what a client keeps to as long as its server is silent.
* `login_without_failover` — all calls fail as long as the server is silent, whatever the others
  would answer; `silent_login_fails_call` is a call that the next server would have answered.

The cause is an early exit. The loop over the servers asks for the token first and ends with
whatever error that has, before it comes to the line that would go on to the next server. So the
state in which a call finds the client is the state in which it leaves it (`Waiting`), and the next
call fails in the same way. The log shows what was sent meanwhile: logins to one server.
-/

set_option autoImplicit false
namespace Whitelist
namespace Remote

open Client

variable {τ : Type} {settings : ClientSettings} {transport : Transport τ}

variable (settings) in
/-- The client needs a login, and the one that it sends to its server is not answered. -/
structure SilentLogin (transport : Transport τ) (client : ClientState) (network : τ)
    (form : Request) (between : τ) : Prop where
  logsIn : settings.username ≠ ""
  within : client.server < settings.servers.length
  noToken : usableToken client = none
  prepared : loginTo settings (serverAhead settings client 0) = .ok form
  silent : (transport.send form).run network = (none, between)

variable {client : ClientState} {network between : τ} {form : Request}

/-- A login that is not answered ends a call, whatever the call asks for. -/
theorem SilentLogin.request_on (h : SilentLogin settings transport client network form between)
    {α : Type} (read : Json → Option α) (ask : Ask) (log : List Sent) :
    (Client.request settings transport.noted read ask).on ⟨client, (network, log)⟩
      = (.error (.http (.unanswered form.url)), ⟨client, (between, log ++ [⟨form, none⟩])⟩) := by
  obtain ⟨others, hothers⟩ := Nat.exists_eq_succ_of_ne_zero (Nat.ne_zero_of_lt h.within)
  have hlogs : settings.logsIn = true := by simp [ClientSettings.logsIn, h.logsIn]
  have hprepare : Request.prepare .post (addressOn settings client settings.loginPath) none
      (some (loginForm settings)) = .ok form := by
    rw [← h.prepared, serverAhead_zero h.within]
    rfl
  have hlogin : (login settings transport.noted).on ⟨client, (network, log)⟩
      = (.error (.http (.unanswered form.url)), ⟨client, (between, log ++ [⟨form, none⟩])⟩) := by
    rw [login_on_eq, exchange_noted_on, hprepare]
    dsimp only
    rw [h.silent]
    rfl
  rw [Client.request, hothers, attempts_on_succ, ensureToken_on_eq, if_neg (by simp [hlogs]),
    h.noToken]
  dsimp only
  rw [hlogin]

/-- What stays so while logins are not answered: the client is with the same server and without a
token, and has sent it nothing but logins. -/
structure Waiting (client : ClientState) (form : Request) (link : Link (τ × List Sent)) : Prop where
  server : link.client.server = client.server
  noToken : usableToken link.client = none
  sent : ∀ sent ∈ link.network.2, sent = ⟨form, none⟩

/-- A client that waits is one that needs a login, and its server is silent still. -/
theorem Waiting.silentLogin {link : Link (τ × List Sent)} (h : Waiting client form link)
    (hfirst : SilentLogin settings transport client network form between)
    (hsilent : ∀ network, ((transport.send form).run network).1 = none) :
    SilentLogin settings transport link.client link.network.1 form
      ((transport.send form).run link.network.1).2 where
  logsIn := hfirst.logsIn
  within := h.server ▸ hfirst.within
  noToken := h.noToken
  prepared := by
    rw [serverAhead, h.server]
    exact hfirst.prepared
  silent := Prod.ext (hsilent _) rfl

/-- A call of a client whose login is not answered. -/
theorem SilentLogin.answer_on {link : Link (τ × List Sent)}
    (h : SilentLogin settings transport link.client link.network.1 form between)
    (call : StoreCall) : ((store settings transport.noted).answer call).on link
      = (.error (.transport (ClientError.http (.unanswered form.url)).message),
        ⟨link.client, (between, link.network.2 ++ [⟨form, none⟩])⟩) :=
  answer_on_error (fun endpoint =>
    h.request_on (Envelope.ofJson? endpoint.read) endpoint.ask _) call

/-- It waits after any call and after any time. -/
theorem Waiting.after {link : Link (τ × List Sent)} (h : Waiting client form link)
    (hfirst : SilentLogin settings transport client network form between)
    (hsilent : ∀ network, ((transport.send form).run network).1 = none) (step : ClientStep) :
    Waiting client form (ClientStep.after settings transport link step) := by
  cases step with
  | call storeCall =>
    have hon := (h.silentLogin hfirst hsilent).answer_on storeCall
    show Waiting client form (((store settings transport.noted).answer storeCall).on link).2
    rw [hon]
    refine ⟨h.server, h.noToken, fun sent hsent => ?_⟩
    rcases List.mem_append.mp hsent with hsent | hsent
    · exact h.sent sent hsent
    · exact List.mem_singleton.mp hsent
  | elapse seconds => exact ⟨h.server, usableToken_elapse h.noToken seconds, h.sent⟩

/-- **A login that is not answered is not tried on another server.** The call that it is for fails
with it, whatever the network would answer next, and the client stays where it is. So it fails with
every call, and sends nothing but logins to that one server, for as long as the server is silent. -/
theorem login_without_failover (settings : ClientSettings) (transport : Transport τ)
    (client : ClientState) (network between : τ) (form : Request)
    (h : SilentLogin settings transport client network form between) :
    (∀ (α : Type) (read : Json → Option α) (ask : Ask),
        (Client.request settings transport.noted read ask).on ⟨client, (network, [])⟩
          = (.error (.http (.unanswered form.url)), ⟨client, (between, [⟨form, none⟩])⟩))
      ∧ ((∀ network, ((transport.send form).run network).1 = none) →
        ∀ (steps : List ClientStep) (call : StoreCall),
          let link := afterSteps settings transport ⟨client, (network, [])⟩ steps
          link.client.server = client.server ∧ (∀ sent ∈ link.network.2, sent = ⟨form, none⟩)
            ∧ (((store settings transport.noted).answer call).on link).1
              = .error (.transport (ClientError.http (.unanswered form.url)).message)) := by
  refine ⟨fun α read ask => h.request_on read ask [], fun hsilent steps call => ?_⟩
  have hstart : Waiting client form ⟨client, (network, [])⟩ := ⟨rfl, h.noToken, nofun⟩
  have hwaiting : Waiting client form
      (afterSteps settings transport ⟨client, (network, [])⟩ steps) :=
    afterSteps_keeps (fun step link hlink => hlink.after h hsilent step) hstart steps
  refine ⟨hwaiting.server, hwaiting.sent, ?_⟩
  rw [(hwaiting.silentLogin h hsilent).answer_on call]

/-- A network on which one address is silent and every other answers. -/
def silentAt (url : String) : Transport Unit where
  send request := pure (if request.url = url then none else some ⟨200, ""⟩)

/-- A client that has called twice within an hour is still with the server that is silent. -/
theorem login_without_failover_hour : ∃ form,
    SilentLogin twoServers (silentAt form.url) {} () form ()
    ∧ (∀ network, (((silentAt form.url).send form).run network).1 = none)
    ∧ let link := afterSteps twoServers (silentAt form.url) ⟨{}, ((), [])⟩
        [.call .operators, .elapse 3600, .call (.getRecord 1)]
      link.client.server = 0
        ∧ (((store twoServers (silentAt form.url).noted).answer .operators).on link).1
          = .error (.transport (ClientError.http (.unanswered form.url)).message) := by
  have hok : (loginTo twoServers (serverAhead twoServers {} 0)).isOk = true := by decide +kernel
  obtain ⟨form, hform⟩ := exists_of_isOk hok
  have hsilent (network : Unit) : (((silentAt form.url).send form).run network).1 = none :=
    if_pos rfl
  have hlogin : SilentLogin twoServers (silentAt form.url) {} () form () :=
    ⟨by decide, by decide, rfl, hform, Prod.ext (hsilent ()) rfl⟩
  obtain ⟨-, hrun⟩ := login_without_failover twoServers (silentAt form.url) {} () () form hlogin
  obtain ⟨hserver, -, hfails⟩ := hrun hsilent [.call .operators, .elapse 3600, .call (.getRecord 1)]
    .operators
  exact ⟨form, hlogin, hsilent, hserver, hfails⟩

/-- On the next server the login would bring a token that lasts, and the request after it something
that is read as `a`. -/
structure NextServes {α : Type} (settings : ClientSettings) (transport : Transport τ)
    (read : Json → Option α) (ask : Ask) (client : ClientState) (network : τ) (a : α) : Prop where
  servers : 2 ≤ settings.servers.length
  lasts : tokenMargin < settings.tokenLifetime.toNat
  answers : ∃ form welcome text request response between later,
    loginTo settings (serverAhead settings client 1) = .ok form
      ∧ (transport.send form).run network = (some welcome, between)
      ∧ tokenOf form welcome = .ok text
      ∧ requestTo settings ask (some text) (serverAhead settings client 1) = .ok request
      ∧ (transport.send request).run between = (some response, later)
      ∧ accept read request response = .ok a

/-- That the next server would serve the call is not enough for the call to succeed. -/
theorem silent_login_fails_call :
    ¬ ∀ (settings : ClientSettings) (σ α : Type) (transport : Transport σ) (client : ClientState)
      (network between : σ) (form : Request) (read : Json → Option α) (ask : Ask) (a : α),
      SilentLogin settings transport client network form between →
      NextServes settings transport read ask client between a →
      ((Client.request settings transport.noted read ask).on ⟨client, (network, [])⟩).1
        = .ok a := by
  intro hall
  have hokFirst : (loginTo twoServers (serverAhead twoServers {} 0)).isOk = true := by
    decide +kernel
  have hokSecond : (loginTo twoServers (serverAhead twoServers {} 1)).isOk = true := by
    decide +kernel
  have hokAsk : (requestTo twoServers (postEmpty "/operator") (some "first")
      (serverAhead twoServers {} 1)).isOk = true := by decide +kernel
  obtain ⟨form, hform⟩ := exists_of_isOk hokFirst
  obtain ⟨second, hsecond⟩ := exists_of_isOk hokSecond
  obtain ⟨request, hrequest⟩ := exists_of_isOk hokAsk
  have hlogin : SilentLogin twoServers Transport.scripted {}
      { answers := [none, some welcome, some noOperators] } form
      { answers := [some welcome, some noOperators], received := [form] } :=
    ⟨by decide, by decide, rfl, hform, rfl⟩
  have hnext : NextServes twoServers Transport.scripted
      (Envelope.ofJson? (Wire.asList Operator.ofJson?)) (postEmpty "/operator") {}
      { answers := [some welcome, some noOperators], received := [form] }
      ⟨Envelope.successCode, none, some []⟩ :=
    ⟨by decide, by decide, second, welcome, "first", request, noOperators, _, _, hsecond, rfl,
      tokenOf_welcome second, hrequest, rfl, accept_noOperators request⟩
  have hsucceeds := hall _ _ _ _ _ _ _ _ _ _ _ hlogin hnext
  rw [hlogin.request_on] at hsucceeds
  cases hsucceeds

end Remote
end Whitelist
