import Mathlib.Data.Nat.Find
import Whitelist.Proofs.Remote.Agreement
import Whitelist.Proofs.Remote.Resending

/-!
# Tokens that have just been given

A client that needs a token logs in, keeps the token that it is given, and then asks itself for a
token that may be used. A token is not used in its last five minutes, so one that lasts no longer
than that is given and never used: the call fails after a login that has succeeded, and so does
every call after it.

## What is here

* `isOk_requestTo_iff`, `CanSend.first` — the first of the servers ahead that a request can be sent
  to with a token.
* `notes_request` — a client that has its token sends its request before anything else.
* `FreshLogin` — a call of a client that needs a token, and whose login succeeds, which takes a
  lifetime that fits the clock; `FreshLogin.request_on_of_lasts` and
  `FreshLogin.request_on_of_short` say how it goes on.
* `OnlyLogins` — a client without a token that has sent nothing but logins. Where tokens do not last
  it stays one over any run: `onlyLogins_afterSteps`.
* `fresh_token_sent` — the token of a login is sent exactly where it lasts and can be sent at all;
  `short_token_unsent` is a login that is of no use.

A lifetime is configured, and nothing in the program compares it with the margin of five minutes.
The three facts that decide are stated as they are in the code: `usableToken` wants more than
`tokenMargin` to be left, a login sets the lifetime as it is configured, and `ensureToken` asks
`usableToken` again after the login. From these the two cases follow, and each is carried to a whole
call and then to all later ones.
-/

set_option autoImplicit false
namespace Whitelist
namespace Client

variable {τ α : Type} {settings : ClientSettings} {transport : Transport τ} {client : ClientState}
  {ask : Ask} {token : Option String}

/-! ## Servers that a request can be sent to

Whether a request can be sent does not depend on the network, only on the address of the server and
on the token. `CanSend.first` finds the first of the servers ahead by `Nat.find`, since the client
will come to that one before all others. -/

/-- A server ahead is one of the servers. -/
theorem serverAhead_mem (hwithin : client.server < settings.servers.length) (ahead : Nat) :
    serverAhead settings client ahead ∈ settings.servers := by
  have hplace : (client.server + ahead) % settings.servers.length < settings.servers.length :=
    Nat.mod_lt _ (Nat.zero_lt_of_lt hwithin)
  rw [serverAhead, List.getD_eq_getElem?_getD, List.getElem?_eq_getElem hplace, Option.getD_some]
  exact List.getElem_mem hplace

/-- A token is no obstacle to a request if it fits into a header. -/
theorem isOk_requestTo_iff {server : String} :
    (requestTo settings ask token server).isOk = true
      ↔ isHeaderText token = true ∧ (prepared settings ask server).isOk = true := by
  constructor
  · intro hok
    have hheader : isHeaderText token = true := by
      by_contra hnot
      rw [isOk_requestTo (by simpa using hnot)] at hok
      cases hok
    obtain ⟨request, hrequest⟩ := exists_of_isOk hok
    have hnone : prepared settings ask server = .ok { request with token := none } :=
      requestTo_of_isHeaderText hrequest rfl
    exact ⟨hheader, by rw [hnone]; rfl⟩
  · rintro ⟨hheader, hok⟩
    obtain ⟨request, hrequest⟩ := exists_of_isOk hok
    rw [requestTo_of_isHeaderText hrequest hheader]
    rfl

/-- Of the servers ahead that the request can be sent to there is a first one. -/
theorem CanSend.first (h : CanSend settings ask)
    (hwithin : client.server < settings.servers.length) (hheader : isHeaderText token = true) :
    ∃ passed < settings.servers.length,
      (∀ ahead < passed,
        (requestTo settings ask token (serverAhead settings client ahead)).isOk = false)
      ∧ ∃ request,
        requestTo settings ask token (serverAhead settings client passed) = .ok request := by
  obtain ⟨ahead, hlt, hok⟩ := h.ahead hwithin
  have hsendable :
      (requestTo settings ask token (serverAhead settings client ahead)).isOk = true :=
    isOk_requestTo_iff.mpr ⟨hheader, hok⟩
  have hexists : ∃ ahead,
      (requestTo settings ask token (serverAhead settings client ahead)).isOk = true :=
    ⟨ahead, hsendable⟩
  refine ⟨Nat.find hexists, (Nat.find_min' hexists hsendable).trans_lt hlt,
    fun before hbefore => ?_, exists_of_isOk (Nat.find_spec hexists)⟩
  simpa using Nat.find_min hexists hbefore

/-! ## The request of a client that has its token

The servers before the first one that can be sent to leave no note. -/

/-- A client that has its token sends its request before anything else. -/
theorem notes_request (transport : Transport τ) (read : Json → Option α) (left : Nat)
    (lastError : Option HttpError) (network : τ) (log : List Sent) {request : Request}
    (hsteady : Steady settings client token) (hask : ask.body ≠ some (loginForm settings))
    (hprepare : Request.prepare ask.method (addressOn settings client ask.path) token ask.body
      = .ok request) :
    Notes (attempts settings transport.noted read ask (left + 1) lastError)
      ⟨client, (network, log)⟩
      fun entries => ∃ more,
        entries = ⟨request, ((transport.send request).run network).1⟩ :: more := by
  have hcourse := takesCourse transport read hask left
  have hon : (attempts settings transport.noted read ask (left + 1) lastError).on
      ⟨client, (network, log)⟩ = _ := attempts_on_succ
  rw [hsteady.ensureToken_on] at hon
  dsimp only at hon
  rw [exchange_noted_on, hprepare] at hon
  dsimp only at hon
  rcases hsent : (transport.send request).run network with ⟨_ | response, later⟩ <;>
    rw [hsent] at hon
  · exact (hcourse _ _).after [⟨request, none⟩] hon rfl fun entries _ => ⟨entries, rfl⟩
  · dsimp only [answered] at hon
    by_cases hrefused : response.status = 401 ∧ settings.logsIn = true
    · rw [if_pos hrefused] at hon
      rcases login_noted settings transport ⟨{ client with token := none },
        (later, log ++ [⟨request, some response⟩])⟩ with
        ⟨e, hlogin⟩ | ⟨login, after, -, ⟨e, hlogin⟩ | ⟨text, hlogin⟩⟩ <;> rw [hlogin] at hon
      · exact ⟨[⟨request, some response⟩], by rw [hon], [], rfl⟩
      · exact ⟨[⟨request, some response⟩, login], by simp [hon], [login], rfl⟩
      · exact (hcourse _ _).after [⟨request, some response⟩, login] hon (by simp)
          fun entries _ => ⟨login :: entries, rfl⟩
    · rw [if_neg hrefused] at hon
      exact ⟨[⟨request, some response⟩], by rw [hon], [], rfl⟩

/-! ## A login that brings a token

`FreshLogin` says that the login succeeds, in all its parts: that it can be sent, that it is
answered, that the answer gives a token, and that the end of the token is a time that the clock can
hold. -/

/-- The client needs a token, and the login on its server succeeds at this time: it brings a token
whose end fits the clock. -/
structure FreshLogin (settings : ClientSettings) (transport : Transport τ) (client : ClientState)
    (network : τ) (text : String) (form : Request) (grant : Response) (later : τ) (now : Nat) :
    Prop where
  logsIn : settings.username ≠ ""
  within : client.server < settings.servers.length
  noToken : usableToken client = none
  formed : loginTo settings (serverAhead settings client 0) = .ok form
  welcomed : (transport.send form).run network = (some grant, later)
  granted : tokenOf form grant = .ok text
  fits : settings.FitsClock now

/-- What a client remembers after a login. -/
def loggedIn (settings : ClientSettings) (client : ClientState) (text : String) : ClientState :=
  { client with token := some ⟨text, settings.tokenLifetime.toNat⟩ }

/-- A token that lasts is used by the call that has logged in for it. -/
theorem usableToken_loggedIn (hlasts : tokenMargin < settings.tokenLifetime.toNat) (text : String) :
    usableToken (loggedIn settings client text) = some text := by
  rw [loggedIn, usableToken_fresh, if_pos hlasts]

/-- A token that does not last is given and may not be used. -/
theorem usableToken_loggedIn_of_short (hshort : settings.tokenLifetime.toNat ≤ tokenMargin)
    (text : String) : usableToken (loggedIn settings client text) = none := by
  rw [loggedIn, usableToken_fresh, if_neg (Nat.not_lt.mpr hshort)]

namespace FreshLogin

variable {network later : τ} {text : String} {form : Request} {grant : Response}
  {now : Nat} {read : Json → Option α}

variable (h : FreshLogin settings transport client network text form grant later now)
include h

theorem logsIn_eq_true : settings.logsIn = true := by simp [ClientSettings.logsIn, h.logsIn]

/-- The login sets the token and leaves the client with its server. -/
theorem login_on (log : List Sent) : (login settings transport.noted).on ⟨client, (network, log)⟩
    = (.ok (), ⟨loggedIn settings client text, (later, log ++ [⟨form, some grant⟩])⟩) := by
  have hprepare : Request.prepare .post (addressOn settings client settings.loginPath) none
      (some (loginForm settings)) = .ok form := by
    rw [← h.formed, serverAhead_zero h.within]
    rfl
  exact Client.login_on hprepare (noted_send_run h.welcomed log) h.granted

/-- Where the token lasts, the call goes on like that of a client that has had it. -/
theorem request_on_of_lasts (hlasts : tokenMargin < settings.tokenLifetime.toNat) :
    (Client.request settings transport.noted read ask).on ⟨client, (network, [])⟩
      = (Client.request settings transport.noted read ask).on
        ⟨loggedIn settings client text, (later, [⟨form, some grant⟩])⟩ := by
  obtain ⟨others, hothers⟩ := Nat.exists_eq_succ_of_ne_zero (Nat.ne_zero_of_lt h.within)
  rw [Client.request, hothers]
  exact attempts_on_loggedIn h.logsIn_eq_true h.noToken (h.login_on [])
    (usableToken_loggedIn hlasts text) rfl

/-- Where the token does not last, the call fails as if the login had brought none. -/
theorem request_on_of_short (hshort : settings.tokenLifetime.toNat ≤ tokenMargin) :
    (Client.request settings transport.noted read ask).on ⟨client, (network, [])⟩
      = (.error Client.noToken,
        ⟨loggedIn settings client text, (later, [⟨form, some grant⟩])⟩) := by
  obtain ⟨others, hothers⟩ := Nat.exists_eq_succ_of_ne_zero (Nat.ne_zero_of_lt h.within)
  have hlogs : ¬ settings.logsIn = false := by simp [h.logsIn_eq_true]
  rw [Client.request, hothers, attempts_on_succ, ensureToken_on_eq, if_neg hlogs, h.noToken]
  dsimp only
  rw [h.login_on [], List.nil_append]
  dsimp only
  rw [usableToken_loggedIn_of_short hshort]

/-- With a token that lasts the client is as one that has had it. -/
theorem steady (hlasts : tokenMargin < settings.tokenLifetime.toNat) :
    Steady settings (loggedIn settings client text) (some text) :=
  ⟨h.logsIn_eq_true, usableToken_loggedIn hlasts text⟩

/-- With a token that lasts and that fits into a header, the request is sent to a server that it can
be sent to. -/
theorem sent_of_lasts (hlasts : tokenMargin < settings.tokenLifetime.toNat) (read : Json → Option α)
    (hask : ask.body ≠ some (loginForm settings)) (hheader : isHeaderText (some text) = true)
    (hcan : CanSend settings ask) :
    ∃ server ∈ settings.servers, ∃ request more,
      requestTo settings ask (some text) server = .ok request
        ∧ Remote.sentBy settings transport read ask client network
          = ⟨form, some grant⟩ :: ⟨request, ((transport.send request).run later).1⟩ :: more := by
  have hsteady := h.steady hlasts
  obtain ⟨passed, hpassed, hbefore, request, hrequest⟩ := hcan.first h.within hheader
  have hmoved : Steady settings (movedOn settings (loggedIn settings client text) passed)
      (some text) := hsteady
  obtain ⟨left, hleft⟩ : ∃ left, settings.servers.length = left + 1 + passed :=
    ⟨settings.servers.length - passed - 1, by omega⟩
  obtain ⟨entries, hnoted, more, rfl⟩ := notes_request transport read left
    (((serversAhead settings (loggedIn settings client text) passed).getLast?.map
      (silence settings ask (some text))).or none) later [⟨form, some grant⟩] hmoved hask hrequest
  refine ⟨serverAhead settings client passed, serverAhead_mem h.within passed, request, more,
    hrequest, ?_⟩
  rw [Remote.sentBy, h.request_on_of_lasts hlasts, Client.request, hleft,
    attempts_on_unsendable _ hsteady h.within hbefore, hnoted]
  rfl

/-- With a token that does not fit into a header, or without a server that the request can be sent
to, nothing is sent after the login. -/
theorem unsent_of_lasts (hlasts : tokenMargin < settings.tokenLifetime.toNat)
    (read : Json → Option α) (hnot : ¬ (isHeaderText (some text) = true ∧ CanSend settings ask)) :
    ∃ e client', (Client.request settings transport.noted read ask).on ⟨client, (network, [])⟩
      = (.error e, ⟨client', (later, [⟨form, some grant⟩])⟩) := by
  have hunsendable (ahead : Nat) : (requestTo settings ask (some text)
      (serverAhead settings (loggedIn settings client text) ahead)).isOk = false := by
    by_contra hok
    obtain ⟨hheader, hprepared⟩ := isOk_requestTo_iff.mp (by simpa using hok)
    exact hnot ⟨hheader, _, serverAhead_mem h.within ahead, hprepared⟩
  have hon : (attempts settings transport.noted read ask (0 + settings.servers.length) none).on
      ⟨loggedIn settings client text, (later, [⟨form, some grant⟩])⟩ = _ :=
    attempts_on_unsendable 0 (h.steady hlasts) h.within fun ahead _ => hunsendable ahead
  rw [Nat.zero_add, attempts_on_zero] at hon
  exact ⟨_, _, (h.request_on_of_lasts hlasts).trans hon⟩

end FreshLogin

/-! ## Tokens that do not last

The invariant is about the log: it has logins in it and nothing else. It holds on whatever the
network answers to those logins, since a token that does not last is not used however often it is
given. -/

/-- A client without a token that has sent nothing but logins. -/
structure OnlyLogins (settings : ClientSettings) (link : Link (τ × List Sent)) : Prop where
  noToken : usableToken link.client = none
  sent : ∀ sent ∈ link.network.2, IsLogin settings sent

namespace OnlyLogins

variable {link : Link (τ × List Sent)}

/-- One more login is no harm. -/
theorem append (h : OnlyLogins settings link) {sent : Sent} (hsent : IsLogin settings sent)
    {client : ClientState} (hclient : usableToken client = none) (network : τ) :
    OnlyLogins settings ⟨client, (network, link.network.2 ++ [sent])⟩ where
  noToken := hclient
  sent := List.forall_mem_append.mpr ⟨h.sent, List.forall_mem_singleton.mpr hsent⟩

/-- Where tokens do not last, a client that has none gets none, however its logins end. -/
theorem ensureToken_on (h : OnlyLogins settings link) (transport : Transport τ)
    (hlogs : settings.logsIn = true) (hshort : settings.tokenLifetime.toNat ≤ tokenMargin) :
    ∃ e later, OnlyLogins settings later
      ∧ (ensureToken settings transport.noted).on link = (.error e, later) := by
  have hon : (ensureToken settings transport.noted).on link = _ := ensureToken_on_eq
  rw [if_neg (by simp [hlogs]), h.noToken] at hon
  dsimp only at hon
  rcases login_noted settings transport link with
    ⟨e, hlogin⟩ | ⟨login, network, hform, ⟨e, hlogin⟩ | ⟨text, hlogin⟩⟩ <;> rw [hlogin] at hon
  · exact ⟨e, link, h, hon⟩
  · exact ⟨e, _, h.append hform h.noToken network, hon⟩
  · have hunusable : usableToken (loggedIn settings link.client text) = none :=
      usableToken_loggedIn_of_short hshort text
    dsimp only at hon
    rw [← loggedIn, hunusable] at hon
    exact ⟨Client.noToken, _, h.append hform hunusable network, hon⟩

/-- So it fails with whatever it is asked for. -/
theorem request_on (h : OnlyLogins settings link) (transport : Transport τ)
    (hlogs : settings.logsIn = true) (hshort : settings.tokenLifetime.toNat ≤ tokenMargin) :
    ∃ e later, OnlyLogins settings later ∧ ∀ {α : Type} (read : Json → Option α) (ask : Ask),
      (Client.request settings transport.noted read ask).on link = (.error e, later) := by
  rcases hcount : settings.servers.length with _ | others
  · refine ⟨allFailed, link, h, fun read ask => ?_⟩
    rw [Client.request, hcount, attempts_on_zero]
    rfl
  · obtain ⟨e, later, hlater, htoken⟩ := h.ensureToken_on transport hlogs hshort
    refine ⟨e, later, hlater, fun read ask => ?_⟩
    rw [Client.request, hcount, attempts_on_succ, htoken]

end OnlyLogins
end Client

namespace Remote

open Client

variable {τ α : Type} {settings : ClientSettings} {transport : Transport τ}

section

variable {link : Link (τ × List Sent)} (h : OnlyLogins settings link)
  (hlogs : settings.logsIn = true) (hshort : settings.tokenLifetime.toNat ≤ tokenMargin)
include h hlogs hshort

/-- Such a client fails with every call of a store. -/
theorem answer_on_of_onlyLogins (transport : Transport τ) (call : StoreCall) :
    ∃ fault later, OnlyLogins settings later
      ∧ ((store settings transport.noted).answer call).on link = (.error fault, later) := by
  obtain ⟨e, later, hlater, hon⟩ := h.request_on transport hlogs hshort
  exact ⟨e.fault, later, hlater,
    answer_on_error (fun endpoint => hon (Envelope.ofJson? endpoint.read) endpoint.ask) call⟩

/-- Neither calls nor time make such a client send anything else. -/
theorem onlyLogins_afterSteps (transport : Transport τ) (steps : List ClientStep) :
    OnlyLogins settings (afterSteps settings transport link steps) := by
  refine afterSteps_keeps (fun step link hlink => ?_) h steps
  cases step with
  | call storeCall =>
    obtain ⟨fault, later, hlater, hon⟩ :=
      answer_on_of_onlyLogins hlink hlogs hshort transport storeCall
    show OnlyLogins settings (((store settings transport.noted).answer storeCall).on link).2
    rw [hon]
    exact hlater
  | elapse seconds => exact ⟨usableToken_elapse hlink.noToken seconds, hlink.sent⟩

end

/-- **The token of a login is sent exactly where it lasts longer than five minutes**, fits into a
header, and there is a server that the request can be sent to. Otherwise the call fails with nothing
sent after the login. Where tokens do not last, so does every call later on, however often the
client is given a token. A token whose end lies beyond the clock is none that a login has succeeded
with, so `FreshLogin` bounds the lifetime by `ClientSettings.FitsClock`. -/
theorem fresh_token_sent (settings : ClientSettings) (transport : Transport τ) (call : StoreCall)
    (read : Json → Option α) (client : ClientState) (network later : τ) (text : String)
    (form : Request) (grant : Response) (now : Nat)
    (h : FreshLogin settings transport client network text form grant later now) :
    ∃ outcome client' last rest,
      (Client.request settings transport.noted read (askOf call)).on ⟨client, (network, [])⟩
          = (outcome, ⟨client', (last, ⟨form, some grant⟩ :: rest)⟩)
        ∧ (tokenMargin < settings.tokenLifetime.toNat ∧ isHeaderText (some text) = true
              ∧ CanSend settings (askOf call) →
            ∃ server ∈ settings.servers, ∃ request more,
              requestTo settings (askOf call) (some text) server = .ok request
                ∧ request.token = some text
                ∧ rest = ⟨request, ((transport.send request).run later).1⟩ :: more)
        ∧ (¬ (tokenMargin < settings.tokenLifetime.toNat ∧ isHeaderText (some text) = true
              ∧ CanSend settings (askOf call)) →
            rest = [] ∧ ∃ e, outcome = .error e)
        ∧ (settings.tokenLifetime.toNat ≤ tokenMargin → outcome = .error noToken
            ∧ ∀ (steps : List ClientStep) (again : StoreCall),
              let link := afterSteps settings transport ⟨client, (network, [])⟩ steps
              (∀ sent ∈ link.network.2, IsLogin settings sent)
                ∧ ∃ fault, (((store settings transport.noted).answer again).on link).1
                  = .error fault) := by
  rcases Nat.lt_or_ge tokenMargin settings.tokenLifetime.toNat with hlasts | hshort
  · by_cases hsendable : isHeaderText (some text) = true ∧ CanSend settings (askOf call)
    · obtain ⟨server, hserver, request, more, hrequest, hlog⟩ :=
        h.sent_of_lasts hlasts read (body_askOf_ne settings call) hsendable.1 hsendable.2
      obtain ⟨-, htoken, -⟩ := prepare_eq_ok hrequest
      rcases hon : (Client.request settings transport.noted read (askOf call)).on
        ⟨client, (network, [])⟩ with ⟨outcome, client', last, log⟩
      rw [sentBy, hon] at hlog
      obtain rfl : log = _ := hlog
      exact ⟨outcome, client', last, _, rfl,
        fun _ => ⟨server, hserver, request, more, hrequest, htoken, rfl⟩,
        fun hnot => absurd ⟨hlasts, hsendable⟩ hnot,
        fun hshort => absurd hlasts (Nat.not_lt.mpr hshort)⟩
    · obtain ⟨e, client', hon⟩ := h.unsent_of_lasts hlasts read hsendable
      exact ⟨_, _, _, [], hon, fun hall => absurd hall.2 hsendable, fun _ => ⟨rfl, e, rfl⟩,
        fun hshort => absurd hlasts (Nat.not_lt.mpr hshort)⟩
  · have hnot : ¬ tokenMargin < settings.tokenLifetime.toNat := Nat.not_lt.mpr hshort
    refine ⟨_, _, _, [], h.request_on_of_short hshort, fun hall => absurd hall.1 hnot,
      fun _ => ⟨rfl, _, rfl⟩, fun _ => ⟨rfl, fun steps again => ?_⟩⟩
    have hstart : OnlyLogins settings ⟨client, (network, [])⟩ := ⟨h.noToken, nofun⟩
    have hrun := onlyLogins_afterSteps hstart h.logsIn_eq_true hshort transport steps
    obtain ⟨fault, last, -, hon⟩ :=
      answer_on_of_onlyLogins hrun h.logsIn_eq_true hshort transport again
    exact ⟨hrun.sent, fault, by rw [hon]⟩

/-- As long as the end of its token fits the clock, the login of this client brings one. -/
theorem freshLogin_asUser (lifetime : UInt64) {now : Nat}
    (hfits : { asUser with tokenLifetime := lifetime }.FitsClock now) : ∃ form,
    FreshLogin { asUser with tokenLifetime := lifetime } Transport.scripted {}
      { answers := [some welcome, some noOperators] } "first" form welcome
      { answers := [some noOperators], received := [form] } now := by
  have hlogs : asUser.username ≠ "" := by decide
  have hwithin : 0 < asUser.servers.length := by decide
  have hok : (loginTo asUser (serverAhead asUser {} 0)).isOk = true := by decide +kernel
  obtain ⟨form, hform⟩ := exists_of_isOk hok
  exact ⟨form, hlogs, hwithin, rfl, hform, rfl, tokenOf_welcome form, hfits⟩

theorem canSend_asUser (lifetime : UInt64) :
    CanSend { asUser with tokenLifetime := lifetime } (askOf .operators) := by
  have hcan : CanSend asUser (askOf .operators) := by decide +kernel
  exact hcan

/-- With a token that lasts for five hours, the request is sent after a login in the second hour. -/
theorem fresh_token_sent_default : ∃ form, ∃ later : Transport.Script,
    FreshLogin asUser Transport.scripted {} { answers := [some welcome, some noOperators] }
        "first" form welcome later 3600
      ∧ ∃ outcome client' last request more,
        (Client.request asUser Transport.scripted.noted
            (Envelope.ofJson? (Wire.asList Operator.ofJson?)) (askOf .operators)).on
            ⟨{}, ({ answers := [some welcome, some noOperators] }, [])⟩
          = (outcome,
            ⟨client', (last, ⟨form, some welcome⟩ :: ⟨request, some noOperators⟩ :: more)⟩)
        ∧ request.token = some "first" := by
  have hfits : { asUser with tokenLifetime := 18000 }.FitsClock 3600 := by decide
  obtain ⟨form, hfresh⟩ := freshLogin_asUser 18000 hfits
  obtain ⟨outcome, client', last, rest, hon, hsent, -⟩ := fresh_token_sent asUser
    Transport.scripted .operators (Envelope.ofJson? (Wire.asList Operator.ofJson?)) _ _ _ _ _ _ _
    hfresh
  obtain ⟨server, -, request, more, -, htoken, rfl⟩ :=
    hsent ⟨by decide, by decide, canSend_asUser 18000⟩
  exact ⟨form, _, hfresh, outcome, client', last, request, more, hon, htoken⟩

/-- That a login succeeds is not enough for the request to be sent. -/
theorem short_token_unsent :
    ¬ ∀ (settings : ClientSettings) (σ β : Type) (transport : Transport σ) (call : StoreCall)
      (read : Json → Option β) (client : ClientState) (network later : σ) (text : String)
      (form : Request) (grant : Response) (now : Nat),
      FreshLogin settings transport client network text form grant later now →
      isHeaderText (some text) = true → CanSend settings (askOf call) →
      ∃ sent ∈ sentBy settings transport read (askOf call) client network,
        ¬ IsLogin settings sent ∧ sent.request.token = some text := by
  intro hall
  have hfits : { asUser with tokenLifetime := 300 }.FitsClock 3600 := by decide
  obtain ⟨form, hfresh⟩ := freshLogin_asUser 300 hfits
  obtain ⟨sent, hsent, hnot, -⟩ := hall _ _ _ _ _
    (Envelope.ofJson? (Wire.asList Operator.ofJson?)) _ _ _ _ _ _ _ hfresh (by decide)
    (canSend_asUser 300)
  rw [sentBy, hfresh.request_on_of_short (by decide)] at hsent
  obtain rfl := List.mem_singleton.mp hsent
  obtain ⟨-, -, hlogin⟩ := prepare_eq_ok hfresh.formed
  exact hnot hlogin

end Remote
end Whitelist
