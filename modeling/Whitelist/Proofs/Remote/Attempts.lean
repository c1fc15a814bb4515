import Whitelist.Proofs.Remote.Session

/-!
# A call, attempt by attempt

A call is tried on one server after another until one of them answers. This file says how a client
that has its token goes around the list of its servers, over a network that notes what is sent.

## What is here

* `exchange_noted_on` — what comes of one request, and what is noted of it.
* `requestTo`, `loginTo`, `serverAhead`, `silence` — what is sent to a server, the servers from the
  one that the client is with onwards, and the error of a server that does not answer.
* `requestTo_of_isHeaderText`, `isOk_requestTo` — the same request with another token.
* `Steady` — a client has the token that it needs, so that it sends nothing but the request.
* `attempts_in_turn` — such a client passes over servers in turn until one answers.

A client has a list of servers and the index of the one it is with. After silence it goes on to the
next, and from the last to the first. The servers of a call are therefore counted from where the
client is (`serverAhead`), not from the start of the list, and so are the attempts. `movedOn` is the
state of the client after so many steps, and all statements on failover are in terms of these two.

The lemmas of the last section suppose that the client need not log in on the way (`Steady`). Calls
with a login in them are reduced to such calls before and after it.
-/

set_option autoImplicit false
namespace Whitelist
namespace Client

variable {τ α : Type} {settings : ClientSettings} {transport : Transport τ} {link later : Link τ}

/-! ## One request

The log is part of the network, and a note is made after the answer has come, so that the network
itself does not know of it. -/

/-- What a network answers, and where it is afterwards, does not depend on whether that is noted. -/
theorem noted_send_run {request : Request} {network after : τ} {answer : Option Response}
    (h : (transport.send request).run network = (answer, after)) (log : List Sent) :
    (transport.noted.send request).run (network, log)
      = (answer, (after, log ++ [⟨request, answer⟩])) := by
  show (((transport.send request).run network).1, (((transport.send request).run network).2,
    log ++ [⟨request, ((transport.send request).run network).1⟩])) = _
  rw [h]

/-- A request over a network that notes it. -/
theorem exchange_noted_on (method : Method) (address : String) (token : Option String)
    (body : Option Json) (client : ClientState) (network : τ) (log : List Sent) :
    (exchange transport.noted method address token body).run ⟨client, (network, log)⟩
      = match Request.prepare method address token body with
        | .error e => (.error e, ⟨client, (network, log)⟩)
        | .ok request =>
          let sent := (transport.send request).run network
          (answered request sent.1, ⟨client, (sent.2, log ++ [⟨request, sent.1⟩])⟩) := by
  rw [exchange_on]
  rfl

/-! ## Servers in turn

The index is kept below the length of the list by taking remainders, which is where `Nat.mod` comes
from in these equations. -/

variable (settings) in
/-- The server that a client comes to after so many others. -/
def serverAhead (client : ClientState) (ahead : Nat) : String :=
  settings.servers.getD ((client.server + ahead) % settings.servers.length) ""

variable (settings) in
/-- The servers that a client tries one after another, from the one that it is with. -/
def serversAhead (client : ClientState) (count : Nat) : List String :=
  (List.range count).map (serverAhead settings client)

variable (settings) in
/-- What a client remembers after going on by so many servers. -/
def movedOn (client : ClientState) (count : Nat) : ClientState :=
  { client with server := (client.server + count) % settings.servers.length }

section

variable (settings) (ask : Ask) (token : Option String)

/-- What is sent to a server, if it can be. -/
def requestTo (server : String) : Except HttpError Request :=
  Request.prepare ask.method (address server settings.contextPath ask.path) token ask.body

/-- The login on a server. -/
def loginTo (server : String) : Except HttpError Request :=
  Request.prepare .post (address server settings.contextPath settings.loginPath) none
    (some (loginForm settings))

/-- The error of a server that does not answer, or that nothing can be sent to. -/
def silence (server : String) : HttpError :=
  match requestTo settings ask token server with
  | .ok request => .unanswered request.url
  | .error e => e

/-- What is noted of a server that does not answer; nothing, where nothing can be sent to it. -/
def lostOn (server : String) : Option Sent :=
  (requestTo settings ask token server).toOption.map fun request => ⟨request, none⟩

/-- What is noted of so many servers that do not answer. -/
def lost (client : ClientState) (passed : Nat) : List Sent :=
  (serversAhead settings client passed).filterMap (lostOn settings ask token)

end

variable {client : ClientState} {ask : Ask} {token : Option String} {read : Json → Option α}

/-- Going on by one server brings each server ahead one step nearer. -/
theorem serverAhead_nextServer (client : ClientState) (ahead : Nat) :
    serverAhead settings (nextServer settings client) ahead
      = serverAhead settings client (ahead + 1) := by
  rw [serverAhead, nextServer, Nat.mod_add_mod, Nat.add_assoc, Nat.add_comm 1, serverAhead]

/-- The servers ahead of a client are its own and those ahead of the next. -/
theorem serversAhead_succ (client : ClientState) (count : Nat) :
    serversAhead settings client (count + 1)
      = serverAhead settings client 0
        :: serversAhead settings (nextServer settings client) count := by
  rw [serversAhead, List.range_succ_eq_map, List.map_cons, List.map_map, serversAhead]
  exact congrArg _ (List.map_congr_left fun ahead _ => (serverAhead_nextServer client ahead).symm)

/-- A client that has not gone on is where it was, if it was with one of its servers. -/
theorem movedOn_zero (hserver : client.server < settings.servers.length) :
    movedOn settings client 0 = client := by
  rw [movedOn, Nat.add_zero, Nat.mod_eq_of_lt hserver]

/-- Going on by one, and then by some more. -/
theorem movedOn_nextServer (client : ClientState) (count : Nat) :
    movedOn settings (nextServer settings client) count = movedOn settings client (count + 1) := by
  rw [movedOn, nextServer, Nat.mod_add_mod, Nat.add_assoc, Nat.add_comm 1, movedOn]

/-- All around the list a client is back at its server. -/
theorem movedOn_length (hserver : client.server < settings.servers.length) :
    movedOn settings client settings.servers.length = client := by
  rw [movedOn, Nat.add_mod_right, Nat.mod_eq_of_lt hserver]

/-- No server ahead is the server that the client is with. -/
theorem serverAhead_zero (hserver : client.server < settings.servers.length) :
    serverAhead settings client 0 = settings.servers.getD client.server "" := by
  rw [serverAhead, Nat.add_zero, Nat.mod_eq_of_lt hserver]

/-- What is noted of the first of the servers comes first. -/
theorem lost_succ (client : ClientState) (passed : Nat) :
    lost settings ask token client (passed + 1)
      = (lostOn settings ask token (serverAhead settings client 0)).toList
        ++ lost settings ask token (nextServer settings client) passed := by
  rw [lost, serversAhead_succ, List.filterMap_cons]
  cases lostOn settings ask token (serverAhead settings client 0) <;> rfl

/-! ## Requests with another token

The token goes into a header and takes no part in the address or in the body. So the same request
can be prepared with any token that a header has room for. -/

/-- What can be sent can be sent with any token that fits into a header. -/
theorem requestTo_of_isHeaderText {token other : Option String} {server : String}
    {request : Request} (h : requestTo settings ask token server = .ok request)
    (hother : isHeaderText other = true) :
    requestTo settings ask other server = .ok { request with token := other } := by
  rw [requestTo, Request.prepare] at h ⊢
  cases hurl : Url.ofText? (address server settings.contextPath ask.path) with
  | none =>
    rw [hurl] at h
    cases h
  | some url =>
    rw [hurl] at h
    dsimp only at h ⊢
    split at h
    · cases h
    · rename_i hhost
      split at h
      · cases h
      · split at h
        · cases h
        · rename_i hweb
          cases h
          rw [if_neg hhost, if_neg (by simp [hother]), if_neg hweb]

/-- Nothing can be sent with a token that does not fit into a header. -/
theorem isOk_requestTo {token : Option String} (htoken : isHeaderText token = false)
    (server : String) : (requestTo settings ask token server).isOk = false := by
  rw [requestTo, Request.prepare]
  cases Url.ofText? (address server settings.contextPath ask.path) with
  | none => rfl
  | some url =>
    dsimp only
    split
    · rfl
    · rw [if_pos (by simp [htoken])]
      rfl

/-! ## Clients that have their token

`PassesOver` is the shape of the loop's outcome: some servers that were silent, and then one that
was not, or no attempt left. It is proved by induction on the attempts, with one silent server in
each step (`PassesOver.succ`). -/

/-- A token that may not be used may not be used later. -/
theorem usableToken_elapse {client : ClientState} (h : usableToken client = none) (seconds : Nat) :
    usableToken (client.elapse seconds) = none := by
  obtain ⟨server, _ | token⟩ := client
  · rfl
  · have husable : token.isUsable = false := by simpa [usableToken] using h
    have hlate : token.secondsLeft ≤ tokenMargin := by simpa [Token.isUsable] using husable
    have hlater : token.secondsLeft - seconds ≤ tokenMargin := (Nat.sub_le ..).trans hlate
    simpa [usableToken, ClientState.elapse, Token.isUsable] using hlater

variable (settings) in
/-- The client has the token that its requests need: none where it does not log in, and otherwise
one that may be used. -/
def Steady (client : ClientState) : Option String → Prop
  | none => settings.logsIn = false
  | some text => settings.logsIn = true ∧ usableToken client = some text

/-- A client that has its token does not ask for one. -/
theorem Steady.ensureToken_on (h : Steady settings link.client token) :
    (ensureToken settings transport).on link = (.ok token, link) := by
  rw [ensureToken_on_eq]
  cases token with
  | none => exact if_pos h
  | some text =>
    obtain ⟨hlogs, husable⟩ := h
    rw [if_neg (by simp [hlogs]), husable]

/-- Which server the client is with makes no difference for its token. -/
theorem Steady.nextServer (h : Steady settings client token) :
    Steady settings (nextServer settings client) token := by
  cases token <;> exact h

/-- A server that does not answer is passed over. -/
theorem attempts_on_silent {left : Nat} {lastError : Option HttpError} {network between : τ}
    {log : List Sent} (hsteady : Steady settings client token)
    (hserver : client.server < settings.servers.length)
    (hsilent : ∀ request,
      requestTo settings ask token (serverAhead settings client 0) = .ok request →
      (transport.send request).run network = (none, between))
    (hunsent : ∀ e, requestTo settings ask token (serverAhead settings client 0) = .error e →
      between = network) :
    (attempts settings transport.noted read ask (left + 1) lastError).on ⟨client, (network, log)⟩
      = (attempts settings transport.noted read ask left
          (some (silence settings ask token (serverAhead settings client 0)))).on
        ⟨nextServer settings client, (between,
          log ++ (lostOn settings ask token (serverAhead settings client 0)).toList)⟩ := by
  have hprepare : Request.prepare ask.method (addressOn settings client ask.path) token ask.body
      = requestTo settings ask token (serverAhead settings client 0) := by
    rw [serverAhead_zero hserver]
    rfl
  rw [attempts_on_succ, Steady.ensureToken_on hsteady]
  dsimp only
  rw [exchange_noted_on, hprepare, silence, lostOn]
  cases hrequest : requestTo settings ask token (serverAhead settings client 0) with
  | error e =>
    rw [hunsent e hrequest]
    simp [Except.toOption]
  | ok request =>
    dsimp only
    rw [hsilent request hrequest]
    rfl

/-- Servers that nothing can be sent to are passed over, and nothing is noted of them. -/
theorem attempts_on_unsendable {passed : Nat} (left : Nat) {lastError : Option HttpError}
    {network : τ} {log : List Sent} (hsteady : Steady settings client token)
    (hserver : client.server < settings.servers.length)
    (hunsendable : ∀ ahead < passed,
      (requestTo settings ask token (serverAhead settings client ahead)).isOk = false) :
    (attempts settings transport.noted read ask (left + passed) lastError).on
        ⟨client, (network, log)⟩
      = (attempts settings transport.noted read ask left
          (((serversAhead settings client passed).getLast?.map
            (silence settings ask token)).or lastError)).on
        ⟨movedOn settings client passed, (network, log)⟩ := by
  induction passed generalizing client lastError with
  | zero => simp [movedOn_zero hserver, serversAhead]
  | succ passed ih =>
    have hnext : (nextServer settings client).server < settings.servers.length :=
      Nat.mod_lt _ (Nat.zero_lt_of_lt hserver)
    obtain ⟨e, he⟩ :
        ∃ e, requestTo settings ask token (serverAhead settings client 0) = .error e := by
      have hfirst := hunsendable 0 (Nat.zero_lt_succ passed)
      cases hrequest : requestTo settings ask token (serverAhead settings client 0) with
      | error e => exact ⟨e, rfl⟩
      | ok request =>
        rw [hrequest] at hfirst
        cases hfirst
    have hbehind (ahead : Nat) (hahead : ahead < passed) :
        (requestTo settings ask token
          (serverAhead settings (nextServer settings client) ahead)).isOk = false := by
      rw [serverAhead_nextServer]
      exact hunsendable (ahead + 1) (Nat.succ_lt_succ hahead)
    rw [← Nat.add_assoc, attempts_on_silent hsteady hserver (by rw [he]; exact nofun)
      (fun _ _ => rfl), lostOn, he]
    show (attempts _ _ _ _ _ _).on ⟨_, (network, log ++ [])⟩ = _
    rw [List.append_nil, ih hsteady.nextServer hnext hbehind, movedOn_nextServer, serversAhead_succ,
      List.getLast?_cons]
    cases (serversAhead settings (nextServer settings client) passed).getLast? <;> rfl

variable (settings) in
/-- With so many attempts left, the client passes over so many servers that do not answer, and the
next one answers if there is an attempt left for it. -/
structure PassesOver (transport : Transport τ) (read : Json → Option α) (ask : Ask)
    (token : Option String) (client : ClientState) (network : τ) (log : List Sent) (left : Nat)
    (lastError : Option HttpError) (passed : Nat) (later : τ) : Prop where
  passed_le : passed ≤ left
  on : (attempts settings transport.noted read ask left lastError).on ⟨client, (network, log)⟩
    = (attempts settings transport.noted read ask (left - passed)
        (((serversAhead settings client passed).getLast?.map
          (silence settings ask token)).or lastError)).on
      ⟨movedOn settings client passed, (later, log ++ lost settings ask token client passed)⟩
  next_answers : passed < left → ∃ request response last,
    requestTo settings ask token (serverAhead settings client passed) = .ok request
      ∧ (transport.send request).run later = (some response, last)

/-- One server that does not answer before so many others. -/
theorem PassesOver.succ {left passed : Nat} {lastError : Option HttpError}
    {network between later : τ} {log : List Sent} (hsteady : Steady settings client token)
    (hserver : client.server < settings.servers.length)
    (hsilent : ∀ request,
      requestTo settings ask token (serverAhead settings client 0) = .ok request →
      (transport.send request).run network = (none, between))
    (hunsent : ∀ e, requestTo settings ask token (serverAhead settings client 0) = .error e →
      between = network)
    (h : PassesOver settings transport read ask token (nextServer settings client) between
      (log ++ (lostOn settings ask token (serverAhead settings client 0)).toList) left
      (some (silence settings ask token (serverAhead settings client 0))) passed later) :
    PassesOver settings transport read ask token client network log (left + 1) lastError
      (passed + 1) later where
  passed_le := Nat.succ_le_succ h.passed_le
  on := by
    rw [attempts_on_silent hsteady hserver hsilent hunsent, h.on, movedOn_nextServer, lost_succ,
      List.append_assoc, Nat.add_sub_add_right, serversAhead_succ, List.getLast?_cons]
    cases (serversAhead settings (nextServer settings client) passed).getLast? <;> rfl
  next_answers hlt := by
    rw [← serverAhead_nextServer]
    exact h.next_answers (Nat.lt_of_succ_lt_succ hlt)

/-- **A client that has its token goes from server to server until one answers**, or until it has no
attempt left. -/
theorem attempts_in_turn (transport : Transport τ) (read : Json → Option α) (ask : Ask)
    (hsteady : Steady settings client token) (hserver : client.server < settings.servers.length)
    (network : τ) (log : List Sent) (left : Nat) (lastError : Option HttpError) : ∃ passed later,
      PassesOver settings transport read ask token client network log left lastError passed
        later := by
  have stays {client : ClientState} (hserver : client.server < settings.servers.length)
      (network : τ) (log : List Sent) (left : Nat) (lastError : Option HttpError)
      (hanswered : 0 < left → ∃ request response last,
        requestTo settings ask token (serverAhead settings client 0) = .ok request
          ∧ (transport.send request).run network = (some response, last)) :
      PassesOver settings transport read ask token client network log left lastError 0 network :=
    ⟨Nat.zero_le left, by simp [movedOn_zero hserver, lost, serversAhead], hanswered⟩
  induction left generalizing client lastError network log with
  | zero => exact ⟨0, network, stays hserver _ _ _ _ fun h => absurd h (Nat.lt_irrefl 0)⟩
  | succ left ih =>
    -- One server further on, the client is where it was, with one attempt less.
    have hnext : (nextServer settings client).server < settings.servers.length :=
      Nat.mod_lt _ (Nat.zero_lt_of_lt hserver)
    cases hrequest : requestTo settings ask token (serverAhead settings client 0) with
    | error e =>
      obtain ⟨passed, later, hpasses⟩ := ih hsteady.nextServer hnext network _ _
      refine ⟨passed + 1, later, hpasses.succ hsteady hserver ?_ fun _ _ => rfl⟩
      rw [hrequest]
      exact nofun
    | ok request =>
      rcases hsent : (transport.send request).run network with ⟨_ | response, last⟩
      · obtain ⟨passed, later, hpasses⟩ := ih hsteady.nextServer hnext last _ _
        refine ⟨passed + 1, later, hpasses.succ hsteady hserver ?_ ?_⟩
        · intro sent hsame
          cases hrequest.symm.trans hsame
          exact hsent
        · rw [hrequest]
          exact nofun
      · exact ⟨0, network, stays hserver _ _ _ _ fun _ =>
          ⟨request, response, last, hrequest, hsent⟩⟩

/-- The server that answers settles the call, unless the client can log in again for it. -/
theorem PassesOver.on_answered {left passed : Nat} {lastError : Option HttpError}
    {network later : τ} {log : List Sent} (hsteady : Steady settings client token)
    (h : PassesOver settings transport read ask token client network log left lastError passed
      later)
    (hlt : passed < left) : ∃ request response last,
      requestTo settings ask token (serverAhead settings client passed) = .ok request
        ∧ (transport.send request).run later = (some response, last)
        ∧ (attempts settings transport.noted read ask left lastError).on ⟨client, (network, log)⟩
          = if response.status = 401 ∧ settings.logsIn = true then
              match (login settings transport.noted).on
                  ⟨{ movedOn settings client passed with token := none }, (last,
                    log ++ lost settings ask token client passed
                      ++ [⟨request, some response⟩])⟩ with
              | (.error e, last) => (.error e, last)
              | (.ok (), last) => (attempts settings transport.noted read ask (left - passed - 1)
                  (((serversAhead settings client passed).getLast?.map
                    (silence settings ask token)).or lastError)).on last
            else (accept read request response, ⟨movedOn settings client passed, (last,
              log ++ lost settings ask token client passed ++ [⟨request, some response⟩])⟩) := by
  obtain ⟨request, response, last, hrequest, hsent⟩ := h.next_answers hlt
  have hmoved : Steady settings (movedOn settings client passed) token := by
    cases token <;> exact hsteady
  have hprepare : Request.prepare ask.method
      (addressOn settings (movedOn settings client passed) ask.path) token ask.body = .ok request :=
    hrequest
  refine ⟨request, response, last, hrequest, hsent, ?_⟩
  obtain ⟨more, hmore⟩ : ∃ more, left - passed = more + 1 :=
    Nat.exists_eq_succ_of_ne_zero (Nat.sub_ne_zero_of_lt hlt)
  rw [h.on, hmore, attempts_on_succ, Steady.ensureToken_on hmoved]
  dsimp only
  rw [exchange_noted_on, hprepare]
  dsimp only
  rw [hsent, Nat.add_sub_cancel]
  dsimp only [answered]
  split
  · rcases (login settings transport.noted).on _ with ⟨_ | _, _⟩ <;> rfl
  · rfl

/-- Where no server answers in time, the call fails with the last silence. -/
theorem PassesOver.on_exhausted {left : Nat} {lastError : Option HttpError} {network later : τ}
    {log : List Sent}
    (h : PassesOver settings transport read ask token client network log left lastError left
      later) :
    (attempts settings transport.noted read ask left lastError).on ⟨client, (network, log)⟩
      = (.error (((((serversAhead settings client left).getLast?.map
            (silence settings ask token)).or lastError).map .http).getD allFailed),
        ⟨movedOn settings client left, (later, log ++ lost settings ask token client left)⟩) := by
  rw [h.on, Nat.sub_self, attempts_on_zero]

end Client
end Whitelist
