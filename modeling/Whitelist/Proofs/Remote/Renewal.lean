import Whitelist.Proofs.Remote.Attempts

/-!
# Requests after a refusal

A client whose token a server turns down logs in again, and sends the request again with the new
token. But the request that was turned down has used up an attempt, and a call has only as many
attempts as there are servers: the client of a single server logs in and has none left.

## What is here

* `Renewal` — a call whose first request is turned down, and whose login then brings a token.
* `Renewal.request_on` — where such a call is once it has its new token.
* `resent_after_login` — the request is sent again exactly where an attempt is left and the token
  can be put into a header; `single_server_gives_up` is a call without an attempt left.

The call is followed up to the moment at which it has its new token (`Renewal.request_on`), with
what was noted by then and with the attempts that are left. Everything after that is decided by a
number and a text: whether an attempt is left, and whether the token can be put into a header. That
the next request would be answered (`Renewal.willAnswer`) is part of the hypotheses, so that a call
which brings nothing can only be blamed on the attempts.
-/

set_option autoImplicit false
namespace Whitelist
namespace Remote

open Client

variable {τ α : Type} {settings : ClientSettings} {transport : Transport τ} {ask : Ask}
  {client : ClientState} {network between later : τ} {old new : String} {passed : Nat}
  {first form : Request} {refusal grant : Response}

/-- A client with a token makes a call. The first of its servers that the request can be sent to
turns it down, and the login there brings a new token. Whatever is sent next will be answered, and
not be turned down. -/
structure Renewal (settings : ClientSettings) (transport : Transport τ) (ask : Ask)
    (client : ClientState) (network : τ) (old new : String) (passed : Nat) (first form : Request)
    (refusal grant : Response) (between later : τ) : Prop where
  logsIn : settings.username ≠ ""
  lasts : tokenMargin < settings.tokenLifetime.toNat
  within : client.server < settings.servers.length
  hasToken : usableToken client = some old
  passed_lt : passed < settings.servers.length
  unsendable : ∀ ahead < passed,
    (requestTo settings ask (some old) (serverAhead settings client ahead)).isOk = false
  sent : requestTo settings ask (some old) (serverAhead settings client passed) = .ok first
  refused : (transport.send first).run network = (some refusal, between)
  status : refusal.status = 401
  formed : loginTo settings (serverAhead settings client passed) = .ok form
  welcomed : (transport.send form).run between = (some grant, later)
  granted : tokenOf form grant = .ok new
  willAnswer : ∀ request, ∃ response last,
    (transport.send request).run later = (some response, last) ∧ response.status ≠ 401

/-! ## After the login

The attempts that are left are those behind the server that has refused. Servers that nothing could
be sent to have taken theirs as well. -/

/-- What the client remembers once it has its new token. -/
def renewed (settings : ClientSettings) (client : ClientState) (passed : Nat) (new : String) :
    ClientState :=
  { movedOn settings client passed with token := some ⟨new, settings.tokenLifetime.toNat⟩ }

/-- The error that the call has met so far. -/
def errorBefore (settings : ClientSettings) (ask : Ask) (token : Option String)
    (client : ClientState) (passed : Nat) : Option HttpError :=
  (serversAhead settings client passed).getLast?.map (silence settings ask token)

/-- Once it has its new token, the call goes on with the attempts that are left. -/
theorem Renewal.request_on (h : Renewal settings transport ask client network old new passed first
      form refusal grant between later) (read : Json → Option α) :
    (Client.request settings transport.noted read ask).on ⟨client, (network, [])⟩
      = (attempts settings transport.noted read ask (settings.servers.length - (passed + 1))
          (errorBefore settings ask (some old) client passed)).on
        ⟨renewed settings client passed new,
          (later, [⟨first, some refusal⟩, ⟨form, some grant⟩])⟩ := by
  have hlogs : settings.logsIn = true := by simp [ClientSettings.logsIn, h.logsIn]
  have hsteady : Steady settings client (some old) := ⟨hlogs, h.hasToken⟩
  have hmoved : Steady settings (movedOn settings client passed) (some old) := hsteady
  have hattempts : settings.servers.length
      = settings.servers.length - (passed + 1) + 1 + passed := by
    have hlt := h.passed_lt
    omega
  have hsent : Request.prepare ask.method
      (addressOn settings (movedOn settings client passed) ask.path) (some old) ask.body
      = .ok first :=
    h.sent
  have hlogin : (login settings transport.noted).on
      ⟨{ movedOn settings client passed with token := none }, (between, [⟨first, some refusal⟩])⟩
      = (.ok (), ⟨renewed settings client passed new,
          (later, [⟨first, some refusal⟩, ⟨form, some grant⟩])⟩) := by
    exact login_on h.formed (noted_send_run h.welcomed _) h.granted
  calc (Client.request settings transport.noted read ask).on ⟨client, (network, [])⟩
      = (attempts settings transport.noted read ask
          (settings.servers.length - (passed + 1) + 1 + passed) none).on
          ⟨client, (network, [])⟩ := by rw [Client.request, ← hattempts]
    _ = (attempts settings transport.noted read ask (settings.servers.length - (passed + 1) + 1)
          (errorBefore settings ask (some old) client passed)).on
          ⟨movedOn settings client passed, (network, [])⟩ := by
        rw [attempts_on_unsendable _ hsteady h.within h.unsendable, Option.or_none, errorBefore]
    _ = _ := by
        rw [attempts_on_succ, Steady.ensureToken_on hmoved]
        dsimp only
        rw [exchange_noted_on, hsent]
        dsimp only
        rw [h.refused]
        dsimp only [answered]
        rw [if_pos ⟨h.status, hlogs⟩, List.nil_append, hlogin]

theorem Renewal.steady (h : Renewal settings transport ask client network old new passed first form
    refusal grant between later) :
    Steady settings (renewed settings client passed new) (some new) := by
  refine ⟨by simp [ClientSettings.logsIn, h.logsIn], ?_⟩
  simp [usableToken, renewed, Token.isUsable, h.lasts]

/-- **A request that was turned down is sent again if the call has an attempt left for it**, and if
the new token fits into a header; its second answer then is what the call brings. Otherwise the call
fails after the login, without another request, whatever would have been answered: so it is always
with a single server. -/
theorem resent_after_login (settings : ClientSettings) (transport : Transport τ) (ask : Ask)
    (client : ClientState) (network between later : τ) (old new : String) (passed : Nat)
    (first form : Request) (refusal grant : Response)
    (h : Renewal settings transport ask client network old new passed first form refusal grant
      between later) (read : Json → Option α) :
    ∃ outcome place last rest,
      (Client.request settings transport.noted read ask).on ⟨client, (network, [])⟩
          = (outcome, ⟨place, (last, ⟨first, some refusal⟩ :: ⟨form, some grant⟩ :: rest)⟩)
        ∧ (passed + 1 < settings.servers.length ∧ isHeaderText (some new) = true →
          ∃ response,
            (transport.send { first with token := some new }).run later = (some response, last)
              ∧ rest = [⟨{ first with token := some new }, some response⟩]
              ∧ outcome = accept read { first with token := some new } response)
        ∧ (¬ (passed + 1 < settings.servers.length ∧ isHeaderText (some new) = true) →
          rest = [] ∧ (∃ e, outcome = .error e)
            ∧ (settings.servers.length = 1 → outcome = .error allFailed)) := by
  have hplace : (renewed settings client passed new).server < settings.servers.length :=
    Nat.mod_lt _ (Nat.zero_lt_of_lt h.within)
  have hon := h.request_on read
  rcases hleft : settings.servers.length - (passed + 1) with _ | left
  · -- The login has used the last attempt up.
    have hlast : ¬ passed + 1 < settings.servers.length :=
      Nat.not_lt.mpr (Nat.sub_eq_zero_iff_le.mp hleft)
    rw [hleft, attempts_on_zero] at hon
    refine ⟨_, _, _, [], hon, fun hnot => absurd hnot.1 hlast, fun _ => ⟨rfl, ⟨_, rfl⟩, ?_⟩⟩
    intro hone
    obtain rfl : passed = 0 := Nat.lt_one_iff.mp (hone ▸ h.passed_lt)
    rfl
  · have hmore : passed + 1 < settings.servers.length := Nat.lt_of_sub_eq_succ hleft
    rw [hleft] at hon
    cases hheader : isHeaderText (some new) with
    | true =>
      obtain ⟨response, last, hsent, hstatus⟩ := h.willAnswer { first with token := some new }
      have hprepare : Request.prepare ask.method
          (addressOn settings (renewed settings client passed new) ask.path) (some new) ask.body
          = .ok { first with token := some new } :=
        requestTo_of_isHeaderText h.sent hheader
      have hnoted := noted_send_run hsent [⟨first, some refusal⟩, ⟨form, some grant⟩]
      have htoken : (ensureToken settings transport.noted).on
          ⟨renewed settings client passed new, (later, [⟨first, some refusal⟩, ⟨form, some grant⟩])⟩
          = (.ok (some new), _) := Steady.ensureToken_on h.steady
      rw [attempts_on_answered htoken hprepare hnoted fun hrefused => hstatus hrefused.1] at hon
      exact ⟨_, _, _, [⟨{ first with token := some new }, some response⟩], hon,
        fun _ => ⟨response, hsent, rfl, rfl⟩, fun hnot => absurd ⟨hmore, rfl⟩ hnot⟩
    | false =>
      rw [← Nat.zero_add (left + 1), attempts_on_unsendable 0 h.steady hplace
        fun ahead _ => isOk_requestTo hheader _, attempts_on_zero] at hon
      refine ⟨_, _, _, [], hon, fun hnot => absurd hnot.2 (by simp), fun _ => ⟨rfl, ⟨_, rfl⟩, ?_⟩⟩
      intro hone
      exact absurd hmore (by omega)

/-- A client with a token that a server will turn down. -/
def withToken : ClientState := { token := some ⟨"old", 1000⟩ }

/-- A refusal, then a login that brings a token, then an answer. -/
def refusedOnce : Transport.Script :=
  { answers := [some ⟨401, ""⟩, some welcome, some noOperators] }

/-- With two servers there is an attempt left, and the call brings its second answer. -/
theorem resent_after_login_two : ∃ first form, ∃ between later : Transport.Script,
    Renewal twoServers Transport.scripted (postEmpty "/operator") withToken refusedOnce "old"
        "first" 0 first form ⟨401, ""⟩ welcome between later
      ∧ ∃ place last,
        (Client.request twoServers Transport.scripted.noted
            (Envelope.ofJson? (Wire.asList Operator.ofJson?)) (postEmpty "/operator")).on
            ⟨withToken, (refusedOnce, [])⟩
          = (.ok ⟨Envelope.successCode, none, some []⟩, ⟨place, (last, [⟨first, some ⟨401, ""⟩⟩,
            ⟨form, some welcome⟩, ⟨{ first with token := some "first" }, some noOperators⟩])⟩) := by
  have hokFirst : (requestTo twoServers (postEmpty "/operator") (some "old")
      (serverAhead twoServers withToken 0)).isOk = true := by decide +kernel
  have hokForm : (loginTo twoServers (serverAhead twoServers withToken 0)).isOk = true := by
    decide +kernel
  obtain ⟨first, hfirst⟩ := exists_of_isOk hokFirst
  obtain ⟨form, hform⟩ := exists_of_isOk hokForm
  have hrenewal : Renewal twoServers Transport.scripted (postEmpty "/operator") withToken
      refusedOnce "old" "first" 0 first form ⟨401, ""⟩ welcome
      { answers := [some welcome, some noOperators], received := [first] }
      { answers := [some noOperators], received := [first, form] } :=
    ⟨by decide, by decide, by decide, by decide, by decide, nofun, hfirst, rfl, rfl, hform, rfl,
      tokenOf_welcome form, fun request => ⟨noOperators, _, rfl, by decide⟩⟩
  refine ⟨first, form, _, _, hrenewal, ?_⟩
  obtain ⟨outcome, place, last, rest, hon, hagain, -⟩ :=
    resent_after_login _ _ _ _ _ _ _ _ _ _ _ _ _ _ hrenewal
      (Envelope.ofJson? (Wire.asList Operator.ofJson?))
  obtain ⟨response, hsent, rfl, rfl⟩ := hagain (by decide)
  obtain rfl : noOperators = response := Option.some_inj.mp (congrArg Prod.fst hsent)
  rw [accept_noOperators] at hon
  exact ⟨place, last, hon⟩

/-- That the next request would be answered is not enough for the call to bring that answer. -/
theorem single_server_gives_up :
    ¬ ∀ (settings : ClientSettings) (σ β : Type) (transport : Transport σ) (ask : Ask)
      (client : ClientState) (network between later : σ) (old new : String) (passed : Nat)
      (first form : Request) (refusal grant : Response) (read : Json → Option β),
      Renewal settings transport ask client network old new passed first form refusal grant between
        later →
      ∃ again response, again.token = some new
        ∧ ((transport.send again).run later).1 = some response
        ∧ ((Client.request settings transport.noted read ask).on ⟨client, (network, [])⟩).1
          = accept read again response := by
  intro hall
  have hokFirst : (requestTo asUser (postEmpty "/operator") (some "old")
      (serverAhead asUser withToken 0)).isOk = true := by decide +kernel
  have hokForm : (loginTo asUser (serverAhead asUser withToken 0)).isOk = true := by
    decide +kernel
  obtain ⟨first, hfirst⟩ := exists_of_isOk hokFirst
  obtain ⟨form, hform⟩ := exists_of_isOk hokForm
  have hrenewal : Renewal asUser Transport.scripted (postEmpty "/operator") withToken refusedOnce
      "old" "first" 0 first form ⟨401, ""⟩ welcome
      { answers := [some welcome, some noOperators], received := [first] }
      { answers := [some noOperators], received := [first, form] } :=
    ⟨by decide, by decide, by decide, by decide, by decide, nofun, hfirst, rfl, rfl, hform, rfl,
      tokenOf_welcome form, fun request => ⟨noOperators, _, rfl, by decide⟩⟩
  obtain ⟨again, response, -, hsent, houtcome⟩ := hall _ _ _ _ _ _ _ _ _ _ _ _ _ _ _ _
    (Envelope.ofJson? (Wire.asList Operator.ofJson?)) hrenewal
  obtain rfl : noOperators = response := Option.some_inj.mp hsent
  rw [hrenewal.request_on, accept_noOperators] at houtcome
  cases houtcome

end Remote
end Whitelist
