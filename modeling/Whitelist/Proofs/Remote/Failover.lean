import Whitelist.Proofs.Remote.Attempts

/-!
# Servers in turn

A client stays with one server until a request to it is not answered; then it goes on to the next,
around the list. A server that nothing can be sent to is passed over in the same way.

## What is here

* `Within` — the client is with one of its servers; no call changes that (`within_answer`).
* `TriedInTurn` — what may come of a call that tries one server after another.
* `failover_in_turn` — that is what comes of every call without a login.

`TriedInTurn` lists the outcomes of a call without a login, with the exact log of each: the servers
that were passed over, and the answer of the one that was not. It is obtained from
`attempts_in_turn`, which has the same content in the form that the induction needs.
-/

set_option autoImplicit false
namespace Whitelist
namespace Client

variable {τ α : Type} {settings : ClientSettings} {transport : Transport τ} {link : Link τ}

/-! ## The place in the list

That the index of the server stays within the list is needed for the first statement to make sense,
and it holds of clients with a login too. -/

variable (settings) in
/-- The client is with one of its servers. -/
def Within (link : Link τ) : Prop := link.client.server < settings.servers.length

/-- A request changes nothing that the client remembers. -/
theorem within_exchange (method : Method) (address : String) (token : Option String)
    (body : Option Json) (hlink : Within settings link) :
    Within settings ((exchange transport method address token body).run link).2 := by
  rw [exchange_on]
  cases Request.prepare method address token body <;> exact hlink

/-- A login may change the token. -/
theorem within_login : Dialog.Ensures (Within settings) (login settings transport)
    (fun _ => Within settings) (Within settings) := by
  unfold login
  refine .bind _ .get fun start => ?_
  refine .bind (fun _ => Within settings)
    (.lift fun link hlink => within_exchange _ _ _ _ hlink.2) fun outcome => ?_
  cases outcome with
  | error e => exact .throw fun _ h => h
  | ok answer =>
    exact .bind (fun _ => Within settings) (.liftExcept (fun _ _ _ h => h) fun _ _ _ h => h)
      fun _ => .setClient fun _ h => h

theorem within_ensureToken : Dialog.Ensures (Within settings) (ensureToken settings transport)
    (fun _ => Within settings) (Within settings) := by
  unfold ensureToken
  cases settings.logsIn with
  | false => exact .pure fun _ h => h
  | true =>
    refine .bind _ .get fun start => ?_
    cases usableToken start.client with
    | some text => exact .pure fun _ h => h.2
    | none =>
      refine .bind _ (within_login.mono fun _ h => h.2) fun _ => .bind _ .get fun later => ?_
      cases usableToken later.client with
      | some text => exact .pure fun _ h => h.2
      | none => exact .throw fun _ h => h.2

/-- However many servers a call tries, the client is with one of them afterwards. -/
theorem within_attempts (read : Json → Option α) (ask : Ask) (left : Nat)
    (lastError : Option HttpError) :
    Dialog.Ensures (Within settings) (attempts settings transport read ask left lastError)
      (fun _ => Within settings) (Within settings) := by
  induction left generalizing lastError with
  | zero => exact .throw fun _ h => h
  | succ left ih =>
    unfold attempts
    refine .bind _ .get fun start => ?_
    refine .bind _ (within_ensureToken.mono fun _ h => h.2) fun token => ?_
    refine .bind (fun _ => Within settings)
      (.lift fun link hlink => within_exchange _ _ _ _ hlink) fun outcome => ?_
    rcases outcome with e | ⟨request, response⟩
    · exact .bind (fun _ => Within settings)
        (.setClient fun link hlink => Nat.mod_lt _ (Nat.zero_lt_of_lt hlink)) fun _ => ih (some e)
    · dsimp only
      split
      · exact .bind (fun _ => Within settings) (.setClient fun _ h => h)
          fun _ => .bind _ within_login fun _ => ih lastError
      · exact .liftExcept (fun _ _ _ h => h) fun _ _ _ h => h

end Client

namespace Remote

open Client

variable {τ : Type} {settings : ClientSettings} {transport : Transport τ}

/-- No call of a store takes a client out of its list. -/
theorem within_answer (call : StoreCall) {link : Link τ} (hlink : Within settings link) :
    Within settings (((store settings transport).answer call).on link).2 :=
  answer_on_keeps (fun endpoint _ => (within_attempts (Envelope.ofJson? endpoint.read) endpoint.ask
    settings.servers.length none).after) call hlink

/-- A client is with one of its servers from the first. -/
theorem within_afterSteps {network : τ} {link : Link (τ × List Sent)}
    (hnew : IsNew settings transport network link) (steps : List ClientStep) :
    Within settings (afterSteps settings transport link steps) := by
  have hlink : Within settings link :=
    hnew.holds (fun hservers => List.length_pos_iff.mpr hservers) fun _ _ => within_login.after
  refine afterSteps_keeps (fun step link hwithin => ?_) hlink steps
  cases step with
  | call storeCall => exact within_answer storeCall hwithin
  | elapse seconds => exact hwithin

/-! ## Calls without a login -/

variable (settings) in
/-- What may come of a call that tries one server after another: its outcome, what the client
remembers, and what has been sent. -/
inductive TriedInTurn {α : Type} (read : Json → Option α) (ask : Ask) (client : ClientState) :
    Except ClientError α → ClientState → List Sent → Prop
  /-- After so many servers without an answer one has answered. What it said is the outcome, and the
  client stays with it. -/
  | answered {passed : Nat} {request : Request} {response : Response}
      (hpassed : passed < settings.servers.length)
      (hrequest : requestTo settings ask none (serverAhead settings client passed) = .ok request) :
      TriedInTurn read ask client (accept read request response) (movedOn settings client passed)
        (lost settings ask none client passed ++ [⟨request, some response⟩])
  /-- No server has answered. The last one has given the outcome, and the client is back where it
  was. -/
  | unanswered {e : HttpError}
      (hlast : (serversAhead settings client settings.servers.length).getLast?.map
        (silence settings ask none) = some e) :
      TriedInTurn read ask client (.error (.http e)) client
        (lost settings ask none client settings.servers.length)

/-- **Without a login a call goes from server to server until one answers**, around the list once at
most, over whatever network. The place of a client, with or without a login, stays within its list
over all its calls. -/
theorem failover_in_turn (settings : ClientSettings) (transport : Transport τ) :
    (∀ (network : τ) (link : Link (τ × List Sent)) (steps : List ClientStep),
        IsNew settings transport network link →
        (afterSteps settings transport link steps).client.server < settings.servers.length)
      ∧ (settings.username = "" → ∀ (α : Type) (read : Json → Option α) (ask : Ask)
        (client : ClientState) (network : τ), client.server < settings.servers.length →
        ∃ outcome later place sent,
          (Client.request settings transport.noted read ask).on ⟨client, (network, [])⟩
              = (outcome, ⟨place, (later, sent)⟩)
            ∧ TriedInTurn settings read ask client outcome place sent) := by
  refine ⟨fun network link steps hnew => within_afterSteps hnew steps,
    fun hname α read ask client network hserver => ?_⟩
  have hlogs : settings.logsIn = false := by simp [ClientSettings.logsIn, hname]
  have hsteady : Steady settings client none := hlogs
  obtain ⟨passed, later, hpasses⟩ := attempts_in_turn transport read ask hsteady hserver network []
    settings.servers.length none
  rcases Nat.lt_or_eq_of_le hpasses.passed_le with hlt | rfl
  · obtain ⟨request, response, last, hrequest, -, hon⟩ := hpasses.on_answered hsteady hlt
    rw [if_neg (by simp [hlogs])] at hon
    exact ⟨_, _, _, _, hon, .answered hlt hrequest⟩
  · obtain ⟨e, he⟩ : ∃ e, (serversAhead settings client settings.servers.length).getLast?.map
        (silence settings ask none) = some e := by
      obtain ⟨others, hothers⟩ := Nat.exists_eq_succ_of_ne_zero (Nat.ne_zero_of_lt hserver)
      rw [hothers, serversAhead_succ, List.getLast?_cons]
      exact ⟨_, rfl⟩
    have hon := hpasses.on_exhausted
    rw [he, movedOn_length hserver] at hon
    exact ⟨_, _, _, _, hon, .unanswered he⟩

/-- Three servers, of which the first has no address. -/
def threeServers : ClientSettings :=
  { servers := ["", "http://[::1]", "http://[::1]:8080"] }

/-- The last of the three servers does not answer, and the one after the first does. -/
def lastIsSilent : Transport.Script := { answers := [none, some ⟨500, ""⟩] }

/-- From the last server a client comes around to the second; a new client finds it at once. -/
theorem failover_in_turn_around :
    IsNew threeServers Transport.scripted {} { network := ({}, []) }
      ∧ (afterSteps threeServers Transport.scripted { network := ({}, []) }
          [.call .operators, .elapse 1, .call .operators]).client.server < 3
      ∧ threeServers.username = "" ∧ 2 < threeServers.servers.length
      ∧ ∃ outcome later place sent,
        (Client.request threeServers Transport.scripted.noted anyValue (postEmpty "/operator")).on
            ⟨{ server := 2 }, (lastIsSilent, [])⟩ = (outcome, ⟨place, (later, sent)⟩)
          ∧ TriedInTurn threeServers anyValue (postEmpty "/operator") { server := 2 } outcome place
            sent
          ∧ place.server = 1 ∧ sent.length = 2 := by
  have hnew : IsNew threeServers Transport.scripted {} { network := ({}, []) } := .inl rfl
  have hwithin := (failover_in_turn threeServers Transport.scripted).1 {} _
    [.call .operators, .elapse 1, .call .operators] hnew
  obtain ⟨outcome, later, place, sent, hon, htried⟩ :=
    (failover_in_turn threeServers Transport.scripted).2 rfl Json anyValue (postEmpty "/operator")
      { server := 2 } lastIsSilent (by decide)
  have hplace : ((Client.request threeServers Transport.scripted.noted anyValue
      (postEmpty "/operator")).on ⟨{ server := 2 }, (lastIsSilent, [])⟩).2.client.server = 1 := by
    decide +kernel
  have hsent : ((Client.request threeServers Transport.scripted.noted anyValue
      (postEmpty "/operator")).on ⟨{ server := 2 }, (lastIsSilent, [])⟩).2.network.2.length
      = 2 := by
    decide +kernel
  rw [hon] at hplace hsent
  exact ⟨hnew, hwithin, rfl, by decide, outcome, later, place, sent, hon, htried, hplace, hsent⟩

end Remote
end Whitelist
