import Whitelist.Proofs.Attempt
import Whitelist.Remote.Store

/-!
# What comes of a dialog

A dialog over a link is put together from the same pieces as an attempt on a store, and from
exchanges with a server. This file says what comes of each piece over a given link, so that no later
proof has to open the monad.

## What is here

* `Dialog.on` — what comes of a dialog, with `on_pure`, `on_throw`, `on_get`, `on_setClient`,
  `on_liftM`, `on_bind` for the pieces, and `Remote.attempt_on` for the dialog as an attempt.
* `answered`, `exchange_on` — one request.
* `login_on_eq`, `ensureToken_on_eq`, `attempts_on_zero`, `attempts_on_succ` — what comes of a
  login, of the look for a token and of an attempt, in every case.
* `login_on`, `ensureToken_on`, `attempts_on_unprepared`, `attempts_on_answered`,
  `attempt_call_on` — the cases that most calls come to.
* `Dialog.Ensures` — what holds after a dialog, whether it answers or fails; `Ensures.bind` is how
  such facts about two parts become one about both.

Every equation is given twice, in a sense: once in full, with a `match` on all that can happen
(`login_on_eq`, `ensureToken_on_eq`, `attempts_on_succ`), and then for the one case that a caller
has in hand (`login_on`, `ensureToken_on`, `attempts_on_answered`). Statements about all calls use
the former, those about one call under given circumstances the latter.

The logs of what was sent are kept in the network and not in the client (`Transport.noted`), so that
the equations hold with and without a log.
-/

set_option autoImplicit false
namespace Whitelist
namespace Client

variable {τ α β : Type}

/-- What comes of a dialog over a link. -/
def Dialog.on (dialog : Dialog τ α) (link : Link τ) : Except ClientError α × Link τ :=
  dialog.run link

namespace Dialog

@[simp] theorem on_pure (a : α) (link : Link τ) :
    (pure a : Dialog τ α).on link = (.ok a, link) := rfl

@[simp] theorem on_throw (e : ClientError) (link : Link τ) :
    (throw e : Dialog τ α).on link = (.error e, link) := rfl

@[simp] theorem on_get (link : Link τ) :
    (get : Dialog τ (Link τ)).on link = (.ok link, link) := rfl

@[simp] theorem on_setClient (change : ClientState → ClientState) (link : Link τ) :
    (setClient change : Dialog τ Unit).on link
      = (.ok (), { link with client := change link.client }) := rfl

@[simp] theorem on_liftM (e : Except ClientError α) (link : Link τ) :
    (liftM e : Dialog τ α).on link = (e, link) := by
  cases e <;> rfl

@[simp] theorem on_lift (x : StateM (Link τ) α) (link : Link τ) :
    (liftM x : Dialog τ α).on link = (.ok (x.run link).1, (x.run link).2) := rfl

/-- The second dialog starts where the first one left the link, unless the first failed. -/
theorem on_bind (x : Dialog τ α) (k : α → Dialog τ β) (link : Link τ) :
    (x >>= k : Dialog τ β).on link = match x.on link with
      | (.ok a, later) => (k a).on later
      | (.error e, later) => (.error e, later) := by
  show (match x.on link with
    | (a, later) => (ExceptT.bindCont k a : StateM (Link τ) (Except ClientError β)) later) = _
  rcases x.on link with ⟨_ | a, later⟩ <;> rfl

end Dialog
end Client

/-- What a client does, as an attempt: the link is the one that it leaves. -/
theorem Remote.attempt_on {τ α : Type} (dialog : Client.Dialog τ α) (link : Link τ) :
    (Remote.attempt dialog).on link
      = ((dialog.on link).1.mapError ClientError.fault, (dialog.on link).2) := by
  rw [Remote.attempt, Attempt.on_of, Client.Dialog.on]
  rcases dialog.run link with ⟨_ | a, later⟩ <;> rfl

namespace Client

variable {τ α β : Type}

/-! ## One request

Nothing is sent where a request cannot be prepared, and the network is then as it was. -/

/-- What a request that was sent comes to. -/
def answered (request : Request) : Option Response → Except HttpError (Request × Response)
  | some response => .ok (request, response)
  | none => .error (.unanswered request.url)

/-- What comes of a request: nothing is sent where it cannot be prepared. -/
theorem exchange_on (transport : Transport τ) (method : Method) (address : String)
    (token : Option String) (body : Option Json) (link : Link τ) :
    (exchange transport method address token body).run link
      = match Request.prepare method address token body with
        | .error e => (.error e, link)
        | .ok request =>
          let sent := (transport.send request).run link.network
          (answered request sent.1, { link with network := sent.2 }) := by
  rw [exchange]
  cases Request.prepare method address token body with
  | error e => rfl
  | ok request =>
    simp only [StateT.run_bind, StateT.run_get, pure_bind]
    rcases (transport.send request).run link.network with ⟨_ | response, network⟩ <;> rfl

/-- A request is sent with the token and the body that it was prepared with. -/
theorem prepare_eq_ok {method : Method} {address : String} {token : Option String}
    {body : Option Json} {request : Request}
    (h : Request.prepare method address token body = .ok request) :
    request.method = method ∧ request.token = token ∧ request.body = body := by
  unfold Request.prepare at h
  split at h
  · cases h
  · split at h
    · cases h
    · split at h
      · cases h
      · dsimp only at h
        split at h
        · cases h
        · cases h
          exact ⟨rfl, rfl, rfl⟩

/-- A request that is known to be prepared is some request. -/
theorem exists_of_isOk {ε : Type} {e : Except ε α} (h : e.isOk = true) : ∃ a, e = .ok a := by
  cases e with
  | error e => cases h
  | ok a => exact ⟨a, rfl⟩

/-! ## Tokens and calls

`attempts` is a recursion on the attempts that are left, and every branch of it either ends or goes
on with one attempt less, from another link. Inductions over a call follow `attempts_on_zero` and
`attempts_on_succ`. -/

section

variable {settings : ClientSettings} {transport : Transport τ} {link later : Link τ} {network : τ}
  {request : Request} {response : Response} {text : String}

/-- A login brings a token, or an error of its request or of its answer. -/
theorem login_on_eq : (login settings transport).on link
    = match (exchange transport .post (addressOn settings link.client settings.loginPath) none
        (some (loginForm settings))).run link with
      | (.error e, later) => (.error (.http e), later)
      | (.ok (request, response), later) =>
        match tokenOf request response with
        | .error e => (.error e, later)
        | .ok text => (.ok (),
          { later with client :=
            { later.client with token := some ⟨text, settings.tokenLifetime.toNat⟩ } }) := by
  rw [login, Dialog.on_bind, Dialog.on_get]
  dsimp only
  rw [Dialog.on_bind, Dialog.on_lift]
  rcases (exchange transport .post (addressOn settings link.client settings.loginPath) none
    (some (loginForm settings))).run link with ⟨e | ⟨request, response⟩, later⟩
  · rfl
  · dsimp only
    rw [Dialog.on_bind, Dialog.on_liftM]
    cases tokenOf request response <;> rfl

/-- A login whose answer gives a token. -/
theorem login_on (hprepared : Request.prepare .post
      (addressOn settings link.client settings.loginPath) none (some (loginForm settings))
      = .ok request)
    (hsent : (transport.send request).run link.network = (some response, network))
    (htoken : tokenOf request response = .ok text) :
    (login settings transport).on link = (.ok (),
      ⟨{ link.client with token := some ⟨text, settings.tokenLifetime.toNat⟩ }, network⟩) := by
  rw [login_on_eq, exchange_on, hprepared]
  dsimp only
  rw [hsent]
  dsimp only [answered]
  rw [htoken]

/-- Without a user to log in as there is no token, and none is asked for. -/
theorem ensureToken_on_of_not_logsIn (hlogs : settings.logsIn = false) :
    (ensureToken settings transport).on link = (.ok none, link) := by
  rw [ensureToken, hlogs]
  rfl

/-- A token is none, at hand, or brought by a login; a login may bring one that cannot be used. -/
theorem ensureToken_on_eq : (ensureToken settings transport).on link
    = if settings.logsIn = false then (.ok none, link) else
        match usableToken link.client with
        | some text => (.ok (some text), link)
        | none =>
          match (login settings transport).on link with
          | (.error e, later) => (.error e, later)
          | (.ok (), later) =>
            match usableToken later.client with
            | some text => (.ok (some text), later)
            | none => (.error noToken, later) := by
  cases hlogs : settings.logsIn with
  | false =>
    rw [if_pos rfl]
    exact ensureToken_on_of_not_logsIn hlogs
  | true =>
    rw [if_neg (by simp), ensureToken, hlogs]
    show (get >>= _ : Dialog τ (Option String)).on link = _
    rw [Dialog.on_bind, Dialog.on_get]
    dsimp only
    cases usableToken link.client with
    | some text => rfl
    | none =>
      dsimp only
      rw [Dialog.on_bind]
      rcases (login settings transport).on link with ⟨e | ⟨⟩, later⟩
      · rfl
      · dsimp only
        rw [Dialog.on_bind, Dialog.on_get]
        dsimp only
        cases usableToken later.client <;> rfl

/-- A client without a token that may be used takes one from a login. -/
theorem ensureToken_on (hlogs : settings.logsIn = true) (hnone : usableToken link.client = none)
    (hlogin : (login settings transport).on link = (.ok (), later))
    (husable : usableToken later.client = some text) :
    (ensureToken settings transport).on link = (.ok (some text), later) := by
  rw [ensureToken_on_eq, if_neg (by simp [hlogs]), hnone]
  dsimp only
  rw [hlogin]
  dsimp only
  rw [husable]

section

variable {read : Json → Option α} {ask : Ask} {left : Nat} {lastError : Option HttpError}
  {token : Option String}

/-- Without an attempt left a call fails with the last error, if there was one. -/
theorem attempts_on_zero :
    (attempts settings transport read ask 0 lastError).on link
      = (.error ((lastError.map .http).getD allFailed), link) := rfl

/-- One attempt: without a token the call ends, without an answer the next server is tried, after a
refusal there is a login, and any other answer settles the call. -/
theorem attempts_on_succ :
    (attempts settings transport read ask (left + 1) lastError).on link
      = match (ensureToken settings transport).on link with
        | (.error e, later) => (.error e, later)
        | (.ok token, later) =>
          match (exchange transport ask.method (addressOn settings link.client ask.path) token
              ask.body).run later with
          | (.error e, last) => (attempts settings transport read ask left (some e)).on
              { last with client := nextServer settings last.client }
          | (.ok (request, response), last) =>
            if response.status = 401 ∧ settings.logsIn = true then
              match (login settings transport).on
                  { last with client := { last.client with token := none } } with
              | (.error e, last) => (.error e, last)
              | (.ok (), last) => (attempts settings transport read ask left lastError).on last
            else (accept read request response, last) := by
  rw [attempts, Dialog.on_bind, Dialog.on_get]
  dsimp only
  rw [Dialog.on_bind]
  rcases (ensureToken settings transport).on link with ⟨e | token, later⟩
  · rfl
  · dsimp only
    rw [Dialog.on_bind, Dialog.on_lift]
    rcases (exchange transport ask.method (addressOn settings link.client ask.path) token
      ask.body).run later with ⟨e | ⟨request, response⟩, last⟩
    · dsimp only
      rw [Dialog.on_bind, Dialog.on_setClient]
    · dsimp only
      split
      · rw [Dialog.on_bind, Dialog.on_setClient]
        dsimp only
        rw [Dialog.on_bind]
        rcases (login settings transport).on _ with ⟨_ | _, _⟩ <;> rfl
      · rw [Dialog.on_liftM]

/-- A server that the request cannot be sent to is passed over. -/
theorem attempts_on_unprepared {e : HttpError}
    (htoken : (ensureToken settings transport).on link = (.ok token, later))
    (hprepared : Request.prepare ask.method (addressOn settings link.client ask.path) token ask.body
      = .error e) :
    (attempts settings transport read ask (left + 1) lastError).on link
      = (attempts settings transport read ask left (some e)).on
        ⟨nextServer settings later.client, later.network⟩ := by
  rw [attempts_on_succ, htoken]
  dsimp only
  rw [exchange_on, hprepared]

/-- An answer settles a call, unless the client can log in again for it. -/
theorem attempts_on_answered
    (htoken : (ensureToken settings transport).on link = (.ok token, later))
    (hprepared : Request.prepare ask.method (addressOn settings link.client ask.path) token ask.body
      = .ok request)
    (hsent : (transport.send request).run later.network = (some response, network))
    (hsettled : ¬ (response.status = 401 ∧ settings.logsIn = true)) :
    (attempts settings transport read ask (left + 1) lastError).on link
      = (accept read request response, ⟨later.client, network⟩) := by
  rw [attempts_on_succ, htoken]
  dsimp only
  rw [exchange_on, hprepared]
  dsimp only
  rw [hsent]
  dsimp only [answered]
  rw [if_neg hsettled]

end

/-- A call, and what is made of the content that it is answered with. -/
theorem attempt_call_on {read : Json → Option α} {ask : Ask} {make : Option α → Dialog τ β}
    {content : Option α} {b : β}
    (hon : (Remote.call settings transport read ask).on link = (.ok content, later))
    (hmake : (make content).on later = (.ok b, later)) :
    (Remote.attempt (Remote.call settings transport read ask >>= make)).on link
      = (.ok b, later) := by
  rw [Remote.attempt_on, Dialog.on_bind, hon]
  dsimp only
  rw [hmake]
  rfl

/-- A call whose request brings nothing. -/
theorem attempt_call_on_error {read : Json → Option α} {ask : Ask} {make : Option α → Dialog τ β}
    {e : ClientError} (h : (Client.request settings transport (Envelope.ofJson? read) ask).on link
      = (.error e, later)) :
    (Remote.attempt (Remote.call settings transport read ask >>= make)).on link
      = (.error e.fault, later) := by
  rw [Remote.attempt_on, Dialog.on_bind, Remote.call, Dialog.on_bind, h]
  rfl

end

/-! ## What holds afterwards

`Ensures` is a Hoare triple with two postconditions, one for answers and one for failures. A client
that fails half way through may have changed its token or its server, and an invariant of runs has
to hold then as well. -/

/-- Over a link with `pre`, the dialog leaves a link with `post` where it answers, and one with
`fallback` where it fails. -/
structure Dialog.Ensures (pre : Link τ → Prop) (dialog : Dialog τ α)
    (post : α → Link τ → Prop) (fallback : Link τ → Prop) : Prop where
  answer : ∀ link a later, pre link → dialog.on link = (.ok a, later) → post a later
  failure : ∀ link e later, pre link → dialog.on link = (.error e, later) → fallback later

namespace Dialog.Ensures

variable {pre pre' fallback : Link τ → Prop} {x : Dialog τ α} {k : α → Dialog τ β}
  {mid : α → Link τ → Prop} {post : β → Link τ → Prop}

/-- Between the two dialogs the link has `mid`. -/
theorem bind (mid : α → Link τ → Prop) (hx : Ensures pre x mid fallback)
    (hk : ∀ a, Ensures (mid a) (k a) post fallback) : Ensures pre (x >>= k) post fallback where
  answer link b later hlink h := by
    rw [on_bind] at h
    rcases hx' : x.on link with ⟨_ | a, between⟩
    · rw [hx'] at h
      cases h
    · rw [hx'] at h
      exact (hk a).answer between b later (hx.answer link a between hlink hx') h
  failure link e later hlink h := by
    rw [on_bind] at h
    rcases hx' : x.on link with ⟨e' | a, between⟩
    · rw [hx'] at h
      cases h
      exact hx.failure link _ _ hlink hx'
    · rw [hx'] at h
      exact (hk a).failure between e later (hx.answer link a between hlink hx') h

/-- A stronger precondition will do. -/
theorem mono (hx : Ensures pre x mid fallback) (h : ∀ link, pre' link → pre link) :
    Ensures pre' x mid fallback where
  answer link a later hlink := hx.answer link a later (h link hlink)
  failure link e later hlink := hx.failure link e later (h link hlink)

theorem pure {a : α} (h : ∀ link, pre link → mid a link) :
    Ensures pre (Pure.pure a) mid fallback where
  answer link b later hlink hon := by
    cases hon
    exact h link hlink
  failure link e later hlink hon := by cases hon

theorem throw {e : ClientError} (h : ∀ link, pre link → fallback link) :
    Ensures pre (MonadExcept.throw e) mid fallback where
  answer link b later hlink hon := by cases hon
  failure link e later hlink hon := by
    cases hon
    exact h link hlink

theorem get : Ensures pre MonadState.get (fun link later => later = link ∧ pre later) fallback where
  answer link b later hlink hon := by
    cases hon
    exact ⟨rfl, hlink⟩
  failure link e later hlink hon := by cases hon

theorem setClient {change : ClientState → ClientState} {post : Unit → Link τ → Prop}
    (h : ∀ link, pre link → post () { link with client := change link.client }) :
    Ensures pre (Client.setClient change) post fallback where
  answer link b later hlink hon := by
    cases hon
    exact h link hlink
  failure link e later hlink hon := by cases hon

/-- An outcome that is known already. -/
theorem liftExcept {e : Except ClientError α} (hok : ∀ a, e = .ok a → ∀ link, pre link → mid a link)
    (herror : ∀ err, e = .error err → ∀ link, pre link → fallback link) :
    Ensures pre (liftM e) mid fallback where
  answer link a later hlink hon := by
    cases hon.symm.trans (on_liftM e link)
    exact hok a rfl link hlink
  failure link e' later hlink hon := by
    cases hon.symm.trans (on_liftM e link)
    exact herror e' rfl link hlink

/-- An exchange, or whatever else never fails. -/
theorem lift {x : StateM (Link τ) α} (h : ∀ link, pre link → mid (x.run link).1 (x.run link).2) :
    Ensures pre (liftM x) mid fallback where
  answer link a later hlink hon := by
    cases hon.symm.trans (on_lift x link)
    exact h link hlink
  failure link e later hlink hon := by cases hon.symm.trans (on_lift x link)

/-- What holds after a dialog in any case. -/
theorem after (hx : Ensures pre x (fun _ => fallback) fallback) {link : Link τ} (hlink : pre link) :
    fallback (x.on link).2 := by
  rcases h : x.on link with ⟨_ | a, later⟩
  · exact hx.failure link _ later hlink h
  · exact hx.answer link a later hlink h

end Dialog.Ensures
end Client
end Whitelist
