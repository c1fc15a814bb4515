import Whitelist.Proofs.Remote.Attempts

/-!
# What one call sends

A call may send its request more than once, and a login may come before each of them: one because
the client has no token that may be used, others because a server has turned the token down. This
file says what can be noted of one call, attempt by attempt, and counts it.

## What is here

* `requestCount`, `loginCount` — how many requests and logins there are among what was sent.
* `Resendable`, `SettledLast` — the requests that something may be sent after, and that nothing was
  sent after any other.
* `Course` — what a call may send with so many attempts left, one case for each thing that may
  happen. `Course.requestCount_le`, `Course.loginCount_le` and `Course.settledLast` are what all
  courses have in common.
* `takesCourse` — every call takes such a course.
* `resending_bounded` — how often a call sends, and what it sends again.

The counts are proved in two steps. `Course` is an inductive description of logs, with the number of
attempts left and whether the client is ready as indices; its constructors are the branches of an
attempt. `takesCourse` shows by induction on the attempts that what a call sends is such a log, and
the bounds are then inductions on `Course`, where no client, no network and no reader occurs any
more.
-/

set_option autoImplicit false
namespace Whitelist
namespace Client

variable {τ α : Type} {settings : ClientSettings} {transport : Transport τ}

/-! ## Counting

A login is told from other requests by its body, which only logins have. -/

open Classical in
/-- How many logins there are among what was sent. -/
noncomputable def loginCount (settings : ClientSettings) (log : List Sent) : Nat :=
  log.countP fun sent => IsLogin settings sent

open Classical in
/-- How many requests other than logins there are among what was sent. -/
noncomputable def requestCount (settings : ClientSettings) (log : List Sent) : Nat :=
  log.countP fun sent => ¬ IsLogin settings sent

section

variable {sent : Sent} {log : List Sent}

@[simp] theorem loginCount_nil : loginCount settings [] = 0 := List.countP_nil

@[simp] theorem requestCount_nil : requestCount settings [] = 0 := List.countP_nil

theorem loginCount_cons_login (h : IsLogin settings sent) :
    loginCount settings (sent :: log) = loginCount settings log + 1 := by
  simp [loginCount, h]

theorem loginCount_cons_request (h : ¬ IsLogin settings sent) :
    loginCount settings (sent :: log) = loginCount settings log := by
  simp [loginCount, h]

theorem requestCount_cons_login (h : IsLogin settings sent) :
    requestCount settings (sent :: log) = requestCount settings log := by
  simp [requestCount, h]

theorem requestCount_cons_request (h : ¬ IsLogin settings sent) :
    requestCount settings (sent :: log) = requestCount settings log + 1 := by
  simp [requestCount, h]

end

variable (settings) in
/-- The request was not answered, or it was turned down while the client can log in. -/
def Resendable (sent : Sent) : Prop :=
  sent.answer = none
    ∨ settings.username ≠ "" ∧ ∃ response, sent.answer = some response ∧ response.status = 401

variable (settings) in
/-- Nothing was sent after a request that was not to be sent again. -/
def SettledLast (log : List Sent) : Prop :=
  ∀ before sent after, log = before ++ sent :: after → ¬ IsLogin settings sent → after ≠ [] →
    Resendable settings sent

theorem settledLast_nil : SettledLast settings [] := by
  intro before sent after hlog
  simp at hlog

/-- Whatever is sent before, it must be something that may be followed by more. -/
theorem SettledLast.cons {sent : Sent} {rest : List Sent} (h : SettledLast settings rest)
    (hsent : ¬ IsLogin settings sent → rest ≠ [] → Resendable settings sent) :
    SettledLast settings (sent :: rest) := by
  intro before x after hlog hx hafter
  cases before with
  | nil =>
    obtain ⟨rfl, rfl⟩ := List.cons.inj hlog
    exact hsent hx hafter
  | cons first before =>
    obtain ⟨rfl, hrest⟩ := List.cons.inj hlog
    exact h before x after hrest hx hafter

/-! ## The course of a call

The client is ready where it needs no token or has one that may be used. One that is not ready has
to log in before its first request, and that is the one login that takes no attempt. -/

variable (settings) in
/-- Whether the client can send a request as it is: it needs no token, or has one. -/
def isReady (client : ClientState) : Bool := !settings.logsIn || (usableToken client).isSome

variable (settings) in
/-- What a call may send with so many attempts left, by a client that is ready or has to log in
first. -/
inductive Course : Nat → Bool → List Sent → Prop
  /-- There is no attempt left, or a login cannot be sent. -/
  | stopped {left : Nat} {ready : Bool} : Course left ready []
  /-- The login brings no token that may be used. -/
  | loginFailed {left : Nat} {login : Sent} (hlogin : IsLogin settings login) :
      Course (left + 1) false [login]
  | loggedIn {left : Nat} {login : Sent} {rest : List Sent} (hlogin : IsLogin settings login)
      (hlasts : tokenMargin < settings.tokenLifetime.toNat) (h : Course (left + 1) true rest) :
      Course (left + 1) false (login :: rest)
  /-- The request cannot be sent to this server. -/
  | unsent {left : Nat} {rest : List Sent} (h : Course left true rest) : Course (left + 1) true rest
  | silent {left : Nat} {sent : Sent} {rest : List Sent} (hsent : ¬ IsLogin settings sent)
      (hanswer : sent.answer = none) (h : Course left true rest) :
      Course (left + 1) true (sent :: rest)
  /-- The answer settles the call, or the login that it asks for cannot be sent. -/
  | settled {left : Nat} {sent : Sent} (hsent : ¬ IsLogin settings sent) :
      Course (left + 1) true [sent]
  /-- The login after a refusal brings no token, or the last attempt has been used up. -/
  | refused {left : Nat} {sent login : Sent} (hsent : ¬ IsLogin settings sent)
      (hagain : Resendable settings sent) (hlogin : IsLogin settings login) :
      Course (left + 1) true [sent, login]
  | renewed {left : Nat} {sent login : Sent} {rest : List Sent} (hsent : ¬ IsLogin settings sent)
      (hagain : Resendable settings sent) (hlogin : IsLogin settings login)
      (h : Course left true rest) : Course (left + 1) true (sent :: login :: rest)
  /-- The new token does not last, so the next attempt has to log in again, and stops there. -/
  | outlived {left : Nat} {sent login last : Sent} (hsent : ¬ IsLogin settings sent)
      (hagain : Resendable settings sent) (hlogin : IsLogin settings login)
      (hlast : IsLogin settings last) : Course (left + 2) true [sent, login, last]

namespace Course

variable {left : Nat} {ready : Bool} {log : List Sent}

/-- Each request takes an attempt. -/
theorem requestCount_le (h : Course settings left ready log) :
    requestCount settings log ≤ left := by
  induction h with
  | stopped => simp
  | loginFailed hlogin => simp [requestCount_cons_login hlogin]
  | loggedIn hlogin _ _ ih => rwa [requestCount_cons_login hlogin]
  | unsent _ ih => omega
  | silent hsent _ _ ih =>
    rw [requestCount_cons_request hsent]
    omega
  | settled hsent => simp [requestCount_cons_request hsent]
  | refused hsent _ hlogin =>
    simp [requestCount_cons_request hsent, requestCount_cons_login hlogin]
  | renewed hsent _ hlogin _ ih =>
    rw [requestCount_cons_request hsent, requestCount_cons_login hlogin]
    omega
  | outlived hsent _ hlogin hlast =>
    simp [requestCount_cons_request hsent, requestCount_cons_login hlogin,
      requestCount_cons_login hlast]

/-- Each login takes an attempt, but for the one that a client needs before it is ready. -/
theorem loginCount_le (h : Course settings left ready log) :
    loginCount settings log ≤ left + (!ready).toNat := by
  induction h with
  | stopped => simp
  | loginFailed hlogin => simp [loginCount_cons_login hlogin]
  | loggedIn hlogin _ _ ih =>
    simp only [Bool.not_true, Bool.toNat_false] at ih
    simp only [loginCount_cons_login hlogin, Bool.not_false, Bool.toNat_true]
    omega
  | unsent _ ih =>
    simp only [Bool.not_true, Bool.toNat_false] at ih ⊢
    omega
  | silent hsent _ _ ih =>
    simp only [loginCount_cons_request hsent, Bool.not_true, Bool.toNat_false] at ih ⊢
    omega
  | settled hsent => simp [loginCount_cons_request hsent]
  | refused hsent _ hlogin => simp [loginCount_cons_request hsent, loginCount_cons_login hlogin]
  | renewed hsent _ hlogin _ ih =>
    simp only [loginCount_cons_request hsent, loginCount_cons_login hlogin, Bool.not_true,
      Bool.toNat_false] at ih ⊢
    omega
  | outlived hsent _ hlogin hlast =>
    simp [loginCount_cons_request hsent, loginCount_cons_login hlogin, loginCount_cons_login hlast]

/-- A request that is not to be sent again is the last thing that is sent. -/
theorem settledLast (h : Course settings left ready log) : SettledLast settings log := by
  have hdone {login : Sent} (hlogin : IsLogin settings login) : SettledLast settings [login] :=
    settledLast_nil.cons fun hnot => absurd hlogin hnot
  induction h with
  | stopped => exact settledLast_nil
  | loginFailed hlogin => exact hdone hlogin
  | loggedIn hlogin _ _ ih => exact ih.cons fun hnot => absurd hlogin hnot
  | unsent _ ih => exact ih
  | silent _ hanswer _ ih => exact ih.cons fun _ _ => .inl hanswer
  | settled _ => exact settledLast_nil.cons fun _ hrest => absurd rfl hrest
  | refused _ hagain hlogin => exact (hdone hlogin).cons fun _ _ => hagain
  | renewed _ hagain hlogin _ ih =>
    exact (ih.cons fun hnot => absurd hlogin hnot).cons fun _ _ => hagain
  | outlived _ hagain hlogin hlast =>
    exact ((hdone hlast).cons fun hnot => absurd hlogin hnot).cons fun _ _ => hagain

end Course

/-! ## Every call takes such a course

Whether a client is ready changes with each attempt: after a refusal it has thrown its token away,
and after the login that follows it has a new one, which may or may not be one that can be used. -/

/-- What a dialog notes in addition to what was noted before. -/
def Notes (dialog : Dialog (τ × List Sent) α) (link : Link (τ × List Sent))
    (P : List Sent → Prop) : Prop :=
  ∃ entries, (dialog.on link).2.network.2 = link.network.2 ++ entries ∧ P entries

/-- A dialog that goes on as another one, after something was noted. -/
theorem Notes.after {dialog further : Dialog (τ × List Sent) α} {link later : Link (τ × List Sent)}
    {P Q : List Sent → Prop} (noted : List Sent) (hfurther : Notes further later Q)
    (hon : dialog.on link = further.on later) (hlater : later.network.2 = link.network.2 ++ noted)
    (hP : ∀ entries, Q entries → P (noted ++ entries)) : Notes dialog link P := by
  obtain ⟨entries, hnoted, hQ⟩ := hfurther
  refine ⟨noted ++ entries, ?_, hP entries hQ⟩
  rw [hon, hnoted, hlater, List.append_assoc]

/-- A new token may be used if it lasts longer than the margin. -/
theorem usableToken_fresh (client : ClientState) (text : String) (lifetime : Nat) :
    usableToken { client with token := some ⟨text, lifetime⟩ }
      = if tokenMargin < lifetime then some text else none := by
  by_cases hlasts : tokenMargin < lifetime
  · simp [usableToken, Token.isUsable, hlasts]
  · have hshort : lifetime ≤ tokenMargin := Nat.not_lt.mp hlasts
    simp [usableToken, Token.isUsable, hlasts, hshort]

/-- A login that cannot be sent is not noted, and any other is; if it brings a token, the client
keeps that. -/
theorem login_noted (settings : ClientSettings) (transport : Transport τ)
    (link : Link (τ × List Sent)) :
    (∃ e, (login settings transport.noted).on link = (.error e, link))
      ∨ ∃ sent network, IsLogin settings sent
        ∧ ((∃ e, (login settings transport.noted).on link
            = (.error e, { link with network := (network, link.network.2 ++ [sent]) }))
          ∨ ∃ text, (login settings transport.noted).on link
            = (.ok (), ⟨{ link.client with token := some ⟨text, settings.tokenLifetime.toNat⟩ },
                (network, link.network.2 ++ [sent])⟩)) := by
  rw [login_on_eq]
  rcases exchange_noted transport .post (addressOn settings link.client settings.loginPath) none
    (some (loginForm settings)) link with ⟨e, hunsent⟩ | ⟨sent, network, -, hlogin, hsent⟩
  · left
    rw [hunsent]
    exact ⟨_, rfl⟩
  · refine .inr ⟨sent, network, hlogin, ?_⟩
    rw [hsent]
    cases sent.answer with
    | none => exact .inl ⟨_, rfl⟩
    | some response =>
      dsimp only [answered]
      cases tokenOf sent.request response with
      | error e => exact .inl ⟨_, rfl⟩
      | ok text => exact .inr ⟨text, rfl⟩

/-- A client that is ready has the token that its requests need. -/
theorem exists_steady {client : ClientState} (hready : isReady settings client = true) :
    ∃ token, Steady settings client token := by
  by_cases hlogs : settings.logsIn = false
  · exact ⟨none, hlogs⟩
  · have husable : (usableToken client).isSome = true := by simpa [isReady, hlogs] using hready
    obtain ⟨text, htext⟩ := Option.isSome_iff_exists.mp husable
    exact ⟨some text, by simpa using hlogs, htext⟩

/-- Where a login brings the token, the attempt goes on like that of a client that has had it. -/
theorem attempts_on_loggedIn {read : Json → Option α} {ask : Ask} {left : Nat}
    {lastError : Option HttpError} {link later : Link τ} {text : String}
    (hlogs : settings.logsIn = true) (hnone : usableToken link.client = none)
    (hlogin : (login settings transport).on link = (.ok (), later))
    (htext : usableToken later.client = some text)
    (hserver : later.client.server = link.client.server) :
    (attempts settings transport read ask (left + 1) lastError).on link
      = (attempts settings transport read ask (left + 1) lastError).on later := by
  have htoken : (ensureToken settings transport).on link = (.ok (some text), later) := by
    rw [ensureToken_on_eq, if_neg (by simp [hlogs]), hnone]
    dsimp only
    rw [hlogin]
    dsimp only
    rw [htext]
  have hsteady : Steady settings later.client (some text) := ⟨hlogs, htext⟩
  rw [attempts_on_succ, attempts_on_succ, htoken, hsteady.ensureToken_on, addressOn, addressOn,
    hserver]

section

variable {read : Json → Option α} {ask : Ask} {left : Nat} {lastError : Option HttpError}
  {link : Link (τ × List Sent)}

variable (settings) in
/-- What is sent with so many attempts left is such a course, whoever the client is. -/
def TakesCourse (transport : Transport τ) (read : Json → Option α) (ask : Ask) (left : Nat) :
    Prop :=
  ∀ (lastError : Option HttpError) (link : Link (τ × List Sent)),
    Notes (attempts settings transport.noted read ask left lastError) link
      (Course settings left (isReady settings link.client))

/-- After a refusal there is a login, and then there are the attempts that are left. -/
theorem TakesCourse.refused (ih : TakesCourse settings transport read ask left)
    (hlogs : settings.logsIn = true) {sent : Sent} (hsent : ¬ IsLogin settings sent)
    (hagain : Resendable settings sent) (lastError : Option HttpError)
    {dialog : Dialog (τ × List Sent) α} (between : Link (τ × List Sent))
    (hbetween : between.network.2 = link.network.2 ++ [sent])
    (herror : ∀ e last, (login settings transport.noted).on between = (.error e, last) →
      dialog.on link = (.error e, last))
    (hok : ∀ last, (login settings transport.noted).on between = (.ok (), last) →
      dialog.on link = (attempts settings transport.noted read ask left lastError).on last) :
    Notes dialog link (Course settings (left + 1) true) := by
  rcases login_noted settings transport between with
    ⟨e, hlogin⟩ | ⟨login, network, hform, ⟨e, hlogin⟩ | ⟨text, hlogin⟩⟩
  · exact ⟨[sent], by rw [herror _ _ hlogin, hbetween], .settled hsent⟩
  · refine ⟨[sent, login], ?_, .refused hsent hagain hform⟩
    rw [herror _ _ hlogin, hbetween]
    simp
  · refine (ih lastError _).after [sent, login] (hok _ hlogin) (by simp [hbetween]) ?_
    intro rest hcourse
    rw [isReady, usableToken_fresh, hlogs] at hcourse
    by_cases hlasts : tokenMargin < settings.tokenLifetime.toNat
    · rw [if_pos hlasts] at hcourse
      exact .renewed hsent hagain hform hcourse
    · rw [if_neg hlasts] at hcourse
      cases hcourse with
      | stopped => exact .refused hsent hagain hform
      | loginFailed hlast => exact .outlived hsent hagain hform hlast
      | loggedIn _ hlasts' _ => exact absurd hlasts' hlasts

/-- One attempt of a client that is ready. -/
theorem TakesCourse.succ_of_isReady (ih : TakesCourse settings transport read ask left)
    (hask : ask.body ≠ some (loginForm settings)) (hready : isReady settings link.client = true) :
    Notes (attempts settings transport.noted read ask (left + 1) lastError) link
      (Course settings (left + 1) true) := by
  obtain ⟨token, hsteady⟩ := exists_steady hready
  have hon : (attempts settings transport.noted read ask (left + 1) lastError).on link = _ :=
    attempts_on_succ
  rw [hsteady.ensureToken_on] at hon
  dsimp only at hon
  rcases exchange_noted transport ask.method (addressOn settings link.client ask.path) token
    ask.body link with ⟨e, hunsent⟩ | ⟨sent, network, -, hbody, hexchange⟩
  · rw [hunsent] at hon
    refine (ih (some e) _).after [] hon (by simp) fun rest hcourse => .unsent ?_
    exact hready ▸ hcourse
  · have hsent : ¬ IsLogin settings sent := by
      rw [IsLogin, hbody]
      exact hask
    rw [hexchange] at hon
    cases hanswer : sent.answer with
    | none =>
      rw [hanswer] at hon
      refine (ih _ _).after [sent] hon rfl fun rest hcourse => ?_
      exact .silent hsent hanswer (hready ▸ hcourse)
    | some response =>
      rw [hanswer] at hon
      dsimp only [answered] at hon
      by_cases hrefused : response.status = 401 ∧ settings.logsIn = true
      · rw [if_pos hrefused] at hon
        have hname : settings.username ≠ "" := by
          simpa [ClientSettings.logsIn] using hrefused.2
        have hagain : Resendable settings sent := .inr ⟨hname, response, hanswer, hrefused.1⟩
        refine ih.refused hrefused.2 hsent hagain lastError
          ⟨{ link.client with token := none }, (network, link.network.2 ++ [sent])⟩ rfl
          (fun e last hlogin => ?_) fun last hlogin => ?_
        · rw [hon, hlogin]
        · rw [hon, hlogin]
      · rw [if_neg hrefused] at hon
        exact ⟨[sent], by rw [hon], .settled hsent⟩

/-- One attempt of a client that has to log in first. -/
theorem TakesCourse.succ_of_not_isReady (ih : TakesCourse settings transport read ask left)
    (hask : ask.body ≠ some (loginForm settings)) (hready : isReady settings link.client = false) :
    Notes (attempts settings transport.noted read ask (left + 1) lastError) link
      (Course settings (left + 1) false) := by
  have hlogs : settings.logsIn = true := by
    by_contra hnot
    simp [isReady, hnot] at hready
  have hnone : usableToken link.client = none := by simpa [isReady, hlogs] using hready
  have htoken : (ensureToken settings transport.noted).on link = _ := ensureToken_on_eq
  have hon : (attempts settings transport.noted read ask (left + 1) lastError).on link = _ :=
    attempts_on_succ
  rw [if_neg (by simp [hlogs]), hnone] at htoken
  dsimp only at htoken
  rcases login_noted settings transport link with
    ⟨e, hlogin⟩ | ⟨login, network, hform, ⟨e, hlogin⟩ | ⟨text, hlogin⟩⟩
  · rw [htoken, hlogin] at hon
    exact ⟨[], by simp [hon], .stopped⟩
  · rw [htoken, hlogin] at hon
    exact ⟨[login], by rw [hon], .loginFailed hform⟩
  · have hfresh := usableToken_fresh link.client text settings.tokenLifetime.toNat
    by_cases hlasts : tokenMargin < settings.tokenLifetime.toNat
    · -- From here on it is a client that has had its token from the start.
      rw [if_pos hlasts] at hfresh
      refine Notes.after [login] (ih.succ_of_isReady hask ?_)
        (attempts_on_loggedIn hlogs hnone hlogin hfresh rfl) rfl fun rest hcourse => ?_
      · simp [isReady, hfresh]
      · exact .loggedIn hform hlasts hcourse
    · rw [if_neg hlasts] at hfresh
      rw [hlogin] at htoken
      dsimp only at htoken
      rw [hfresh] at htoken
      rw [htoken] at hon
      exact ⟨[login], by rw [hon], .loginFailed hform⟩

end

/-- **What a call sends is such a course**, whatever the servers answer. -/
theorem takesCourse (transport : Transport τ) (read : Json → Option α) {ask : Ask}
    (hask : ask.body ≠ some (loginForm settings)) (left : Nat) :
    TakesCourse settings transport read ask left := by
  induction left with
  | zero =>
    intro lastError link
    exact ⟨[], by simp [attempts_on_zero], .stopped⟩
  | succ left ih =>
    intro lastError link
    cases hready : isReady settings link.client with
    | false => exact ih.succ_of_not_isReady hask hready
    | true => exact ih.succ_of_isReady hask hready

end Client

namespace Remote

open Client

variable {τ α : Type}

/-- All that one call sends, with the answers. -/
def sentBy (settings : ClientSettings) (transport : Transport τ) (read : Json → Option α)
    (ask : Ask) (client : ClientState) (network : τ) : List Sent :=
  ((Client.request settings transport.noted read ask).on ⟨client, (network, [])⟩).2.network.2

/-- **A call sends no more requests than there are servers, and one login more at most.** Something
is sent after a request only if that was not answered, or was turned down while the client can log
in; any other answer is the end. No time passes during a call, so a token that may be used at its
beginning may be used until it is turned down. -/
theorem resending_bounded (settings : ClientSettings) (transport : Transport τ) (call : StoreCall)
    (read : Json → Option α) (client : ClientState) (network : τ) :
    requestCount settings (sentBy settings transport read (askOf call) client network)
        ≤ settings.servers.length
      ∧ loginCount settings (sentBy settings transport read (askOf call) client network)
        ≤ settings.servers.length + 1
      ∧ ∀ before sent after,
        sentBy settings transport read (askOf call) client network = before ++ sent :: after →
        ¬ IsLogin settings sent → after ≠ [] →
          sent.answer = none ∨ settings.username ≠ "" ∧ ∃ response,
            sent.answer = some response ∧ response.status = 401 := by
  obtain ⟨log, hlog, hcourse⟩ := takesCourse transport read (body_askOf_ne settings call)
    settings.servers.length none ⟨client, (network, [])⟩
  have hsent : sentBy settings transport read (askOf call) client network = log := hlog
  have hlogins : loginCount settings log
      ≤ settings.servers.length + (!isReady settings client).toNat := hcourse.loginCount_le
  have hone := Bool.toNat_le (!isReady settings client)
  rw [hsent]
  exact ⟨hcourse.requestCount_le, by omega, hcourse.settledLast⟩

end Remote
end Whitelist
