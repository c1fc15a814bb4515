import Whitelist.Proofs.Page
import Whitelist.Proofs.Remote.Server

/-!
# A remote store and the store behind it

A client of a server that keeps a store is answered as the caller of the server is answered by the
store itself, and what it does to the store is the same. Requests and answers go over the network as
texts, and a page is made again from its rows and the total.

## What is here

* `toPage_paginate` — a page is made again from its rows and the total.
* `CanSend` — one of the servers has an address that requests can be sent to.
* `attempts_on`, `call_on` — a client tries its servers in turn until it can send its request.
* `store_agrees` — a call over the network is answered like a call to the store.

Three round trips are put together here: the call into a request and back (`callOf?_of_prepare`),
the answer into a text and back (`ofText?_successText`), and a page into rows with a total and back
(`toPage_paginate`). Around them is the loop over the servers. It is simple here, because a client
without a user name sends nothing but its request, and every server that the request can be sent to
answers from the same store.

The theorem covers calls that succeed. Of a refusal a client is told less than the caller of the
store, see `Proofs.Remote.Faults`.
-/

set_option autoImplicit false
namespace Whitelist

/-! ## Pages

The wire has the rows of a page and the total, the size and the number being known to the client.
What has to be shown is that the client comes to the same number of pages. -/

/-- Where the number of rows is zero as a word, so is the number of rows on each page. -/
theorem ofNat_length_paginate {α : Type} {items : List α} {number size : UInt64}
    (h : UInt64.ofNat items.length = 0) :
    UInt64.ofNat (paginate items number size).items.length = 0 := by
  rw [paginate, h]
  split
  · exact h
  · -- No page begins or ends behind row 0.
    have hnone : (pageBounds 0 (max number 1) size).2.toNat = 0 :=
      toNat_pageBounds.2.trans (Nat.min_zero _)
    show UInt64.ofNat (List.take ((pageBounds 0 (max number 1) size).2.toNat - _) _).length = 0
    rw [hnone, Nat.zero_sub]
    rfl

/-- **A page is made again from its rows and the total.** -/
theorem toPage_paginate {α : Type} (items : List α) {number : UInt64} (hnumber : 1 ≤ number)
    (size : UInt64) :
    Listing.toPage ⟨(paginate items number size).items, (paginate items number size).totalCount⟩
      number size = paginate items number size := by
  have hmax : max number 1 = number := UInt64.toNat_inj.mp <| by
    rw [UInt64.toNat_max]
    exact Nat.max_eq_left (UInt64.le_iff_toNat_le.mp hnumber)
  have htotal : (if UInt64.ofNat items.length = 0 then
      UInt64.ofNat (paginate items number size).items.length else .ofNat items.length)
      = UInt64.ofNat items.length := by
    split
    · rename_i h
      rw [ofNat_length_paginate h, h]
    · rfl
  rw [Listing.toPage, paginate_totalCount]
  dsimp only
  rw [htotal, paginate, hmax]
  split <;> rfl

/-! ## Servers in turn

`attempts_on` is an induction on how many servers lie ahead of the first that can be sent to, with
as many attempts left at least. -/

namespace Client

variable {τ α : Type} {settings : ClientSettings} {transport : Transport τ} {ask : Ask}
  {read : Json → Option α}

variable (settings ask) in
/-- What a client without a token sends to a server. -/
def prepared (server : String) : Except HttpError Request :=
  Request.prepare ask.method (address server settings.contextPath ask.path) none ask.body

variable (settings ask) in
/-- One of the servers has an address that the request can be sent to. -/
def CanSend : Prop := ∃ server ∈ settings.servers, (prepared settings ask server).isOk = true

instance : Decidable (CanSend settings ask) := inferInstanceAs (Decidable (∃ server ∈ _, _))

/-- Whichever of the servers the request is sent to, what is read from the answer is good. -/
structure Answers (settings : ClientSettings) (transport : Transport τ) (read : Json → Option α)
    (ask : Ask) (network : τ) (good : α → Prop) (later : τ) : Prop where
  answer : ∀ server request, prepared settings ask server = .ok request →
    ∃ response a, (transport.send request).run network = (some response, later)
      ∧ accept read request response = .ok a ∧ good a

/-- A client that does not log in goes from server to server until it can send its request, and then
has its answer. -/
theorem attempts_on (hlogs : settings.logsIn = false) {network later : τ} {good : α → Prop}
    (hanswers : Answers settings transport read ask network good later) (left : Nat)
    (lastError : Option HttpError) (client : ClientState)
    (hserver : client.server < settings.servers.length)
    (hsend : ∃ ahead < left, (prepared settings ask
      (settings.servers.getD ((client.server + ahead) % settings.servers.length) "")).isOk = true) :
    ∃ client' a, client'.server < settings.servers.length ∧ good a
      ∧ (attempts settings transport read ask left lastError).on ⟨client, network⟩
        = (.ok a, ⟨client', later⟩) := by
  -- One attempt brings the client one server nearer to the one that is so far ahead.
  induction left generalizing lastError client with
  | zero =>
    obtain ⟨ahead, hahead, -⟩ := hsend
    cases hahead
  | succ left ih =>
    have htoken := @ensureToken_on_of_not_logsIn τ settings transport ⟨client, network⟩ hlogs
    cases hprepared : prepared settings ask (settings.servers.getD client.server "") with
    | ok request =>
      obtain ⟨response, a, hsent, haccept, hgood⟩ := hanswers.answer _ request hprepared
      refine ⟨client, a, hserver, hgood, ?_⟩
      rw [attempts_on_answered htoken hprepared hsent (by simp [hlogs]), haccept]
    | error e =>
      -- This server is not the one that the request can be sent to, so that one is further on.
      obtain ⟨_ | ahead, hahead, hok⟩ := hsend
      · rw [Nat.add_zero, Nat.mod_eq_of_lt hserver, hprepared] at hok
        cases hok
      have hnext : (nextServer settings client).server < settings.servers.length :=
        Nat.mod_lt _ (Nat.zero_lt_of_lt hserver)
      rw [attempts_on_unprepared htoken hprepared]
      refine ih (some e) (nextServer settings client) hnext
        ⟨ahead, Nat.lt_of_succ_lt_succ hahead, ?_⟩
      rw [nextServer, Nat.mod_add_mod, Nat.add_assoc, Nat.add_comm 1]
      exact hok

/-- Somewhere around the list a client comes to the server that it can send its request to. -/
theorem CanSend.ahead (h : CanSend settings ask) {server : Nat}
    (hserver : server < settings.servers.length) :
    ∃ ahead < settings.servers.length, (prepared settings ask
      (settings.servers.getD ((server + ahead) % settings.servers.length) "")).isOk = true := by
  obtain ⟨text, htext, hok⟩ := h
  obtain ⟨i, hi, rfl⟩ := List.mem_iff_getElem.mp htext
  refine ⟨(i + (settings.servers.length - server)) % settings.servers.length,
    Nat.mod_lt _ (Nat.zero_lt_of_lt hi), ?_⟩
  have hround : (server + (i + (settings.servers.length - server)) % settings.servers.length)
      % settings.servers.length = i := by
    rw [Nat.add_mod_mod, show server + (i + (settings.servers.length - server))
      = i + settings.servers.length by omega, Nat.add_mod_right, Nat.mod_eq_of_lt hi]
  rw [hround, List.getD_eq_getElem?_getD, List.getElem?_eq_getElem hi, Option.getD_some]
  exact hok

end Client

/-! ## One call

Page 0 is left out: the store takes it for page 1, and a page that is made again keeps the number
that was asked for. -/

namespace Remote

open Client Wire

variable {settings : ClientSettings} {caller : Caller} {transport : Transport MemoryStore}
  {call : StoreCall} {store later : MemoryStore} {value : call.Answer} {client : ClientState}

/-- What a request for a call is answered with, as the client reads it. -/
theorem Serves.answers_askOf {α : Type} {read : Json → Option α} {content : Option α}
    (hserves : Serves caller transport)
    (hanswer : ((MemoryStore.session caller).answer call).on store = (.ok value, later))
    (hread : nullable read (contentFor call value) = some content) :
    Answers settings transport (Envelope.ofJson? read) (askOf call) store
      (fun envelope => contentOf envelope = .ok content) later where
  answer server request hprepared := by
    obtain ⟨response, message, hsent, hlow, hhigh, hbody⟩ :=
      hserves.answers request call store later value (callOf?_of_prepare hprepared) hanswer
    refine ⟨response, ⟨Envelope.successCode, message, content⟩, hsent, ?_, rfl⟩
    have hsuccess : response.isSuccess = true := by simp [Response.isSuccess, hlow, hhigh]
    rw [accept, if_pos hsuccess, decode, hbody,
      ofText?_successText hread (exact_contentFor call value)]

/-- A client that can send its request has the content that the call is answered with. -/
theorem call_on {α : Type} {read : Json → Option α} {content : Option α}
    (hserves : Serves caller transport) (hlogs : settings.logsIn = false)
    (hserver : client.server < settings.servers.length) (hsend : CanSend settings (askOf call))
    (hanswer : ((MemoryStore.session caller).answer call).on store = (.ok value, later))
    (hread : nullable read (contentFor call value) = some content) :
    ∃ client', client'.server < settings.servers.length
      ∧ (Remote.call settings transport read (askOf call)).on ⟨client, store⟩
        = (.ok content, ⟨client', later⟩) := by
  obtain ⟨client', envelope, hserver', hcontent, hon⟩ := attempts_on hlogs
    (hserves.answers_askOf hanswer hread) _ none client hserver (hsend.ahead hserver)
  refine ⟨client', hserver', ?_⟩
  rw [Remote.call, Dialog.on_bind, Client.request, hon]
  dsimp only
  rw [hcontent, Dialog.on_liftM]

/-- The page that a call wants, if it wants one, is counted from 1. -/
def WantsPage : StoreCall → Prop
  | .listRecords _ page _ | .listGroups _ page _ => 1 ≤ page
  | _ => True

/-- The pages of a store are pages of lists. -/
theorem toPage_listRecords {query : RecordQuery} {number size : UInt64} (hnumber : 1 ≤ number)
    {page : Page RuleRecord}
    (h : (MemoryStore.listRecords caller query number size).on store = (.ok page, later)) :
    Listing.toPage ⟨page.items, page.totalCount⟩ number size = page := by
  have hanswer := MemoryStore.listRecords_answer caller store query number size
  rw [h] at hanswer
  obtain rfl := Except.ok.inj hanswer
  exact toPage_paginate _ hnumber size

/-- A page of groups, made again. -/
theorem toPage_listGroups {query : GroupQuery} {number size : UInt64} (hnumber : 1 ≤ number)
    {page : Page RuleGroup}
    (h : (MemoryStore.listGroups caller query number size).on store = (.ok page, later)) :
    Listing.toPage ⟨page.items, page.totalCount⟩ number size = page := by
  rw [MemoryStore.listGroups_on] at h
  cases h
  exact toPage_paginate _ hnumber size

/-- **A call over the network is answered like a call to the store**, and leaves the store as that
call does. A client without a user name puts the call to a server that keeps the store and answers
for the caller; from whichever of its servers the client starts, one of them can be sent requests,
and the call succeeds where it is put to the store itself. -/
theorem store_agrees (settings : ClientSettings) (caller : Caller)
    (transport : Transport MemoryStore) (client : ClientState) (store later : MemoryStore)
    (call : StoreCall) (value : call.Answer)
    (hserves : Serves caller transport) (hlogs : settings.logsIn = false)
    (hserver : client.server < settings.servers.length) (hsend : CanSend settings (askOf call))
    (hpage : WantsPage call)
    (hanswer : ((MemoryStore.session caller).answer call).on store = (.ok value, later)) :
    ∃ client', client'.server < settings.servers.length
      ∧ ((Remote.store settings transport).answer call).on ⟨client, store⟩
        = (.ok value, ⟨client', later⟩) := by
  have reads {α : Type} {read : Json → Option α} {content : Option α}
      (hread : nullable read (contentFor call value) = some content) :=
    call_on hserves hlogs hserver hsend hanswer hread
  cases call with
  | releaseLock id | setEnabled id enabled | deleteRecord id =>
    obtain ⟨client', hserver', hon⟩ := reads (show nullable anyValue .null = some none from rfl)
    exact ⟨client', hserver', attempt_call_on hon rfl⟩
  | getRecord id =>
    obtain ⟨client', hserver', hon⟩ :=
      reads (nullable_write RuleRecord.toJson RuleRecord.ofJson? value)
    exact ⟨client', hserver', attempt_call_on hon rfl⟩
  | operators =>
    obtain ⟨client', hserver', hon⟩ :=
      reads (nullable_write (ofList Operator.toJson) (asList Operator.ofJson?) value)
    exact ⟨client', hserver', attempt_call_on hon rfl⟩
  | saveRecord form =>
    obtain ⟨client', hserver', hon⟩ := reads (congrArg (·.map some) (effectId?_eq value))
    exact ⟨client', hserver', attempt_call_on hon rfl⟩
  | listRecords query page size =>
    obtain ⟨client', hserver', hon⟩ := reads (nullable_write (Listing.toJson RuleRecord.toJson)
      (Listing.ofRowsOrJson? RuleRecord.ofJson?) ⟨value.items, value.totalCount⟩)
    refine ⟨client', hserver', attempt_call_on hon ?_⟩
    rw [pageIn, toPage_listRecords hpage hanswer, Dialog.on_pure]
  | listGroups query page size =>
    obtain ⟨client', hserver', hon⟩ := reads (nullable_write (Listing.toJson RuleGroup.toJson)
      (Listing.ofRowsOrJson? RuleGroup.ofJson?) ⟨value.items, value.totalCount⟩)
    refine ⟨client', hserver', attempt_call_on hon ?_⟩
    rw [pageIn, toPage_listGroups hpage hanswer, Dialog.on_pure]
  | grabLock id =>
    have hany : nullable anyValue value.toJson = some (some value.toJson.collapse) := by
      have hreadable : value.toJson.readable = true := (Writes.exact value).readable
      show (anyValue value.toJson).map some = _
      rw [anyValue, if_pos hreadable, Option.map_some]
    obtain ⟨client', hserver', hon⟩ := reads hany
    refine ⟨client', hserver', ?_⟩
    have hgrab : (attempt (grab settings transport id)).on ⟨client, store⟩
        = (.ok (some value), ⟨client', later⟩) :=
      attempt_call_on hon (by rw [statusIn_toJson, Dialog.on_pure])
    show (grabLock settings transport id).on _ = _
    rw [grabLock, Attempt.on_bind_ok hgrab]
    rfl

open MemoryStore (bob drafted draftedRule)

/-- Two servers, of which only the second has an address. -/
def secondOfTwo : ClientSettings := { servers := ["", "http://[::1]"] }

/-- The page that Bob finds Alice's record on. -/
def bobsPage : Page RuleRecord :=
  .new 1 1 20 [MemoryStore.record {} draftedRule (.heldByOther (some "Alice"))]

/-- Bob lists Alice's record over the network. -/
theorem store_agrees_listed :
    Serves bob (serving bob) ∧ secondOfTwo.logsIn = false
      ∧ ({} : ClientState).server < secondOfTwo.servers.length
      ∧ CanSend secondOfTwo (askOf (.listRecords {} 1 20)) ∧ WantsPage (.listRecords {} 1 20)
      ∧ ∃ later, ((MemoryStore.session bob).answer (.listRecords {} 1 20)).on
          (drafted .grab).store = (.ok bobsPage, later)
        ∧ ∃ client', ((Remote.store secondOfTwo (serving bob)).answer
            (.listRecords {} 1 20)).on ⟨{}, (drafted .grab).store⟩
          = (.ok bobsPage, ⟨client', later⟩) := by
  have hserves := serves_serving bob
  have hsend : CanSend secondOfTwo (askOf (.listRecords {} 1 20)) := by decide +kernel
  have hpage : WantsPage (.listRecords {} 1 20) := UInt64.le_refl 1
  have hanswer : ((MemoryStore.session bob).answer (.listRecords {} 1 20)).on
      (drafted .grab).store = (.ok bobsPage,
        (((MemoryStore.session bob).answer (.listRecords {} 1 20)).on
          (drafted .grab).store).2) := Prod.ext (by decide) rfl
  have hserver : ({} : ClientState).server < secondOfTwo.servers.length := Nat.two_pos
  obtain ⟨client', -, hon⟩ := store_agrees secondOfTwo bob (serving bob) {}
    (drafted .grab).store _ (.listRecords {} 1 20) bobsPage hserves rfl hserver hsend
    hpage hanswer
  exact ⟨hserves, rfl, hserver, hsend, hpage, _, hanswer, client', hon⟩

end Remote
end Whitelist
