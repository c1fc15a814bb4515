import Whitelist.Fault
import Whitelist.Json.Printer
import Whitelist.Json.Reader
import Whitelist.Remote.Transport
import Whitelist.Text.Cut
import Whitelist.Wire.Envelope

/-!
# The client

A client knows a list of servers and stays with one of them until it does not answer; then it goes
on to the next, around the list. Where a user name is set it logs in before its first request and
sends the token it was given with every request. A token that is about to run out is not used any
more, and one that a server turns down is thrown away.

## What is here

* `ClientSettings`, `Token`, `ClientState`, `Link` — what a client is set up with, what it
  remembers, and that together with the state of the network.
* `ClientSettings.FitsClock` — the lifetimes of tokens that a login does not stop at.
* `ClientError` — why a call brought nothing, with `ClientError.fault`.
* `login`, `ensureToken` — sessions.
* `attempts`, `request` — one call: at most as many requests as there are servers.
* `connect` — a new client.
-/

set_option autoImplicit false
namespace Whitelist

/-! ## Settings and state

A length of time that is set is a word of 64 bits. It stands for its number where a time is counted,
and a number that is set stands for its word. -/

instance secondsOfWord : Coe UInt64 Nat := ⟨UInt64.toNat⟩

instance wordOfSeconds : Coe Nat UInt64 := ⟨UInt64.ofNat⟩

/-- What a client is set up with. -/
structure ClientSettings where
  servers : List String := ["http://127.0.0.1:8080"]
  /-- Without a user name the client never logs in. -/
  username : String := ""
  password : String := ""
  contextPath : String := ""
  loginPath : String := "/api/user/login"
  /-- How long a token lasts, in seconds. See `FitsClock` for those that no login survives. -/
  tokenLifetime : UInt64 := 18000
  deriving DecidableEq, Repr

/-- Whether the clock reaches to the end of a token that is given now. It counts seconds in a signed
word of 64 bits, and when a login has brought a token, the end of the token is worked out before the
token is kept: where it lies beyond the clock, the program stops right there, and nothing comes of
the call. What is stated of calls that go on after a login is about lifetimes that fit. -/
def ClientSettings.FitsClock (settings : ClientSettings) (now : Nat) : Prop :=
  now + settings.tokenLifetime.toNat ≤ Int64.maxValue.toNatClampNeg

instance (settings : ClientSettings) (now : Nat) : Decidable (settings.FitsClock now) :=
  inferInstanceAs (Decidable (_ ≤ _))

/-- Whether the client logs in. -/
def ClientSettings.logsIn (settings : ClientSettings) : Bool := settings.username ≠ ""

/-- A session token and the seconds that it still lasts. -/
structure Token where
  text : String
  secondsLeft : Nat
  deriving DecidableEq, Repr

/-- A token is not used in its last five minutes. -/
def tokenMargin : Nat := 300

/-- Whether the token may still be used. -/
def Token.isUsable (token : Token) : Bool := tokenMargin < token.secondsLeft

/-- What a client remembers: the place of its server in the list, and its token. -/
structure ClientState where
  server : Nat := 0
  token : Option Token := none
  deriving DecidableEq, Repr

/-- What the client remembers after so many seconds. -/
def ClientState.elapse (state : ClientState) (seconds : Nat) : ClientState :=
  { state with token := state.token.map fun t => { t with secondsLeft := t.secondsLeft - seconds } }

/-- A client and the network that its requests go through. -/
structure Link (τ : Type) where
  client : ClientState := {}
  network : τ

/-! ## Errors -/

/-- Why a call brought nothing. -/
inductive ClientError where
  | http (error : HttpError)
  | authFailed (reason : String)
  /-- The server answered, but not with success. -/
  | server (code : Int32) (text : String)
  | other (reason : String)
  deriving DecidableEq, Repr

namespace ClientError

/-- The text shown for an error. -/
def message : ClientError → String
  | http error => s!"http error: {error.message}"
  | authFailed reason => s!"auth failed: {reason}"
  | server code text => s!"server returned error: code={code}, message={text}"
  | other reason => reason

/-- The error as a fault. Servers tell no more than that something went wrong; only what is missing
is told apart. -/
def fault : ClientError → Fault
  | server code text => if code = 404 then .notFound text else .transport (server code text).message
  | e => .transport e.message

end ClientError

namespace Client

variable {τ : Type} (settings : ClientSettings) (transport : Transport τ)

/-- Something done over a link that answers or fails; the link may have changed either way. -/
abbrev Dialog (τ α : Type) : Type := ExceptT ClientError (StateM (Link τ)) α

/-! ## Addresses -/

/-- The context path with one slash in front and none behind, or nothing. -/
def contextPart (contextPath : String) : List Char :=
  let path := Text.dropTrailing '/' (Text.dropLeading '/' contextPath.toList)
  if path = [] then [] else '/' :: path

/-- The address of a path on a server. -/
def address (server contextPath path : String) : String :=
  .ofList (Text.dropTrailing '/' server.toList ++ contextPart contextPath ++ path.toList)

/-- The address of a path on the server that the client is with. -/
def addressOn (state : ClientState) (path : String) : String :=
  address (settings.servers.getD state.server "") settings.contextPath path

/-- What the client remembers after going on to the next server. -/
def nextServer (state : ClientState) : ClientState :=
  { state with server := (state.server + 1) % settings.servers.length }

/-! ## One request -/

/-- The answer to one request, with the request as it was sent. -/
def exchange (method : Method) (address : String) (token : Option String) (body : Option Json) :
    StateM (Link τ) (Except HttpError (Request × Response)) := do
  match Request.prepare method address token body with
  | .error e => return .error e
  | .ok request =>
    let link ← get
    let (answer, network) := (transport.send request).run link.network
    set { link with network }
    match answer with
    | some response => return .ok (request, response)
    | none => return .error (.unanswered request.url)

/-- The content of a body, if it is JSON of the kind that is asked for. -/
def decode {α : Type} (read : Json → Option α) (request : Request) (response : Response) :
    Except ClientError α :=
  match (Json.ofText? response.body).bind read with
  | some a => .ok a
  | none => .error (.http (.undecodable request.url))

/-- The content of an answer; every status but success is an error. -/
def accept {α : Type} (read : Json → Option α) (request : Request) (response : Response) :
    Except ClientError α :=
  if response.isSuccess then decode read request response
  else .error (.server (.ofNat response.status) response.body)

/-! ## Sessions -/

/-- The form that a login sends. -/
def loginForm : Json :=
  .obj [("userId", .str settings.username), ("password", .str settings.password)]

/-- The token that the answer to a login gives. -/
def tokenOf (request : Request) (response : Response) : Except ClientError String :=
  if response.isSuccess then do
    let envelope ← decode (Envelope.ofJson? Wire.asString) request response
    match envelope.content with
    | some token =>
      if envelope.isSuccess ∧ token ≠ "" then .ok token else .error (.authFailed envelope.text)
    | none => .error (.authFailed envelope.text)
  else .error (.authFailed s!"login returned status {statusText response.status}")

/-- The link with another state of its client. -/
def setClient (change : ClientState → ClientState) : Dialog τ Unit :=
  modify fun link => { link with client := change link.client }

/-- Log in on the server that the client is with, and keep the token, whose lifetime has to fit the
clock (`ClientSettings.FitsClock`). -/
def login : Dialog τ Unit := do
  let link ← get
  let address := addressOn settings link.client settings.loginPath
  match ← exchange transport .post address none (some (loginForm settings)) with
  | .error e => throw (.http e)
  | .ok (request, response) =>
    let text ← (tokenOf request response : Except ClientError String)
    setClient fun state => { state with token := some ⟨text, settings.tokenLifetime.toNat⟩ }

/-- The token that may still be used. -/
def usableToken (state : ClientState) : Option String :=
  (state.token.filter Token.isUsable).map (·.text)

/-- A login brought no token that may be used. -/
def noToken : ClientError := .authFailed "no token after authentication"

/-- The token to send: none where the client does not log in, the one it has while that may be used,
and otherwise a new one. -/
def ensureToken : Dialog τ (Option String) := do
  if !settings.logsIn then return none
  match usableToken (← get).client with
  | some token => return some token
  | none =>
    login settings transport
    match usableToken (← get).client with
    | some token => return some token
    | none => throw noToken

/-! ## Calls -/

/-- What a call asks for. -/
structure Ask where
  method : Method
  path : String
  body : Option Json := none
  deriving Repr

/-- No attempt is left, and none has failed on the way. -/
def allFailed : ClientError := .other "All servers failed"

/-- One call with so many attempts left. An attempt that is not answered sends the client on to the
next server; one that is turned down for its token makes it log in again. Any other answer settles
the call. -/
def attempts {α : Type} (read : Json → Option α) (ask : Ask) :
    Nat → Option HttpError → Dialog τ α
  | 0, lastError => throw ((lastError.map .http).getD allFailed)
  | left + 1, lastError => do
    let address := addressOn settings (← get).client ask.path
    let token ← ensureToken settings transport
    match ← exchange transport ask.method address token ask.body with
    | .error e =>
      setClient (nextServer settings)
      attempts read ask left (some e)
    | .ok (request, response) =>
      if response.status = 401 ∧ settings.logsIn then
        setClient fun state => { state with token := none }
        login settings transport
        attempts read ask left lastError
      else (accept read request response : Except ClientError α)

/-- One call: as many attempts as there are servers. -/
def request {α : Type} (read : Json → Option α) (ask : Ask) : Dialog τ α :=
  attempts settings transport read ask settings.servers.length none

/-! ## New clients -/

/-- A client needs a server. -/
def serverRequired : ClientError := .other "at least one server address is required"

/-- A new client that has not logged in. -/
def connect (network : τ) : Except ClientError (Link τ) :=
  if settings.servers = [] then .error serverRequired else .ok { network }

/-- A new client that has tried to log in, if it is to log in at all. That it failed is no error:
it will try again. -/
def connectAndLogin (network : τ) : Except ClientError (Link τ) := do
  let link ← connect settings network
  if settings.logsIn then return ((login settings transport).run link).2 else return link

end Client
end Whitelist
