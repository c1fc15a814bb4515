import Whitelist.Json.Basic
import Whitelist.Remote.Url

/-!
# Requests and answers

A request is prepared from an address as text; one that cannot be requested fails before anything is
sent. What is sent is answered with a status and a body, or not at all.

## What is here

* `Request`, `Response`, `HttpError` — what goes out, what comes back, and why nothing does.
* `Request.prepare` — a request, if its address and its token can be sent.
* `Transport` — what carries requests, with a state of its own.
* `Transport.unreachable` — no server can be reached.
* `Transport.scripted` — servers that answer from a script and note what they receive.
* `statusText` — a status with the phrase that goes with it.
-/

set_option autoImplicit false
namespace Whitelist

/-- How a request is made. -/
inductive Method where
  | get
  | post
  deriving DecidableEq, Repr

/-- The name of a method. -/
def Method.name : Method → String
  | get => "GET"
  | post => "POST"

/-- A request on its way. The address is in its normal form. -/
structure Request where
  method : Method
  url : String
  token : Option String := none
  body : Option Json := none
  deriving Repr

/-- An answer of a server. -/
structure Response where
  status : Nat
  body : String
  deriving DecidableEq, Repr

/-- Why a request brought nothing. -/
inductive HttpError where
  /-- It could not be prepared; the address is known where it could be taken apart. -/
  | unprepared (url : Option String)
  /-- There was no answer. -/
  | unanswered (url : String)
  /-- The body of the answer was not what was asked for. -/
  | undecodable (url : String)
  deriving DecidableEq, Repr

/-- The text shown for an error. -/
def HttpError.message : HttpError → String
  | unprepared none => "builder error"
  | unprepared (some url) => s!"builder error for url ({url})"
  | unanswered url => s!"error sending request for url ({url})"
  | undecodable url => s!"error decoding response body for url ({url})"

/-- Whether a character may stand in a header. -/
def isHeaderChar (c : Char) : Bool := c = '\t' || (0x20 ≤ c.toNat && c.toNat ≠ 0x7F)

/-- Whether a token can be sent. -/
def isHeaderText (token : Option String) : Bool :=
  match token with
  | some s => s.toList.all isHeaderChar
  | none => true

/-- A request to an address, if the address has a host and a web scheme and the token can be sent.
The user that an address tells is not part of the address of the request. -/
def Request.prepare (method : Method) (address : String) (token : Option String)
    (body : Option Json) : Except HttpError Request :=
  match Url.ofText? address with
  | none => .error (.unprepared none)
  | some url =>
    if !url.hasHost then .error (.unprepared (some url.text))
    else if !isHeaderText token then .error (.unprepared none)
    else
      let url := url.withoutUser
      if !url.isWeb || !url.canBeSent then .error (.unprepared (some url.text))
      else .ok { method, url := url.text, token, body }

/-- What carries requests. -/
structure Transport (τ : Type) where
  /-- The answer to a request, if there is one, and the state after it. -/
  send : Request → StateM τ (Option Response)

namespace Transport

/-- No server can be reached, so nothing arrives anywhere. -/
def unreachable {τ : Type} : Transport τ := ⟨fun _ => pure none⟩

/-- The answers that servers will give, in order whatever they are asked, and the requests that they
have received. No answer means that the connection is closed without one. -/
structure Script where
  answers : List (Option Response) := []
  received : List Request := []
  deriving Repr

/-- The answer after the last one of a script. -/
def scriptExhausted : Response := ⟨599, "script exhausted"⟩

/-- Servers that answer from a script. -/
def scripted : Transport Script where
  send request script :=
    (script.answers.headD (some scriptExhausted),
      { answers := script.answers.tail, received := script.received ++ [request] })

end Transport

/-! ## Statuses -/

/-- Whether the status means success. -/
def Response.isSuccess (response : Response) : Bool :=
  200 ≤ response.status && response.status < 300

/-- The phrases of the statuses that have one. -/
def reasonPhrases : List (Nat × String) := [
  (100, "Continue"), (101, "Switching Protocols"), (102, "Processing"), (200, "OK"),
  (201, "Created"), (202, "Accepted"), (203, "Non Authoritative Information"),
  (204, "No Content"), (205, "Reset Content"), (206, "Partial Content"), (207, "Multi-Status"),
  (208, "Already Reported"), (226, "IM Used"), (300, "Multiple Choices"),
  (301, "Moved Permanently"), (302, "Found"), (303, "See Other"), (304, "Not Modified"),
  (305, "Use Proxy"), (307, "Temporary Redirect"), (308, "Permanent Redirect"),
  (400, "Bad Request"), (401, "Unauthorized"), (402, "Payment Required"), (403, "Forbidden"),
  (404, "Not Found"), (405, "Method Not Allowed"), (406, "Not Acceptable"),
  (407, "Proxy Authentication Required"), (408, "Request Timeout"), (409, "Conflict"),
  (410, "Gone"), (411, "Length Required"), (412, "Precondition Failed"),
  (413, "Payload Too Large"), (414, "URI Too Long"), (415, "Unsupported Media Type"),
  (416, "Range Not Satisfiable"), (417, "Expectation Failed"), (418, "I'm a teapot"),
  (421, "Misdirected Request"), (422, "Unprocessable Entity"), (423, "Locked"),
  (424, "Failed Dependency"), (425, "Too Early"), (426, "Upgrade Required"),
  (428, "Precondition Required"), (429, "Too Many Requests"),
  (431, "Request Header Fields Too Large"), (451, "Unavailable For Legal Reasons"),
  (500, "Internal Server Error"), (501, "Not Implemented"), (502, "Bad Gateway"),
  (503, "Service Unavailable"), (504, "Gateway Timeout"), (505, "HTTP Version Not Supported"),
  (506, "Variant Also Negotiates"), (507, "Insufficient Storage"), (508, "Loop Detected"),
  (510, "Not Extended"), (511, "Network Authentication Required")]

/-- A status with its phrase. -/
def statusText (status : Nat) : String :=
  let phrase := (reasonPhrases.lookup status).getD "<unknown status code>"
  s!"{status} {phrase}"

end Whitelist
