import Whitelist.Fault
import Whitelist.Wire.Layout

/-!
# Envelopes

Every answer of the server is an envelope: a code, of which only 200 means success, a message and a
content.

## What is here

* `Envelope` with `Envelope.success` and `Envelope.failure`, `isSuccess`, `text`.
* `Envelope.toJson`, `Envelope.ofJson?` — the envelope on the wire.
-/

set_option autoImplicit false
namespace Whitelist

open Wire

variable {α : Type}

/-- An answer of the server. -/
structure Envelope (α : Type) where
  code : Int32
  message : Option String := none
  content : Option α := none
  deriving DecidableEq, Repr

namespace Envelope

/-- The one code that means success. -/
def successCode : Int32 := 200

/-- The message of a success. -/
def successText : String := "success"

/-- A success with this content. -/
def success (content : α) : Envelope α := ⟨successCode, some successText, some content⟩

/-- A failure with this code and message. -/
def failure (code : Int32) (message : String) : Envelope α := ⟨code, some message, none⟩

/-- Whether the envelope says success. -/
def isSuccess (envelope : Envelope α) : Bool := envelope.code = successCode

/-- The message, empty where there is none. -/
def text (envelope : Envelope α) : String := envelope.message.getD ""

/-- An envelope as an object, nulls included. -/
def toJson (write : α → Json) (envelope : Envelope α) : Json :=
  .obj [("code", ofInt32 envelope.code), ("msg", ofOptional .str envelope.message),
    ("content", ofOptional write envelope.content)]

/-- The fields of an envelope. -/
def layout : List FieldNames := [["code"], ["msg"], ["content"]]

/-- An envelope from an object, or from an array of all three fields; only the code is required. -/
def ofJson? (read : Json → Option α) (json : Json) : Option (Envelope α) := do
  let [code, message, content] ← slots layout json | none
  return {
    code := ← required asInt32 code
    message := ← optional asString message
    content := ← optional read content }

end Envelope
end Whitelist
