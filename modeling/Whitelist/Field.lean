import Whitelist.Text.Blank
import Whitelist.Text.Cut
import Whitelist.Text.Numeral

/-!
# Checks on single fields

What a form accepts in a field is decided here, before anything is sent. The limits on codes and
addresses are in bytes of UTF-8, those on names in characters.

## What is here

* `FieldError`, `FieldError.code` — what is wrong with a field, and the short name it is shown by.
* `checkRuleCode`, `checkRuleName`, `checkTargetName`, `checkUrl`, `checkTimeOfDay` — the checks.
-/

set_option autoImplicit false
namespace Whitelist

/-- What is wrong with a field. -/
inductive FieldError where
  | ruleCodeEmpty
  | ruleCodeTooLong
  | ruleCodeInvalidChars
  | ruleNameEmpty
  | ruleNameTooLong
  | targetNameEmpty
  | targetNameTooLong
  | urlEmpty
  | urlTooLong
  | urlInvalid
  | timeInvalid
  deriving DecidableEq, Repr

/-- The short name that an error is shown by. -/
def FieldError.code : FieldError → String
  | ruleCodeEmpty => "rule_code_empty"
  | ruleCodeTooLong => "rule_code_too_long"
  | ruleCodeInvalidChars => "rule_code_invalid_chars"
  | ruleNameEmpty => "rule_name_empty"
  | ruleNameTooLong => "rule_name_too_long"
  | targetNameEmpty => "target_name_empty"
  | targetNameTooLong => "target_name_too_long"
  | urlEmpty => "url_empty"
  | urlTooLong => "url_too_long"
  | urlInvalid => "url_invalid"
  | timeInvalid => "time_invalid"

/-- The outcome of a check on one field. -/
abbrev FieldCheck := Except FieldError Unit

/-- The most bytes a rule code may have. -/
def maxRuleCodeBytes : Nat := 128

/-- The most characters a rule name may have. -/
def maxRuleNameChars : Nat := 128

/-- The most characters the name of a notification target may have. -/
def maxTargetNameChars : Nat := 256

/-- The most bytes a callback address may have. -/
def maxUrlBytes : Nat := 2048

/-- The characters of rule codes: ASCII letters and digits, `-` and `_`. -/
def isRuleCodeChar (c : Char) : Bool := c.isAlphanum || c = '-' || c = '_'

/-- A rule code is a short, non-empty word of code characters. -/
def checkRuleCode (code : String) : FieldCheck :=
  if code.toList = [] then .error .ruleCodeEmpty
  else if code.utf8ByteSize > maxRuleCodeBytes then .error .ruleCodeTooLong
  else if code.toList.all isRuleCodeChar then .ok ()
  else .error .ruleCodeInvalidChars

/-- A rule name has a character that is not blank, and is not too long. -/
def checkRuleName (name : String) : FieldCheck :=
  if Text.isBlank name then .error .ruleNameEmpty
  else if name.toList.length > maxRuleNameChars then .error .ruleNameTooLong
  else .ok ()

/-- The name of a notification target has a character that is not blank, and is not too long. -/
def checkTargetName (name : String) : FieldCheck :=
  if Text.isBlank name then .error .targetNameEmpty
  else if name.toList.length > maxTargetNameChars then .error .targetNameTooLong
  else .ok ()

/-- What follows the scheme of an `https` or `http` address. -/
def afterWebScheme? (url : List Char) : Option (List Char) :=
  (Text.after? "https://".toList url).or (Text.after? "http://".toList url)

/-- A callback address starts with `http://` or `https://`, in lower case, and has something after
it that is no further slash. -/
def checkUrl (url : String) : FieldCheck :=
  if Text.isBlank url then .error .urlEmpty
  else if url.utf8ByteSize > maxUrlBytes then .error .urlTooLong
  else match afterWebScheme? url.toList with
    | some (c :: _) => if c = '/' then .error .urlInvalid else .ok ()
    | _ => .error .urlInvalid

/-- The number of bytes that the characters take. -/
def byteLength (cs : List Char) : Nat := (String.ofList cs).utf8ByteSize

/-- A number of two bytes below the bound: two digits, or a plus sign and a digit. -/
def readTwoBytes? (bound : Nat) (cs : List Char) : Option Nat :=
  if byteLength cs = 2 then Text.readBelow? bound cs else none

/-- A time of day is an hour below 24 and a minute below 60 on the two sides of a colon, two bytes
each. -/
def checkTimeOfDay (time : String) : FieldCheck :=
  match Text.cut ':' time.toList with
  | none => .error .timeInvalid
  | some (hour, minute) =>
    match readTwoBytes? 24 hour, readTwoBytes? 60 minute with
    | some _, some _ => .ok ()
    | _, _ => .error .timeInvalid

end Whitelist
