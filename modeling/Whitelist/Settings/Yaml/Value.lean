import Whitelist.Number.Decimal
import Whitelist.Settings.Value

/-!
# Values in YAML

A text without quotes may be a switch or a number, and a tag can say what it is. Names are values as
well: `1` and `"1"` are different names.

## What is here

* `Value` — a value.
* `Value.ofPlain`, `Value.ofTagged` — the value of a text without quotes.
* `Value.mapping?` — a mapping from its names and values.
* `Value.setting?` — a value as a setting.
-/

set_option autoImplicit false
namespace Whitelist.Yaml

/-- A value. -/
inductive Value where
  /-- What its tag says it is, it is not. -/
  | bad
  | null
  | bool (b : Bool)
  | int (n : Int)
  /-- A number with a point or an exponent, as it is written. -/
  | real (text : String)
  | text (text : String)
  | list (items : List Value)
  | mapping (entries : List (Value × Value))
  deriving Inhabited

namespace Value

/-! ## Texts without quotes -/

/-- A whole number of 64 bits in a base; a sign may stand in front. -/
def inBase? (base : Nat) (cs : List Char) : Option Int :=
  let (negative, digits) := Double.takeSign cs
  do
    let n ← Text.readBase? base digits
    let n ← int64? (if negative then -n else n)
    return n.toInt

/-- The whole number of 64 bits that a text writes: in base 16 after `0x`, in base 8 after `0o`, and
in base 10 otherwise. A plus sign may stand in front of another sign. -/
def int? (cs : List Char) : Option Int :=
  let decimal (cs : List Char) : Option Int := (Text.readInt64? cs).map Int64.toInt
  match cs with
  | '0' :: 'x' :: ds => (inBase? 16 ds).orElse fun () => decimal cs
  | '0' :: 'o' :: ds => (inBase? 8 ds).orElse fun () => decimal cs
  | '+' :: ds => decimal ds
  | cs => decimal cs

/-- The words for numbers without bound and for what is no number. -/
def unboundWords : List String :=
  [".inf", ".Inf", ".INF", "+.inf", "+.Inf", "+.INF", "-.inf", "-.Inf", "-.INF", ".nan", ".NaN",
    ".NAN"]

/-- Whether a text writes a number with a point or an exponent. -/
def isReal (cs : List Char) : Bool :=
  String.ofList cs ∈ unboundWords || (cs.any Char.isDigit && (Double.ofText? cs).isSome)

/-- The switch that a text writes. -/
def bool? (s : String) : Option Bool :=
  if s ∈ ["true", "True", "TRUE"] then some true
  else if s ∈ ["false", "False", "FALSE"] then some false
  else none

/-- The value of a text without quotes. -/
def ofPlain (s : String) : Value :=
  match int? s.toList, bool? s with
  | some n, _ => int n
  | none, some b => bool b
  | none, none =>
    if s ∈ ["", "~", "null"] then null
    else if isReal s.toList then real s
    else text s

/-- What the handle of the usual tags stands for. -/
def usualTags : String := "tag:yaml.org,2002:"

/-- The value of a text without quotes that has a usual tag. -/
def ofUsual (suffix s : String) : Value :=
  match suffix with
  | "bool" => if s = "true" then bool true else if s = "false" then bool false else bad
  | "int" =>
    match Text.readInt64? s.toList with
    | some n => int n.toInt
    | none => bad
  | "float" => if isReal s.toList then real s else bad
  | "null" => if s ∈ ["~", "null"] then null else bad
  | _ => text s

/-- The value of a text without quotes that has a tag: what its handle stands for, and its suffix.
Tags that are not usual make it a text. -/
def ofTagged (start suffix s : String) : Value :=
  if start = usualTags then ofUsual suffix s else text s

/-! ## Mappings -/

/-- Whether two values are the same as names of settings. -/
def sameName : Value → Value → Bool
  | bool a, bool b => a = b
  | int a, int b => a = b
  | real a, real b => a = b
  | text a, text b => a = b
  | null, null => true
  | _, _ => false

/-- Whether the value is not what its tag says. -/
def isBad : Value → Bool
  | bad => true
  | _ => false

/-- The entries that names and values in turn make, if no name is given twice. A bad name does not
count, so what follows it is a name again; a name behind which nothing follows is dropped. -/
def entries? (before : List (Value × Value)) : List Value → Option (List (Value × Value))
  | name :: value :: rest =>
    if name.isBad then entries? before (value :: rest)
    else if before.any fun entry => entry.1.sameName name then none
    else entries? (before ++ [(name, value)]) rest
  | _ => some before

/-- A mapping from its names and values in turn. -/
def mapping? (parts : List Value) : Option Value := (entries? [] parts).map mapping

/-! ## Settings -/

/-- A value as the name of a setting. -/
def name? : Value → Option String
  | text s | real s => some s
  | int n => some (toString n)
  | bool b => some (if b then "true" else "false")
  | _ => none

/-- The number that a text writes; a number without bound is of no use. -/
def number? (s : String) : Option Setting :=
  if s ∈ unboundWords then none else (Double.ofText? s.toList).map .float

/-- The entries with one more; of two with one name the later counts. -/
def setLast (entries : List (String × Setting)) (name : String) (value : Setting) :
    List (String × Setting) :=
  entries.filter (fun entry => entry.1 ≠ name) ++ [(name, value)]

mutual

/-- A value as a setting, unless a name or a number in it is of no use. -/
def setting? : Value → Option Setting
  | bad | null => some .null
  | bool b => some (.bool b)
  | int n => some (.int n)
  | real s => number? s
  | text s => some (.text s)
  | list items => (settingItems? items).map .list
  | mapping entries => (settingEntries? [] entries).map .table

/-- The items of a list as settings. -/
def settingItems? : List Value → Option (List Setting)
  | [] => some []
  | item :: rest => do return (← item.setting?) :: (← settingItems? rest)

/-- The entries of a mapping as settings, put to those before them. -/
def settingEntries? (before : List (String × Setting)) :
    List (Value × Value) → Option (List (String × Setting))
  | [] => some before
  | (name, value) :: rest => do
    settingEntries? (setLast before (← name.name?) (← value.setting?)) rest

end

end Value
end Whitelist.Yaml
