import Whitelist.Condition.Check
import Whitelist.Field
import Whitelist.Rule.Basic
import Whitelist.Text.Quoted

/-!
# The form of a rule

A form creates a rule, or replaces the content of the rule whose id it carries. It is checked as a
whole before it goes anywhere.

## What is here

* `RuleForm`, `RuleForm.isUpdate` — the form.
* `LineOrder`, `LineOrder.arrange` — in which order the refused fields of a form are named. Nothing
  fixes it, so it is an argument of all that shows a refusal.
* `FormError`, `FormError.message` — why a form is refused.
* `RuleForm.check` — the check: first the two text fields, then the policy text, then the config
  items in order, then the condition.
* `RuleForm.validate` — the check with its refusal as a fault.
-/

set_option autoImplicit false
namespace Whitelist

/-- A form: new content, and the id of the record that it replaces, if any. -/
structure RuleForm where
  id : Option Int64 := none
  content : RuleContent
  deriving DecidableEq, Repr

/-- A text field whose value is refused. -/
structure FieldComplaint where
  field : String
  error : FieldError
  value : String
  deriving DecidableEq, Repr

/-- The complaint on a line of its own, with the refused value in quotes. -/
def FieldComplaint.line (complaint : FieldComplaint) : String :=
  complaint.field ++ ": Validation error: " ++ complaint.error.code ++ " [\x7b\"value\": String("
    ++ Text.quoted complaint.value ++ ")\x7d]"

/-- In which order two refused fields are named. Refusals are kept in a table without an order of
its own, so a check may use either, and the next check of the same form the other one. -/
inductive LineOrder where
  | codeFirst
  | nameFirst
  deriving DecidableEq, Repr

/-- The complaints in this order. -/
def LineOrder.arrange (order : LineOrder) (complaints : List FieldComplaint) :
    List FieldComplaint :=
  match order with
  | codeFirst => complaints
  | nameFirst => complaints.reverse

/-- Why a form is refused. -/
inductive FormError where
  /-- These fields are wrong. Their order in the list is not that in which they are named. -/
  | fields (complaints : List FieldComplaint)
  | policyRequired
  | itemIncomplete (id : UInt32)
  | itemIdRepeated (id : UInt32)
  | conditionInvalid (ruleName : String)
  | conditionRequired
  deriving DecidableEq, Repr

namespace FormError

/-- The text shown for a refused form, with the refused fields named in some order. -/
def message (order : LineOrder) : FormError → String
  | fields complaints => "\n".intercalate ((order.arrange complaints).map FieldComplaint.line)
  | policyRequired => "regoContent is required for REGO rules"
  | itemIncomplete id => s!"config item {id} needs a key and a value"
  | itemIdRepeated id => s!"config item id {id} is used more than once"
  | conditionInvalid ruleName => s!"{ruleName}: condition is not valid"
  | conditionRequired => "condition is required when more than one config item is given"

/-- The refusal as a fault. -/
def fault (order : LineOrder) (e : FormError) : Fault := .validation (e.message order)

end FormError

namespace RuleForm

/-- Whether the form replaces the content of a record. -/
def isUpdate (form : RuleForm) : Bool := form.id.isSome

/-- The complaint about one text field, if there is one. -/
def complaint? (field : String) (value : String) (check : String → FieldCheck) :
    Option FieldComplaint :=
  match check value with
  | .ok () => none
  | .error e => some ⟨field, e, value⟩

/-- The complaints about the two text fields. Which of two is named first is left to
`LineOrder.arrange`. -/
def complaints (content : RuleContent) : List FieldComplaint :=
  (complaint? "rule_code" content.code checkRuleCode).toList
    ++ (complaint? "rule_name" content.name checkRuleName).toList

/-- Whether an optional text is missing or blank. -/
def isMissing (text : Option String) : Bool :=
  match text with
  | none => true
  | some s => Text.isBlank s

/-- Whether an item lacks a key or has no value that is not blank. -/
def lacksPart (item : ConfigItem) : Bool :=
  Text.isBlank item.key || item.values.all Text.isBlank

/-- The items, in order, each against the ids before it: an item needs a key and a value and an id
of its own. -/
def checkItems (seen : List UInt32) : List ConfigItem → Except FormError Unit
  | [] => .ok ()
  | item :: rest =>
    if lacksPart item then .error (.itemIncomplete item.id)
    else if item.id ∈ seen then .error (.itemIdRepeated item.id)
    else checkItems (item.id :: seen) rest

/-- The condition over the ids of the items. A blank one counts as none, and none is needed for a
single item. -/
def checkCondition (content : RuleContent) : Except FormError Unit :=
  let ids := content.items.map (·.id)
  match (content.condition.map Text.strip).filter (· ≠ "") with
  | some condition =>
    match Condition.check condition ids with
    | .ok () => .ok ()
    | .error _ => .error (.conditionInvalid content.name)
  | none => if ids.length > 1 then .error .conditionRequired else .ok ()

/-- Whether the content can be stored; the first thing that is wrong, otherwise. -/
def checkContent (content : RuleContent) : Except FormError Unit := do
  if complaints content ≠ [] then throw (.fields (complaints content))
  if content.ruleType = .rego ∧ isMissing content.policy then throw .policyRequired
  checkItems [] content.items
  checkCondition content

/-- Whether the form can be sent. -/
def check (form : RuleForm) : Except FormError Unit := checkContent form.content

/-- The check with its refusal as a fault, whose text names the refused fields in some order. -/
def validate (form : RuleForm) (order : LineOrder := .codeFirst) : Except Fault Unit :=
  match form.check with
  | .ok () => .ok ()
  | .error e => .error (e.fault order)

end RuleForm
end Whitelist
