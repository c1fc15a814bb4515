import Whitelist.Condition.Token
import Whitelist.Rest

/-!
# Checking a condition

A condition is a disjunction of conjunctions of unaries; a unary is an id, a negated unary or a
condition in parentheses. Every id has to belong to a config item of the same form, and no unary
may lie under more than 32 enclosing `!` and `(`.

## What is here

* `ConditionError`, `ConditionError.code` — what is wrong with a condition, and its short name.
* `disjunction`, `conjunction`, `unary` — the three levels of the grammar. Each is given the tokens
  that are left and answers with those left after it, which are fewer: that is why the descent
  ends.
* `check` — the whole text is one condition.
-/

set_option autoImplicit false
namespace Whitelist

/-- What is wrong with a condition. -/
inductive ConditionError where
  | invalidToken
  | trailingTokens
  | tooDeep
  | unbalanced
  | unknownId
  | incomplete
  deriving DecidableEq, Repr

/-- The short name that an error is shown by. -/
def ConditionError.code : ConditionError → String
  | invalidToken => "condition_invalid_token"
  | trailingTokens => "condition_trailing_tokens"
  | tooDeep => "condition_too_deep"
  | unbalanced => "condition_unbalanced"
  | unknownId => "condition_unknown_id"
  | incomplete => "condition_incomplete"

namespace Condition

/-- The most `!` and `(` that may enclose a unary. -/
def maxDepth : Nat := 32

mutual

/-- A disjunction: conjunctions with `||` between them. -/
def disjunction (ids : List UInt32) (depth : Nat) (tokens : List Token) :
    Except ConditionError (Rest tokens) := do
  let ⟨rest, h⟩ ← conjunction ids depth tokens
  return (← moreDisjuncts ids depth rest).after h
termination_by (tokens.length, 3)

/-- What may follow the first conjunction of a disjunction. -/
def moreDisjuncts (ids : List UInt32) (depth : Nat) (tokens : List Token) :
    Except ConditionError (RestLe tokens) :=
  match tokens with
  | .or :: tokens => do
    let ⟨rest, h⟩ ← conjunction ids depth tokens
    return (((← moreDisjuncts ids depth rest).after h).cons .or).atMost
  | tokens => return .all tokens
termination_by (tokens.length, 0)

/-- A conjunction: unaries with `&&` between them. -/
def conjunction (ids : List UInt32) (depth : Nat) (tokens : List Token) :
    Except ConditionError (Rest tokens) := do
  let ⟨rest, h⟩ ← unary ids depth tokens
  return (← moreConjuncts ids depth rest).after h
termination_by (tokens.length, 2)

/-- What may follow the first unary of a conjunction. -/
def moreConjuncts (ids : List UInt32) (depth : Nat) (tokens : List Token) :
    Except ConditionError (RestLe tokens) :=
  match tokens with
  | .and :: tokens => do
    let ⟨rest, h⟩ ← unary ids depth tokens
    return (((← moreConjuncts ids depth rest).after h).cons .and).atMost
  | tokens => return .all tokens
termination_by (tokens.length, 0)

/-- A unary: a known id, a negated unary, or a disjunction in parentheses. -/
def unary (ids : List UInt32) (depth : Nat) (tokens : List Token) :
    Except ConditionError (Rest tokens) :=
  if depth > maxDepth then .error .tooDeep
  else match tokens with
    | .not :: tokens => return (← unary ids (depth + 1) tokens).cons .not
    | .openParen :: tokens => do
      match ← disjunction ids (depth + 1) tokens with
      | ⟨.closeParen :: rest, h⟩ =>
        return ((Rest.tail .closeParen rest).after h).cons .openParen
      | _ => .error .unbalanced
    | .id n :: rest => if n ∈ ids then .ok (.tail (.id n) rest) else .error .unknownId
    | _ => .error .incomplete
termination_by (tokens.length, 1)

end

/-- A text is a condition over the ids if its tokens are one disjunction and nothing else. -/
def check (condition : String) (ids : List UInt32) : Except ConditionError Unit :=
  match Token.scan condition.toList with
  | none => .error .invalidToken
  | some tokens => do
    let ⟨rest, _⟩ ← disjunction ids 0 tokens
    if rest = [] then .ok () else .error .trailingTokens

end Condition
end Whitelist
