/-!
# Rule scopes

A record is filed under a rule code. Two codes are set aside for records that apply to every rule:
`GLOBAL_CONFIG`, the one in use, and `GLOBAL`, which older stores still write. Everything that asks
whether two records belong together asks for their scopes, so the choice between the two codes
never shows.

## What is here

* `globalCode`, `legacyGlobalCode`, `isGlobalCode` — the two codes that are set aside.
* `Scope`, `Scope.ofCode` — the global scope, or the scope of one rule.
* `Scope.code` — the code that a scope is written as.
* `Scope.displayName` — the heading under which a scope is listed.
-/

set_option autoImplicit false
namespace Whitelist

/-- The code of the global scope. -/
def globalCode : String := "GLOBAL_CONFIG"

/-- An older code of the global scope, still understood. -/
def legacyGlobalCode : String := "GLOBAL"

/-- The heading of the global scope, whatever name the store gives it. -/
def globalDisplayName : String := "Global Configuration Whitelist"

/-- Whether the code stands for the global scope. -/
def isGlobalCode (code : String) : Bool := code == globalCode || code == legacyGlobalCode

/-- What a record applies to: every rule, or the rule of one code. -/
inductive Scope where
  | global
  | rule (code : String)
  deriving DecidableEq, Repr

namespace Scope

/-- The scope that a code stands for. -/
def ofCode (code : String) : Scope := if isGlobalCode code then global else rule code

/-- Whether this is the global scope. -/
def isGlobal : Scope → Bool
  | global => true
  | rule _ => false

/-- The code that a scope is written as. -/
def code : Scope → String
  | global => globalCode
  | rule code => code

/-- The heading of a scope: fixed for the global scope, and otherwise the name that is known for
the rule, or its code where no name is known or the name is empty. -/
def displayName (scope : Scope) (name : Option String) : String :=
  match scope with
  | global => globalDisplayName
  | rule code => (name.filter (· ≠ "")).getD code

@[simp] theorem ofCode_global : ofCode globalCode = global := by decide

@[simp] theorem ofCode_legacyGlobal : ofCode legacyGlobalCode = global := by decide

/-- Writing a scope as its code and reading it back changes nothing. -/
@[simp] theorem ofCode_code_ofCode (code : String) : ofCode (ofCode code).code = ofCode code := by
  unfold ofCode
  split
  · simp [Scope.code, isGlobalCode]
  · rename_i h
    simp [Scope.code, h]

end Scope
end Whitelist
