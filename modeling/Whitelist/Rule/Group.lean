import Whitelist.Rule.Basic

/-!
# Grouping records by scope

Groups are listed with the global scope first and the others in the order in which their scopes were
met.

## What is here

* `addToGroup` — more records counted into the group of their scope, or into a new one at the end.
* `globalFirst` — the groups with that of the global scope in front.
-/

set_option autoImplicit false
namespace Whitelist

/-- The groups with the count of `group` added to the first group of the same scope, or with `fresh`
at the end where there is none. A sum that does not fit into its word of 64 bits wraps around, as it
does in a build for release; a build that checks its sums stops there instead. -/
def addToGroup (group fresh : RuleGroup) : List RuleGroup → List RuleGroup
  | [] => [fresh]
  | g :: rest =>
    if g.scope = group.scope then { g with count := g.count + group.count } :: rest
    else g :: addToGroup group fresh rest

/-- The groups of the global scope, then all others, each part in its own order. -/
def globalFirst (groups : List RuleGroup) : List RuleGroup :=
  groups.filter (·.scope.isGlobal) ++ groups.filter fun g => !g.scope.isGlobal

end Whitelist
