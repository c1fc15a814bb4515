/-!
# What is left of a list

A reader is given the items that are left — characters or tokens — and answers with those left after
the part that it has read. That these are fewer is part of the answer, and it is why reading ends.

## What is here

* `Rest`, `RestLe` — the items left after a part that is not empty, or that may be empty.
* `Rest.of?` — the items left, where they have turned out to be fewer.
* `Rest.tail`, `RestLe.all`, `RestLe.drop`, `RestLe.dropWhile` — the items after one, none, so many,
  or those of a kind.
* `Rest.cons`, `Rest.after`, `RestLe.after`, `Rest.atMost` — the same items, seen from further back.
* `length_lt_trans` and its like — how lengths compare over two steps.
-/

set_option autoImplicit false
namespace Whitelist

variable {α : Type}

/-- What is left of a list after a part of it that is not empty. -/
abbrev Rest (xs : List α) : Type := { rest : List α // rest.length < xs.length }

/-- What is left of a list after a part of it that may be empty. -/
abbrev RestLe (xs : List α) : Type := { rest : List α // rest.length ≤ xs.length }

/-! ## Lengths -/

theorem length_lt_cons (x : α) (xs : List α) : xs.length < (x :: xs).length :=
  Nat.lt_succ_self _

theorem length_lt_trans {xs ys zs : List α} (h : xs.length < ys.length)
    (h' : ys.length < zs.length) : xs.length < zs.length := Nat.lt_trans h h'

theorem length_lt_of_le_of_lt {xs ys zs : List α} (h : xs.length ≤ ys.length)
    (h' : ys.length < zs.length) : xs.length < zs.length := Nat.lt_of_le_of_lt h h'

theorem length_lt_cons_of_lt {xs ys : List α} (y : α) (h : xs.length < ys.length) :
    xs.length < (y :: ys).length := Nat.lt_succ_of_lt h

theorem length_le_of_lt_cons {xs ys : List α} {y : α} (h : xs.length < (y :: ys).length) :
    xs.length ≤ ys.length := Nat.le_of_lt_succ h

theorem length_dropWhile_le (p : α → Bool) (xs : List α) : (xs.dropWhile p).length ≤ xs.length :=
  (List.dropWhile_suffix p).length_le

/-! ## The items left -/

namespace RestLe

/-- Everything is left. -/
def all (xs : List α) : RestLe xs := ⟨xs, Nat.le_refl _⟩

/-- Everything but the first `n` items. -/
def drop (n : Nat) (xs : List α) : RestLe xs := ⟨xs.drop n, List.length_drop ▸ Nat.sub_le _ _⟩

/-- Everything from the first item on that is not of the kind. -/
def dropWhile (p : α → Bool) (xs : List α) : RestLe xs :=
  ⟨xs.dropWhile p, length_dropWhile_le p xs⟩

/-- What is left of something shorter. -/
def after {ys xs : List α} (rest : RestLe ys) (h : ys.length < xs.length) : Rest xs :=
  ⟨rest.1, Nat.lt_of_le_of_lt rest.2 h⟩

end RestLe

namespace Rest

/-- Everything but the first item. -/
def tail (x : α) (xs : List α) : Rest (x :: xs) := ⟨xs, length_lt_cons x xs⟩

/-- The items, if they are fewer than those of a list. -/
def of? (rest xs : List α) : Option (Rest xs) :=
  if h : rest.length < xs.length then some ⟨rest, h⟩ else none

/-- What is left of a list with one more item in front. -/
def cons {xs : List α} (x : α) (rest : Rest xs) : Rest (x :: xs) :=
  ⟨rest.1, length_lt_cons_of_lt x rest.2⟩

/-- What is left of something shorter. -/
def after {ys xs : List α} (rest : Rest ys) (h : ys.length < xs.length) : Rest xs :=
  ⟨rest.1, Nat.lt_trans rest.2 h⟩

/-- The same items, where it does not matter that something has been read. -/
def atMost {xs : List α} (rest : Rest xs) : RestLe xs := ⟨rest.1, Nat.le_of_lt rest.2⟩

end Rest
end Whitelist
