/-!
# Words

Counts, times and ids are kept in words of 32 or 64 bits, with or without a sign. A whole number
that does not fit into its word is refused and never wraps around.

## What is here

* `int32?`, `int64?`, `uint32?`, `uint64?` — a whole number as a word.
-/

set_option autoImplicit false
namespace Whitelist

/-- The number as a signed word of 32 bits. -/
def int32? (n : Int) : Option Int32 :=
  if Int32.minValue.toInt ≤ n ∧ n ≤ Int32.maxValue.toInt then some (.ofInt n) else none

/-- The number as a signed word of 64 bits. -/
def int64? (n : Int) : Option Int64 :=
  if Int64.minValue.toInt ≤ n ∧ n ≤ Int64.maxValue.toInt then some (.ofInt n) else none

/-- The number as an unsigned word of 32 bits. -/
def uint32? (n : Int) : Option UInt32 :=
  if 0 ≤ n ∧ n < UInt32.size then some (.ofNat n.toNat) else none

/-- The number as an unsigned word of 64 bits. -/
def uint64? (n : Int) : Option UInt64 :=
  if 0 ≤ n ∧ n < UInt64.size then some (.ofNat n.toNat) else none

end Whitelist
