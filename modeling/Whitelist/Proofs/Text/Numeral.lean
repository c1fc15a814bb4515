import Mathlib.Data.Nat.Digits.Defs
import Whitelist.Text.Numeral

/-!
# Decimal digits

Numbers are written with their decimal digits, and those digits are read as the number.

## What is here

* `all_isDigit_toDigits`, `head?_toDigits`, `numberOf_toDigits` — what the digits of a number are,
  how they start, and which number they write.
* `digits_toDigits` — the digits of a number are the whole run of digits that a text starts with.
* `readNat?_eq_some_iff`, `readUnsigned?_eq_some_iff` — which texts are read as a number.
* `int64?_toInt`, `int32?_toInt`, `uint64?_toNat`, `uint32?_toNat` — a word fits into its word.
* `readInt64?_toString` — a number as it stands in a path.

Lean's `Nat.toDigits` writes the digits, so what is known of it in the library can be used; the
reader is the program's own. The two meet in `numberOf`, the value of a list of digits.
-/

set_option autoImplicit false
namespace Whitelist

/-! ## Words

A number of a word is read back as the same word, whatever type of word it is. -/

@[simp] theorem int64?_toInt (n : Int64) : int64? n.toInt = some n := by
  have hmin : Int64.minValue.toInt ≤ n.toInt := Int64.minValue_le_toInt n
  have hmax : n.toInt ≤ Int64.maxValue.toInt := Int64.toInt_le n
  rw [int64?, if_pos ⟨hmin, hmax⟩, Int64.ofInt_toInt]

@[simp] theorem int32?_toInt (n : Int32) : int32? n.toInt = some n := by
  have hmin : Int32.minValue.toInt ≤ n.toInt := Int32.minValue_le_toInt n
  have hmax : n.toInt ≤ Int32.maxValue.toInt := Int32.toInt_le n
  rw [int32?, if_pos ⟨hmin, hmax⟩, Int32.ofInt_toInt]

@[simp] theorem uint64?_toNat (n : UInt64) : uint64? n.toNat = some n := by
  have hn : (n.toNat : Int) < UInt64.size := Int.ofNat_lt.mpr n.toNat_lt
  rw [uint64?, if_pos ⟨Int.natCast_nonneg _, hn⟩, Int.toNat_natCast, UInt64.ofNat_toNat]

@[simp] theorem uint32?_toNat (n : UInt32) : uint32? n.toNat = some n := by
  have hn : (n.toNat : Int) < UInt32.size := Int.ofNat_lt.mpr n.toNat_lt
  rw [uint32?, if_pos ⟨Int.natCast_nonneg _, hn⟩, Int.toNat_natCast, UInt32.ofNat_toNat]

namespace Text

/-! ## Reading

A sign may stand in front where the type allows for one: a plus sign for all types, a minus sign for
those with negative numbers. -/

/-- A digit is none of the other characters. -/
theorem ne_of_isDigit {c d : Char} (hc : c.isDigit = true) (hd : d.isDigit = false) : c ≠ d := by
  rintro rfl
  rw [hc] at hd
  cases hd

theorem readUnsigned?_of_isDigit {c : Char} (cs : List Char) (hc : c.isDigit = true) :
    readUnsigned? (c :: cs) = readNat? (c :: cs) := by
  rw [readUnsigned?]
  intro _ hplus
  exact ne_of_isDigit hc (by decide) (List.cons.inj hplus).1

theorem readNat?_eq_some_iff {cs : List Char} {n : Nat} : readNat? cs = some n
    ↔ (cs ≠ [] ∧ ∀ c ∈ cs, c.isDigit = true) ∧ numberOf cs = n := by
  simp [readNat?]

/-- A number without a minus sign is a run of digits, and a plus sign may stand in front of it. -/
theorem readUnsigned?_eq_some_iff {cs : List Char} {n : Nat} : readUnsigned? cs = some n
    ↔ ∃ ds, (ds ≠ [] ∧ ∀ d ∈ ds, d.isDigit = true) ∧ numberOf ds = n
      ∧ (cs = ds ∨ cs = '+' :: ds) := by
  constructor
  · intro h
    unfold readUnsigned? at h
    split at h
    · obtain ⟨hdigits, hn⟩ := readNat?_eq_some_iff.mp h
      exact ⟨_, hdigits, hn, .inr rfl⟩
    · obtain ⟨hdigits, hn⟩ := readNat?_eq_some_iff.mp h
      exact ⟨_, hdigits, hn, .inl rfl⟩
  · rintro ⟨ds, hdigits, hn, rfl | rfl⟩
    · obtain ⟨d, rest, rfl⟩ := List.exists_cons_of_ne_nil hdigits.1
      rw [readUnsigned?_of_isDigit rest (hdigits.2 d List.mem_cons_self)]
      exact readNat?_eq_some_iff.mpr ⟨hdigits, hn⟩
    · exact readNat?_eq_some_iff.mpr ⟨hdigits, hn⟩

/-! ## Digits

The digits of a number are a longest run where something else follows, and they have no zero in
front. -/

theorem isDigit_of_mem_toDigits {n : Nat} {c : Char} (h : c ∈ Nat.toDigits 10 n) :
    c.isDigit = true :=
  Nat.isDigit_of_mem_toDigits (by decide) (by decide) h

theorem numberOf_toDigits (n : Nat) : numberOf (Nat.toDigits 10 n) = n :=
  Nat.ofDigitChars_toDigits (by decide) (by decide)

/-- Zero is not written in front of other digits. -/
theorem head?_toDigits (n : Nat) (h : (Nat.toDigits 10 n).head? = some '0') :
    (Nat.toDigits 10 n).length = 1 := by
  induction n using Nat.strongRecOn with
  | ind n ih =>
    rcases Nat.lt_or_ge n 10 with hn | hn
    · rw [Nat.toDigits_of_lt_base hn]
      rfl
    · have hfront : (Nat.toDigits 10 (n / 10)).head? = some '0' := by
        rwa [Nat.toDigits_of_base_le (by decide) hn, List.head?_append,
          List.head?_eq_some_head Nat.toDigits_ne_nil, Option.some_or,
          ← List.head?_eq_some_head Nat.toDigits_ne_nil] at h
      have hlength := ih (n / 10) (Nat.div_lt_self (by omega) (by decide)) hfront
      -- One digit, and that is zero: then there were no others.
      obtain ⟨c, hc⟩ := List.length_eq_one_iff.mp hlength
      have hzero : n / 10 = 0 := by
        rw [← numberOf_toDigits (n / 10), hc]
        rw [hc] at hfront
        obtain rfl : c = '0' := by simpa using hfront
        rfl
      omega

/-- The run of digits that a text starts with is a number's digits, where no other digit follows. -/
theorem digits_toDigits (n : Nat) (rest : List Char) (h : rest.head?.any Char.isDigit = false) :
    digits (Nat.toDigits 10 n ++ rest) = (Nat.toDigits 10 n, rest) := by
  have hall : ∀ c ∈ Nat.toDigits 10 n, c.isDigit = true := fun c => isDigit_of_mem_toDigits
  rw [digits, List.takeWhile_append_of_pos hall, List.dropWhile_append_of_pos hall]
  cases rest with
  | nil => simp
  | cons c cs =>
    have hc : ¬ c.isDigit = true := by simpa using h
    rw [List.takeWhile_cons_of_neg hc, List.dropWhile_cons_of_neg hc, List.append_nil]

theorem readNat?_toDigits (n : Nat) : readNat? (Nat.toDigits 10 n) = some n :=
  readNat?_eq_some_iff.mpr
    ⟨⟨Nat.toDigits_ne_nil, fun _ => isDigit_of_mem_toDigits⟩, numberOf_toDigits n⟩

theorem readUnsigned?_toDigits (n : Nat) : readUnsigned? (Nat.toDigits 10 n) = some n :=
  readUnsigned?_eq_some_iff.mpr ⟨_, ⟨Nat.toDigits_ne_nil, fun _ => isDigit_of_mem_toDigits⟩,
    numberOf_toDigits n, .inl rfl⟩

theorem readInt?_toString (n : Int) : readInt? (toString n).toList = some n := by
  rw [Int.toString_eq_repr, Int.repr_eq_if]
  split
  · rename_i hn
    rw [Nat.toList_repr]
    unfold readInt?
    split
    · rename_i cs hcs
      exact absurd (isDigit_of_mem_toDigits (hcs ▸ List.mem_cons_self)) (by decide)
    · rw [readUnsigned?_toDigits]
      exact congrArg some (Int.toNat_of_nonneg hn)
  · rename_i hn
    rw [String.toList_append, Nat.toList_repr]
    show (readNat? (Nat.toDigits 10 (-n).toNat)).map (fun n => -(n : Int)) = some n
    rw [readNat?_toDigits]
    show some (-((-n).toNat : Int)) = some n
    congr 1
    omega

/-- A number is read as it is written. -/
theorem readInt64?_toString (n : Int64) : readInt64? (toString n).toList = some n := by
  have hread : readInt? (toString n).toList = some n.toInt := readInt?_toString n.toInt
  rw [readInt64?, hread, Option.bind_some, int64?_toInt]

end Text
end Whitelist
