import Whitelist.Text.Ascii
import Whitelist.Text.Blank

/-!
# ASCII characters

A text of ASCII characters has as many bytes as characters. Whether a character is in lower case
matters for ASCII letters only, so blank space and signs are the same in any case.

## What is here

* `utf8ByteSize_ofList` — bytes and characters.
* `toLower_of_isBlankChar` — blank characters have no case.
-/

set_option autoImplicit false
namespace Whitelist.Text

/-- One byte for each character. -/
theorem utf8ByteSize_ofList {cs : List Char} (h : ∀ c ∈ cs, c.utf8Size = 1) :
    (String.ofList cs).utf8ByteSize = cs.length := by
  induction cs with
  | nil => rfl
  | cons c cs ih =>
    have hrest := ih fun d hd => h d (List.mem_cons_of_mem c hd)
    rw [String.ofList_cons, String.utf8ByteSize_append, String.utf8ByteSize_singleton,
      h c List.mem_cons_self, hrest, List.length_cons, Nat.add_comm]

theorem utf8Size_of_isDigit {c : Char} (h : c.isDigit = true) : c.utf8Size = 1 := by
  rw [Char.utf8Size_eq_one_iff]
  simp only [Char.isDigit, Bool.and_eq_true, decide_eq_true_eq] at h
  exact UInt32.le_trans h.2 (by decide)

/-- A character that has a lower case of its own is an ASCII letter, and no letter is blank. -/
theorem toLower_of_isBlankChar {c : Char} (h : isBlankChar c = true) : c.toLower = c := by
  have hcapital : ¬ (c.val ≥ 'A'.val ∧ c.val ≤ 'Z'.val) := by
    rintro ⟨hmin, hmax⟩
    have hmin : 65 ≤ c.toNat := UInt32.le_iff_toNat_le.mp hmin
    have hmax : c.toNat ≤ 90 := UInt32.le_iff_toNat_le.mp hmax
    simp only [isBlankChar, Bool.or_eq_true, Bool.and_eq_true, decide_eq_true_eq, beq_iff_eq] at h
    omega
  exact dif_neg hcapital

end Whitelist.Text
