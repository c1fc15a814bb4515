/-!
# Blank text

Forms ignore blank space around what is typed, and refuse a name that is nothing but blank space.
Blank is meant in the sense of the Unicode property `White_Space`, so the ideographic space
U+3000 counts and the zero-width space U+200B does not.

## What is here

* `isBlankChar` — membership in `White_Space`.
* `trimStart`, `trimEnd`, `trim` — drop the blank characters at one end or at both; `strip` is the
  same on a string.
* `allBlank`, `isBlank` — every character is blank, which is to say that nothing is left after
  trimming (`trim_eq_nil_iff`).
* `exists_eq_trim` — what trimming takes away is blank.
-/

set_option autoImplicit false
namespace Whitelist.Text

/-- The 25 characters of the Unicode property `White_Space`. -/
def isBlankChar (c : Char) : Bool :=
  let n := c.toNat
  (9 ≤ n && n ≤ 13) || n == 0x20 || n == 0x85 || n == 0xA0 || n == 0x1680
    || (0x2000 ≤ n && n ≤ 0x200A) || n == 0x2028 || n == 0x2029 || n == 0x202F || n == 0x205F
    || n == 0x3000

/-- What is left of the text after its leading blank characters. -/
def trimStart (cs : List Char) : List Char := cs.dropWhile isBlankChar

/-- What is left of the text before its trailing blank characters. -/
def trimEnd (cs : List Char) : List Char := (cs.reverse.dropWhile isBlankChar).reverse

/-- The text without the blank characters at its two ends. -/
def trim (cs : List Char) : List Char := trimEnd (trimStart cs)

/-- Nothing but blank characters, the empty text included. -/
def allBlank (cs : List Char) : Bool := cs.all isBlankChar

/-- The text without the blank characters at its two ends. -/
def strip (s : String) : String := .ofList (trim s.toList)

/-- A text of blank characters only, the empty text included. -/
def isBlank (s : String) : Bool := allBlank s.toList

theorem dropWhile_isBlankChar_eq_nil_iff {cs : List Char} :
    cs.dropWhile isBlankChar = [] ↔ allBlank cs = true := by
  induction cs with
  | nil => simp [allBlank]
  | cons c cs ih =>
    by_cases h : isBlankChar c = true <;> simp_all [allBlank]

/-- Trimming leaves nothing exactly when there is nothing but blank space. -/
theorem trim_eq_nil_iff {cs : List Char} : trim cs = [] ↔ allBlank cs = true := by
  constructor
  · intro h
    have h' : (trimStart cs).reverse.dropWhile isBlankChar = [] := by simpa [trim, trimEnd] using h
    rw [dropWhile_isBlankChar_eq_nil_iff] at h'
    cases hs : trimStart cs with
    | nil => exact dropWhile_isBlankChar_eq_nil_iff.mp hs
    | cons c r =>
      have hc : isBlankChar c = true := by simp_all [allBlank]
      have := List.head?_dropWhile_not isBlankChar cs
      simp_all [trimStart]
  · intro h
    simp [trim, trimStart, dropWhile_isBlankChar_eq_nil_iff.mpr h, trimEnd]

/-- A text is what trimming leaves, with blank space before and after. -/
theorem exists_eq_trim (cs : List Char) : ∃ before after,
    cs = before ++ (trim cs ++ after) ∧ allBlank before = true ∧ allBlank after = true := by
  have hstart : cs = cs.takeWhile isBlankChar ++ trimStart cs :=
    (List.takeWhile_append_dropWhile).symm
  have hend : trimStart cs
      = trim cs ++ ((trimStart cs).reverse.takeWhile isBlankChar).reverse := by
    rw [trim, trimEnd, ← List.reverse_append, List.takeWhile_append_dropWhile,
      List.reverse_reverse]
  refine ⟨_, _, hstart.trans (congrArg _ hend), List.all_takeWhile, ?_⟩
  rw [allBlank, List.all_reverse]
  exact List.all_takeWhile

theorem allBlank_trim (cs : List Char) : allBlank (trim cs) = allBlank cs := by
  obtain ⟨before, after, hcs, hbefore, hafter⟩ := exists_eq_trim cs
  have hall : allBlank cs = (allBlank before && (allBlank (trim cs) && allBlank after)) := by
    refine (congrArg allBlank hcs).trans ?_
    simp only [allBlank, List.all_append]
  rw [hall, hbefore, hafter, Bool.true_and, Bool.and_true]

end Whitelist.Text
