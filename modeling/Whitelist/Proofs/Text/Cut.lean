import Whitelist.Text.Cut

/-!
# Cutting and trimming

A text is cut at the first separator, and what is trimmed away at its ends is blank space. Both can
be said without a word on how the text is gone through.

## What is here

* `cut_eq_some_iff`, `cut_eq_none_iff` — the two sides of the first separator, if there is one.
* `IsTrimmed`, `trim_eq_iff` — what trimming leaves has no blank space at its ends, and all that it
  takes away is blank.

Both functions are recursive and stop at the first character that decides. What they compute is
determined by properties of the pieces: the first piece has no separator in it, the inner piece has
no blank character at its ends. The lemmas with `iff` say so, and are all that is used of the
functions elsewhere.
-/

set_option autoImplicit false
namespace Whitelist.Text

variable {sep : Char} {cs before inner after : List Char}

/-! ## The first separator

A text without separators cannot be cut. -/

theorem cut_append (after : List Char) (h : sep ∉ before) :
    cut sep (before ++ sep :: after) = some (before, after) := by
  induction before with
  | nil => simp [cut]
  | cons c before ih =>
    have hc : c ≠ sep := fun hc => h (by simp [hc])
    have hrest : sep ∉ before := fun hsep => h (by simp [hsep])
    simp [cut, hc, ih hrest]

theorem cut_eq_none_iff : cut sep cs = none ↔ sep ∉ cs := by
  induction cs with
  | nil => simp [cut]
  | cons c cs ih => by_cases hc : c = sep <;> simp [cut, hc, ih, eq_comm (a := sep)]

theorem cut_eq_some_iff :
    cut sep cs = some (before, after) ↔ cs = before ++ sep :: after ∧ sep ∉ before := by
  refine ⟨fun h => ?_, fun ⟨hcs, hsep⟩ => hcs ▸ cut_append after hsep⟩
  induction cs generalizing before with
  | nil => cases h
  | cons c cs ih =>
    by_cases hc : c = sep
    · obtain ⟨rfl, rfl⟩ : [] = before ∧ cs = after := by simpa [cut, hc] using h
      simp [hc]
    · obtain ⟨⟨front, back⟩, hrest, hparts⟩ : ∃ parts, cut sep cs = some parts
          ∧ (c :: parts.1, parts.2) = (before, after) := by simpa [cut, hc] using h
      obtain ⟨rfl, rfl⟩ := Prod.mk.inj hparts
      obtain ⟨rfl, hsep⟩ := ih hrest
      simp [hsep, Ne.symm hc]

/-! ## Blank space at the ends

`IsTrimmed` is about the first and the last character only, whatever stands between them. -/

/-- A text without blank space at its ends, the empty text included. -/
def IsTrimmed (cs : List Char) : Prop :=
  (∀ c ∈ cs.head?, isBlankChar c = false) ∧ ∀ c ∈ cs.getLast?, isBlankChar c = false

theorem trimStart_append (cs : List Char) (h : allBlank before = true) :
    trimStart (before ++ cs) = trimStart cs :=
  List.dropWhile_append_of_pos (List.all_eq_true.mp h)

theorem trimEnd_append (cs : List Char) (h : allBlank after = true) :
    trimEnd (cs ++ after) = trimEnd cs := by
  have hreverse : ∀ c ∈ after.reverse, isBlankChar c = true := by
    intro c hc
    exact List.all_eq_true.mp h c (List.mem_reverse.mp hc)
  rw [trimEnd, List.reverse_append, List.dropWhile_append_of_pos hreverse, trimEnd]

theorem trimStart_eq_self (h : ∀ c ∈ cs.head?, isBlankChar c = false) : trimStart cs = cs := by
  cases cs with
  | nil => rfl
  | cons c cs => simp [trimStart, h c rfl]

theorem trimEnd_eq_self (h : ∀ c ∈ cs.getLast?, isBlankChar c = false) : trimEnd cs = cs := by
  have hstart : trimStart cs.reverse = cs.reverse := trimStart_eq_self (by simpa using h)
  rw [trimEnd, ← trimStart, hstart, List.reverse_reverse]

/-- Trimming leaves no blank space at either end. -/
theorem isTrimmed_trim (cs : List Char) : IsTrimmed (trim cs) := by
  constructor
  · intro c hc
    have hprefix : trim cs <+: trimStart cs := by
      rw [trim, trimEnd, ← List.reverse_suffix, List.reverse_reverse]
      exact List.dropWhile_suffix _
    have hhead : (trimStart cs).head? = some c := by
      obtain ⟨rest, hrest⟩ := hprefix
      rw [← hrest, List.head?_append, Option.mem_def.mp hc, Option.some_or]
    have hfirst := List.head?_dropWhile_not isBlankChar cs
    rw [← trimStart, hhead] at hfirst
    exact hfirst
  · intro c hc
    have hlast : ((trimStart cs).reverse.dropWhile isBlankChar).head? = some c := by
      simpa [trim, trimEnd] using hc
    have hfirst := List.head?_dropWhile_not isBlankChar (trimStart cs).reverse
    rw [hlast] at hfirst
    exact hfirst

/-- Blank space around a trimmed text is what trimming takes away. -/
theorem trim_of_isTrimmed (h : IsTrimmed inner) (hbefore : allBlank before = true)
    (hafter : allBlank after = true) : trim (before ++ (inner ++ after)) = inner := by
  rw [trim, trimStart_append _ hbefore]
  cases inner with
  | nil =>
    have hnil : trimStart after = [] := dropWhile_isBlankChar_eq_nil_iff.mpr hafter
    simp [hnil, trimEnd]
  | cons c cs =>
    rw [trimStart_eq_self (by simpa using h.1), trimEnd_append _ hafter, trimEnd_eq_self h.2]

/-- **Trimming** takes blank space away at both ends, and as much as there is. -/
theorem trim_eq_iff : trim cs = inner ↔ IsTrimmed inner
    ∧ ∃ before after, cs = before ++ (inner ++ after) ∧ allBlank before = true
      ∧ allBlank after = true := by
  constructor
  · rintro rfl
    exact ⟨isTrimmed_trim cs, exists_eq_trim cs⟩
  · rintro ⟨htrimmed, before, after, rfl, hbefore, hafter⟩
    exact trim_of_isTrimmed htrimmed hbefore hafter

end Whitelist.Text
