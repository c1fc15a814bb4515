import Mathlib.Algebra.Order.Floor.Div
import Whitelist.Proofs.Page

/-!
# How pages divide a list

The number and the size of a page are any words at all, so that their product need not be a word,
and a page may be asked for that lies far behind the list. So a page is first cut out once more, in
single steps that are refused where a number would leave the words, or a position the list. No step
ever is. Then it is said which rows are on which page.

## What is here

* `Checked.paginate` — a page cut out by steps that may be refused. `checked_paginate` says that
  none is, and that the page is the same.
* `toNat_pageCount_eq_ceilDiv`, `length_paginate_items` — how many pages there are, and how many
  rows are on each.
* `DividedInto`, `dividedInto_paginate` — the rows of a list are on its pages, each on one.
* `pages_divide` — all this for every list, number and size.
-/

set_option autoImplicit false
namespace Whitelist

variable {α : Type} {items : List α} {total number size : UInt64}

/-! ## Steps that may be refused

A step of `Checked.paginate` is refused where it would divide by 0, leave the words of 64 bits, or
take rows from outside the list. That none is refused is a bound for each step, and these bounds are
what is proved below. -/

namespace Checked

/-- The word before, if there is one. -/
def pred (n : UInt64) : Option UInt64 := if n = 0 then none else some (n - 1)

/-- The word after, if there is one. -/
def succ (n : UInt64) : Option UInt64 := if n.toNat + 1 < 2 ^ 64 then some (n + 1) else none

/-- The rows between two positions, if they come in this order and the list goes as far. -/
def between (items : List α) (first last : UInt64) : Option (List α) :=
  if first ≤ last ∧ last.toNat ≤ items.length then
    some ((items.drop first.toNat).take (last.toNat - first.toNat))
  else none

/-- The number of pages. A division by 0 is not tried. -/
def pageCount (total size : UInt64) : Option UInt64 :=
  if size = 0 then some 0
  else if total % size = 0 then some (total / size)
  else succ (total / size)

/-- One page of a list. Products and sums stop at the largest word; everything else is refused where
it cannot be done. -/
def paginate (items : List α) (number size : UInt64) : Option (Page α) := do
  let number := max number 1
  let total := UInt64.ofNat items.length
  let available ← pageCount total size
  if size = 0 then return ⟨total, number, available, items⟩
  let before ← pred number
  let first := capped (before.toNat * size.toNat)
  if total ≤ first then return ⟨total, number, available, []⟩
  let last := min (capped (first.toNat + size.toNat)) total
  let rows ← between items first last
  return ⟨total, number, available, rows⟩

end Checked

/-- Where there is a remainder the quotient is less than the dividend, so there is a word after
it. -/
theorem checked_pageCount (total size : UInt64) :
    Checked.pageCount total size = some (pageCount total size) := by
  rw [Checked.pageCount, pageCount]
  split
  · rfl
  · split
    · rfl
    · rename_i hrest
      have hpos : 0 < total.toNat % size.toNat := by
        rw [← UInt64.toNat_mod]
        exact toNat_pos hrest
      have hsplit := Nat.div_add_mod total.toNat size.toNat
      have hle : total.toNat / size.toNat ≤ size.toNat * (total.toNat / size.toNat) := by
        rcases Nat.eq_zero_or_pos size.toNat with hzero | hsize
        · simp [hzero]
        · exact Nat.le_mul_of_pos_left _ hsize
      have hroom : (total / size).toNat + 1 < 2 ^ 64 := by
        have := total.toNat_lt
        rw [UInt64.toNat_div]
        omega
      rw [Checked.succ, if_pos hroom]

/-- A page is counted from 1 on, so there is a word for the number of pages before it. -/
theorem checked_pred (number : UInt64) : ∃ before, Checked.pred (max number 1) = some before
    ∧ before.toNat = (max number 1).toNat - 1 := by
  refine ⟨max number 1 - 1, if_neg (max_one_ne_zero number), ?_⟩
  have hle : 1 ≤ max number 1 := by
    rw [UInt64.le_iff_toNat_le, toNat_max_one, UInt64.toNat_one]
    omega
  rw [UInt64.toNat_sub_of_le _ _ hle, UInt64.toNat_one]

/-- **No step of the cut is refused**, whatever the number and the size: no number leaves the words,
no division is by 0, and no row is taken from outside the list. What is cut out is the page. -/
theorem checked_paginate (hlength : items.length < 2 ^ 64) (number size : UInt64) :
    Checked.paginate items number size = some (paginate items number size) := by
  have htotal : (UInt64.ofNat items.length).toNat = items.length :=
    UInt64.toNat_ofNat_of_lt' hlength
  obtain ⟨before, hpred, hbefore⟩ := checked_pred number
  simp only [Checked.paginate, checked_pageCount, hpred, hbefore, Option.bind_eq_bind,
    Option.bind_some]
  rw [paginate]
  by_cases hsize : size = 0
  · rw [if_pos hsize, if_pos hsize]
    rfl
  · rw [if_neg hsize, if_neg hsize]
    simp only [pageBounds, Page.new]
    generalize capped (((max number 1).toNat - 1) * size.toNat) = first
    by_cases hbehind : UInt64.ofNat items.length ≤ first
    · -- The page lies behind the list: it begins and ends where the list ends.
      have hend : (min first (.ofNat items.length)).toNat = items.length := by
        rw [UInt64.le_iff_toNat_le, htotal] at hbehind
        rw [UInt64.toNat_min, htotal, Nat.min_eq_right hbehind]
      rw [if_pos hbehind, hend, List.drop_length, List.take_nil]
      rfl
    · have hlt : first.toNat < items.length := by
        rw [UInt64.le_iff_toNat_le, htotal] at hbehind
        omega
      have hfirst : min first (.ofNat items.length) = first := by
        rw [← UInt64.toNat_inj, UInt64.toNat_min, htotal]
        omega
      -- The two positions come in order, and the list goes as far as the second.
      have hrange : first ≤ min (capped (first.toNat + size.toNat)) (.ofNat items.length)
          ∧ (min (capped (first.toNat + size.toNat)) (.ofNat items.length)).toNat
            ≤ items.length := by
        rw [UInt64.le_iff_toNat_le, UInt64.toNat_min, htotal, toNat_capped]
        omega
      rw [if_neg hbehind, hfirst, Checked.between, if_pos hrange]
      rfl

/-! ## What is on each page -/

/-- The number of pages is rounded up. Where no page has room for any row there is none. -/
theorem toNat_pageCount_eq_ceilDiv (total size : UInt64) :
    (pageCount total size).toNat = total.toNat ⌈/⌉ size.toNat := by
  by_cases hsize : size = 0
  · subst hsize
    rw [UInt64.toNat_zero, ceilDiv_zero]
    rfl
  · have hpos := toNat_pos hsize
    rw [toNat_pageCount hsize, Nat.ceilDiv_eq_add_pred_div, Nat.add_sub_assoc hpos]

theorem toNat_pagesAvailable (hlength : items.length < 2 ^ 64) (number size : UInt64) :
    (paginate items number size).pagesAvailable.toNat = items.length ⌈/⌉ size.toNat := by
  rw [paginate_pagesAvailable, toNat_pageCount_eq_ceilDiv, UInt64.toNat_ofNat_of_lt' hlength]

/-- The page after `n` others is full as long as there are rows for it. -/
theorem length_paginate_items (hlength : items.length < 2 ^ 64) (hsize : size ≠ 0) {n : Nat}
    (hnumber : number.toNat = n + 1) :
    (paginate items number size).items.length = min size.toNat (items.length - size.toNat * n) := by
  have hbefore : (max number 1).toNat - 1 = n := by
    rw [toNat_max_one]
    omega
  rw [paginate_items hlength hsize, List.length_take, List.length_drop, hbefore, Nat.mul_comm]

/-- Page 0 is page 1. -/
theorem paginate_zero (items : List α) (size : UInt64) :
    paginate items 0 size = paginate items 1 size := by
  have hmax : max (0 : UInt64) 1 = max 1 1 := by decide
  rw [paginate, paginate, hmax]

/-- A list is divided into so many pages of a size: one after the other they are the list, all but
the last are full, the last is not empty, and there are no rows behind it. -/
structure DividedInto (items : List α) (page : UInt64 → List α) (size count : Nat) : Prop where
  flatMap : (List.range count).flatMap (fun n => page (.ofNat (n + 1))) = items
  full (number : UInt64) : number ≠ 0 → number.toNat < count → (page number).length = size
  last (number : UInt64) : number ≠ 0 → number.toNat = count →
    1 ≤ (page number).length ∧ (page number).length ≤ size
  behind (number : UInt64) : count < number.toNat → page number = []

theorem dividedInto_paginate (hlength : items.length < 2 ^ 64) (hsize : size ≠ 0) :
    DividedInto items (fun number => (paginate items number size).items) size.toNat
      (items.length ⌈/⌉ size.toNat) := by
  have hpos := toNat_pos hsize
  -- So many pages are enough exactly where they have room for all rows.
  have hcount (n : Nat) : items.length ⌈/⌉ size.toNat ≤ n ↔ items.length ≤ size.toNat * n :=
    ceilDiv_le_iff_le_mul hpos
  constructor
  case flatMap =>
    have hall := flatMap_range_pages hlength hsize
    rwa [← @paginate_pagesAvailable _ 1, toNat_pagesAvailable hlength] at hall
  case full =>
    intro number hnumber hlt
    obtain ⟨n, hn⟩ := Nat.exists_eq_add_one_of_ne_zero (toNat_pos hnumber).ne'
    have hroom := mt (hcount (n + 1)).mpr (by omega)
    rw [Nat.mul_succ] at hroom
    rw [length_paginate_items hlength hsize hn]
    omega
  case last =>
    intro number hnumber heq
    obtain ⟨n, hn⟩ := Nat.exists_eq_add_one_of_ne_zero (toNat_pos hnumber).ne'
    have hroom := mt (hcount n).mpr (by omega)
    rw [length_paginate_items hlength hsize hn]
    omega
  case behind =>
    intro number hlt
    obtain ⟨n, hn⟩ := Nat.exists_eq_add_one_of_ne_zero (Nat.ne_zero_of_lt hlt)
    have hroom := (hcount n).mp (by omega)
    rw [← List.length_eq_zero_iff, length_paginate_items hlength hsize hn]
    omega

/-- **Pages divide a list.** Every page of every size can be cut out of a list without leaving the
words or the list. Each says how many rows and how many pages there are, and page 0 is page 1. The
pages that are available divide the list into pieces of the size; a size of 0 asks for the whole
list, and no pages are available then.

The length of a list has to be a word, as that of every list in memory is. -/
theorem pages_divide (items : List α) (hlength : items.length < 2 ^ 64) (size : UInt64) :
    (∀ number, Checked.paginate items number size = some (paginate items number size)
      ∧ (paginate items number size).totalCount.toNat = items.length
      ∧ (paginate items number size).pagesAvailable.toNat = items.length ⌈/⌉ size.toNat)
    ∧ paginate items 0 size = paginate items 1 size
    ∧ (size ≠ 0 → DividedInto items (fun number => (paginate items number size).items) size.toNat
        (items.length ⌈/⌉ size.toNat))
    ∧ (size = 0 → ∀ number, (paginate items number size).items = items
        ∧ (paginate items number size).pagesAvailable = 0) := by
  refine ⟨fun number => ⟨checked_paginate hlength number size, ?_,
    toNat_pagesAvailable hlength number size⟩, paginate_zero items size,
    dividedInto_paginate hlength, ?_⟩
  · rw [paginate_totalCount, UInt64.toNat_ofNat_of_lt' hlength]
  · rintro rfl number
    exact ⟨rfl, rfl⟩

/-- Five rows make three pages of two. As the size and the number of a page, the largest word does
as well as any other. -/
theorem pages_divide_five :
    [1, 2, 3, 4, 5].length < 2 ^ 64
      ∧ DividedInto [1, 2, 3, 4, 5] (fun number => (paginate [1, 2, 3, 4, 5] number 2).items) 2 3
      ∧ Checked.paginate [1, 2, 3, 4, 5] 18446744073709551615 18446744073709551615
        = some ⟨5, 18446744073709551615, 1, []⟩ := by
  have hlength : [1, 2, 3, 4, 5].length < 2 ^ 64 := by decide
  obtain ⟨-, -, hdivided, -⟩ := pages_divide [1, 2, 3, 4, 5] hlength 2
  obtain ⟨hcut, -⟩ := pages_divide [1, 2, 3, 4, 5] hlength 18446744073709551615
  refine ⟨hlength, hdivided (by decide), ?_⟩
  rw [(hcut _).1]
  decide

end Whitelist
