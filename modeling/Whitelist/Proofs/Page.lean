import Mathlib.Algebra.GroupWithZero.Nat
import Mathlib.Data.List.Basic
import Whitelist.Page

/-!
# The pages of a list

A page is cut out of a list with arithmetic that stops at the largest word. Where the list is no
longer than a word can count, nothing is lost by that: a page holds the rows that its number and the
size say, and all pages together are the list.

## What is here

* `toNat_pageCount` — the number of pages, rounded up.
* `paginate_items` — what is on a page. `paginate_map` is what a function makes of it, and
  `paginate_items_eq` says when it is all there is.
* `flatMap_range_pages` — the pages that are available are the list cut into pieces.
  `head?_paginate_one` says where its first row is.
* `pageNumbers`, `flatMap_pages` — going through all pages gives the list.

Page numbers and sizes are words and come from outside, so any number may be asked for and any size,
0 and the largest word included. The bounds of a page are computed with operations that stop at the
largest word instead of wrapping (`capped`), and the number of pages with one that cannot overflow.
The lemmas translate both into natural numbers, where the rest is division.
-/

set_option autoImplicit false
namespace Whitelist

variable {α : Type} {total number size : UInt64} {items : List α}

/-! ## One page

A size of 0 means that there are no bounds, and the one page has all rows. -/

/-- A word other than 0 is positive as a number. -/
theorem toNat_pos {n : UInt64} (h : n ≠ 0) : 0 < n.toNat :=
  Nat.pos_of_ne_zero fun hzero => h (UInt64.toNat_inj.mp hzero)

/-- A number of a page is never below 1. -/
theorem toNat_max_one (n : UInt64) : (max n 1).toNat = max n.toNat 1 := by
  rw [UInt64.toNat_max, UInt64.toNat_one]

theorem max_one_ne_zero (n : UInt64) : max n 1 ≠ 0 := by
  intro hzero
  have hmax := toNat_max_one n
  rw [hzero, UInt64.toNat_zero] at hmax
  omega

/-- There is a word after one that is smaller than another. -/
theorem toNat_add_one_of_lt {n m : UInt64} (h : n < m) : (n + 1).toNat = n.toNat + 1 := by
  have hlt := UInt64.lt_iff_toNat_lt.mp h
  have hroom := m.toNat_lt
  rw [UInt64.toNat_add, UInt64.toNat_one]
  exact Nat.mod_eq_of_lt (by omega)

/-- What does not fit becomes the largest word. -/
theorem toNat_capped (n : Nat) : (capped n).toNat = min n (2 ^ 64 - 1) :=
  UInt64.toNat_ofNat_of_lt' (Nat.lt_of_le_of_lt (Nat.min_le_right ..) (by decide))

@[simp] theorem paginate_totalCount :
    (paginate items number size).totalCount = .ofNat items.length := by
  rw [paginate]
  split <;> rfl

@[simp] theorem paginate_pagesAvailable :
    (paginate items number size).pagesAvailable = pageCount (.ofNat items.length) size := by
  rw [paginate]
  split <;> rfl

/-- The rows of a page are rows of the list, in its order. -/
theorem paginate_sublist (items : List α) (number size : UInt64) :
    (paginate items number size).items.Sublist items := by
  rw [paginate]
  split
  · exact List.Sublist.refl _
  · exact (List.take_sublist ..).trans (List.drop_sublist ..)

/-- Nothing comes onto a page that is not in the list. -/
theorem mem_of_mem_paginate {a : α} (h : a ∈ (paginate items number size).items) : a ∈ items :=
  (paginate_sublist items number size).subset h

/-- A page with as many rows as there are has all of them. -/
theorem paginate_items_eq (hlength : items.length < 2 ^ 64)
    (hall : (paginate items number size).items.length
      = (paginate items number size).totalCount.toNat) :
    (paginate items number size).items = items := by
  rw [paginate_totalCount, UInt64.toNat_ofNat_of_lt' hlength] at hall
  exact (paginate_sublist items number size).eq_of_length hall

/-- A function may be applied to all rows first, or to those of the page. -/
theorem paginate_map {β : Type} (f : α → β) (items : List α) (number size : UInt64) :
    paginate (items.map f) number size = (paginate items number size).map f := by
  rw [paginate, paginate, List.length_map]
  split
  · rfl
  · simp only [Page.map, Page.new, List.map_take, List.map_drop]

theorem toNat_pageBounds : (pageBounds total number size).1.toNat
      = min ((number.toNat - 1) * size.toNat) total.toNat
    ∧ (pageBounds total number size).2.toNat
      = min (min ((number.toNat - 1) * size.toNat) total.toNat + size.toNat) total.toNat := by
  have htotal := total.toNat_lt
  have hfirst : (pageBounds total number size).1.toNat
      = min ((number.toNat - 1) * size.toNat) total.toNat := by
    rw [pageBounds, UInt64.toNat_min, toNat_capped]
    omega
  refine ⟨hfirst, ?_⟩
  have hlast : (pageBounds total number size).2
      = min (capped ((pageBounds total number size).1.toNat + size.toNat)) total := rfl
  rw [hlast, UInt64.toNat_min, toNat_capped, hfirst]
  omega

/-- A page holds the rows that its number and the size say. -/
theorem paginate_items (hlength : items.length < 2 ^ 64) (hsize : size ≠ 0) :
    (paginate items number size).items
      = (items.drop (((max number 1).toNat - 1) * size.toNat)).take size.toNat := by
  have htotal : (UInt64.ofNat items.length).toNat = items.length :=
    UInt64.toNat_ofNat_of_lt' hlength
  obtain ⟨hfirst, hlast⟩ := @toNat_pageBounds (.ofNat items.length) (max number 1) size
  rw [paginate, if_neg hsize]
  show (items.drop (pageBounds (.ofNat items.length) (max number 1) size).1.toNat).take
    ((pageBounds (.ofNat items.length) (max number 1) size).2.toNat
      - (pageBounds (.ofNat items.length) (max number 1) size).1.toNat) = _
  rw [hlast, hfirst, htotal]
  generalize ((max number 1).toNat - 1) * size.toNat = first
  rcases Nat.lt_or_ge first items.length with hlt | hge
  · rw [Nat.min_eq_left (Nat.le_of_lt hlt)]
    -- Taking more rows than are left is taking all of them.
    rw [List.take_eq_take_iff, List.length_drop]
    omega
  · rw [Nat.min_eq_right hge, List.drop_eq_nil_of_le hge, List.drop_length, List.take_nil,
      List.take_nil]

/-! ## All pages

Page numbers count from 1, `List.range` from 0, and so the lemmas speak of the page after `n`
others. -/

/-- The number of pages is rounded up. -/
theorem toNat_pageCount (hsize : size ≠ 0) :
    (pageCount total size).toNat = (total.toNat + (size.toNat - 1)) / size.toNat := by
  have hpos := toNat_pos hsize
  have hbound := total.toNat_lt
  have hmod : (total % size).toNat = total.toNat % size.toNat := UInt64.toNat_mod ..
  have hsplit := Nat.div_add_mod total.toNat size.toNat
  have hrest := Nat.mod_lt total.toNat hpos
  have hround : (total.toNat + (size.toNat - 1)) / size.toNat
      = total.toNat / size.toNat + (total.toNat % size.toNat + (size.toNat - 1)) / size.toNat := by
    rw [← Nat.mul_add_div hpos, ← Nat.add_assoc, hsplit]
  rw [pageCount, if_neg hsize, hround]
  by_cases hfull : total % size = 0
  · have hzero : total.toNat % size.toNat = 0 := by
      rw [← hmod, hfull]
      rfl
    have hnone : (size.toNat - 1) / size.toNat = 0 := Nat.div_eq_of_lt (by omega)
    rw [if_pos hfull, UInt64.toNat_div, hzero, Nat.zero_add, hnone, Nat.add_zero]
  · have hne : total.toNat % size.toNat ≠ 0 := fun h => hfull (UInt64.toNat_inj.mp (hmod.trans h))
    have hone : (total.toNat % size.toNat + (size.toNat - 1)) / size.toNat = 1 :=
      Nat.div_eq_of_lt_le (by omega) (by omega)
    have hle := Nat.le_mul_of_pos_left (total.toNat / size.toNat) hpos
    rw [if_neg hfull, hone, UInt64.toNat_add, UInt64.toNat_div]
    exact Nat.mod_eq_of_lt (by simp only [UInt64.toNat_one]; omega)

/-- The numbers of all pages, where so many are available. The first page is there even if it has no
rows, or if it has them all. -/
def pageNumbers (available : UInt64) : List UInt64 :=
  (List.range (max available.toNat 1)).map fun n => .ofNat (n + 1)

/-- The first of them is 1. -/
theorem exists_pageNumbers_eq (available : UInt64) : ∃ rest, pageNumbers available = 1 :: rest := by
  obtain ⟨count, hcount⟩ := Nat.exists_eq_succ_of_ne_zero
    (Nat.ne_of_gt (Nat.le_max_right available.toNat 1))
  rw [pageNumbers, hcount, List.range_succ_eq_map, List.map_cons]
  exact ⟨_, rfl⟩

/-- Pieces of equal length, put together, are the list up to the end of the last. -/
theorem flatMap_range_take (l : List α) (k count : Nat) :
    (List.range count).flatMap (fun n => (l.drop (n * k)).take k) = l.take (count * k) := by
  induction count with
  | zero => simp
  | succ count ih =>
    rw [List.range_succ, List.flatMap_append, ih, Nat.succ_mul, List.take_add]
    simp

/-- What is on the page after so many others. -/
theorem paginate_items_succ (hlength : items.length < 2 ^ 64) (hsize : size ≠ 0) {n : Nat}
    (hn : n + 1 < 2 ^ 64) :
    (paginate items (.ofNat (n + 1)) size).items
      = (items.drop (n * size.toNat)).take size.toNat := by
  have hnumber : (max (UInt64.ofNat (n + 1)) 1).toNat = n + 1 := by
    rw [UInt64.toNat_max, UInt64.toNat_ofNat_of_lt' hn, UInt64.toNat_one]
    omega
  rw [paginate_items hlength hsize, hnumber, Nat.add_sub_cancel]

/-- The pages that are available are the list cut into pieces. -/
theorem flatMap_range_pages (hlength : items.length < 2 ^ 64) (hsize : size ≠ 0) :
    (List.range (pageCount (.ofNat items.length) size).toNat).flatMap
      (fun n => (paginate items (.ofNat (n + 1)) size).items) = items := by
  have hpos := toNat_pos hsize
  have hcount := @toNat_pageCount (.ofNat items.length) size hsize
  rw [UInt64.toNat_ofNat_of_lt' hlength] at hcount
  have hbound := (pageCount (.ofNat items.length) size).toNat_lt
  generalize (pageCount (.ofNat items.length) size).toNat = count at hcount hbound
  have hrooms : items.length ≤ count * size.toNat := by
    have hsplit := Nat.div_add_mod (items.length + (size.toNat - 1)) size.toNat
    have hrest := Nat.mod_lt (items.length + (size.toNat - 1)) hpos
    rw [← hcount, Nat.mul_comm] at hsplit
    omega
  calc (List.range count).flatMap (fun n => (paginate items (.ofNat (n + 1)) size).items)
      = (List.range count).flatMap (fun n => (items.drop (n * size.toNat)).take size.toNat) := by
        refine List.flatMap_congr fun n hn => ?_
        have := List.mem_range.mp hn
        exact paginate_items_succ hlength hsize (by omega)
    _ = items.take (count * size.toNat) := flatMap_range_take ..
    _ = items := List.take_of_length_le hrooms

/-- **All pages together are the list**, also where no page has room for any row: then the one page
has them all. -/
theorem flatMap_pages (hlength : items.length < 2 ^ 64) :
    (pageNumbers (pageCount (.ofNat items.length) size)).flatMap
      (fun number => (paginate items number size).items) = items := by
  rw [pageNumbers, List.flatMap_map]
  by_cases hsize : size = 0
  · subst hsize
    exact List.append_nil items
  · have hall := flatMap_range_pages hlength hsize
    by_cases hnone : (pageCount (.ofNat items.length) size).toNat = 0
    · -- No page is available, so there are no rows that the first page could have.
      have hnil : items = [] := by rw [← hall, hnone]; rfl
      subst hnil
      exact List.flatMap_eq_nil_iff.mpr fun n _ => List.sublist_nil.mp (paginate_sublist ..)
    · rw [Nat.max_eq_left (Nat.one_le_iff_ne_zero.mpr hnone)]
      exact hall

/-- The first row stands on page 1, whatever the size of a page. -/
theorem head?_paginate_one (hlength : items.length < 2 ^ 64) :
    (paginate items 1 size).items.head? = items.head? := by
  by_cases hsize : size = 0
  · subst hsize
    rfl
  · have hpos := toNat_pos hsize
    have hfirst : ((max (1 : UInt64) 1).toNat - 1) * size.toNat = 0 := Nat.zero_mul _
    rw [paginate_items hlength hsize, hfirst, List.drop_zero, List.head?_take, if_neg (by omega)]

end Whitelist
