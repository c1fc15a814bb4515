/-!
# Pages

Lists are shown a page at a time. Page numbers start at 1 and all counts are words of 64 bits, so
page 2 of size 2^64 - 1 has to be met with arithmetic that stops at the largest word.

## What is here

* `Page`, `Page.new`, `Page.empty`, `Page.map` — one page with its place in the whole.
* `pageCount` — how many pages of a size hold so many rows.
* `pageBounds` — where a page begins and ends in the whole list.
* `paginate` — one page cut out of a list.
-/

set_option autoImplicit false
namespace Whitelist

/-- One page of a longer list. -/
structure Page (α : Type) where
  totalCount : UInt64 := 0
  pageNumber : UInt64 := 1
  pagesAvailable : UInt64 := 0
  items : List α := []
  deriving DecidableEq, Repr

/-- The number of pages that `total` rows fill, `size` rows to a page; none where a page holds no
rows. -/
def pageCount (total size : UInt64) : UInt64 :=
  if size = 0 then 0
  else if total % size = 0 then total / size
  else total / size + 1

/-- The number as a word, or the largest word where it does not fit. -/
def capped (n : Nat) : UInt64 := .ofNat (min n (UInt64.size - 1))

namespace Page

/-- A page whose number of pages follows from the total and the size. -/
def new {α : Type} (total number size : UInt64) (items : List α) : Page α :=
  ⟨total, number, pageCount total size, items⟩

/-- The first page of nothing. -/
def empty {α : Type} : Page α := {}

/-- Whether the page has no rows. -/
def isEmpty {α : Type} (page : Page α) : Bool := page.items.isEmpty

/-- The page with each row replaced. -/
def map {α β : Type} (f : α → β) (page : Page α) : Page β :=
  ⟨page.totalCount, page.pageNumber, page.pagesAvailable, page.items.map f⟩

end Page

/-- The positions of the first row of a page and of the row after its last, both at most `total`.
The number is at least 1 and the size at least 1. -/
def pageBounds (total number size : UInt64) : UInt64 × UInt64 :=
  let first := min (capped ((number.toNat - 1) * size.toNat)) total
  (first, min (capped (first.toNat + size.toNat)) total)

/-- One page of a list. Page 0 is page 1, and size 0 asks for the whole list. -/
def paginate {α : Type} (items : List α) (number size : UInt64) : Page α :=
  let number := max number 1
  let total := UInt64.ofNat items.length
  if size = 0 then Page.new total number size items
  else
    let (first, last) := pageBounds total number size
    Page.new total number size ((items.drop first.toNat).take (last.toNat - first.toNat))

end Whitelist
