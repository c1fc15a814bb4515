import Whitelist.Page
import Whitelist.Wire.Layout

/-!
# Lists on the wire

A server answers a listing with its rows and a total; some servers send the rows alone. What a
caller of this library works with is a `Page`.

## What is here

* `Page.toJson`, `Page.ofJson?` — a page.
* `Listing`, `Listing.ofJson?`, `Listing.toPage` — rows and total, and the page that they make.
* `Listing.ofRowsOrJson?` — the same where the rows may come alone.
-/

set_option autoImplicit false
namespace Whitelist

open Wire

variable {α : Type}

namespace Page

/-- A page as an object. -/
def toJson (write : α → Json) (page : Page α) : Json :=
  .obj [("totalCount", ofUInt64 page.totalCount), ("pageNumber", ofUInt64 page.pageNumber),
    ("pagesAvailable", ofUInt64 page.pagesAvailable), ("pageItems", .arr (page.items.map write))]

/-- The fields of a page. -/
def layout : List FieldNames := [["totalCount"], ["pageNumber"], ["pagesAvailable"], ["pageItems"]]

/-- A page from an object or an array; every field is required. -/
def ofJson? (read : Json → Option α) (json : Json) : Option (Page α) := do
  let [totalCount, pageNumber, pagesAvailable, items] ← slots layout json | none
  return {
    totalCount := ← required asUInt64 totalCount
    pageNumber := ← required asUInt64 pageNumber
    pagesAvailable := ← required asUInt64 pagesAvailable
    items := ← required (asList read) items }

end Page

/-- The rows of one page, and how many rows there are in all; 0 where the server does not say. -/
structure Listing (α : Type) where
  rows : List α := []
  total : UInt64 := 0
  deriving DecidableEq, Repr

namespace Listing

/-- A listing as an object. -/
def toJson (write : α → Json) (listing : Listing α) : Json :=
  .obj [("data", .arr (listing.rows.map write)), ("total", ofUInt64 listing.total)]

/-- The fields of a listing. -/
def layout : List FieldNames := [["data"], ["total"]]

/-- A listing from an object or an array. -/
def ofJson? (read : Json → Option α) (json : Json) : Option (Listing α) := do
  let [rows, total] ← slots layout json | none
  return {
    rows := ← withDefault [] (asList read) rows
    total := ← withDefault 0 asUInt64 total }

/-- A listing from an array of rows, or else from an object or an array of the two fields. The
value is read as a whole before it is taken one way or the other. -/
def ofRowsOrJson? (read : Json → Option α) (json : Json) : Option (Listing α) :=
  if json.readable then
    match asList read json with
    | some rows => some { rows }
    | none => ofJson? read json
  else none

/-- The page that a listing makes. Where the server does not say how many rows there are, the rows
received are all there are. -/
def toPage (listing : Listing α) (number size : UInt64) : Page α :=
  let total := if listing.total = 0 then .ofNat listing.rows.length else listing.total
  Page.new total number size listing.rows

end Listing
end Whitelist
