import QueryDoc.Error

/-!
Page arithmetic. Pages are numbered from 1: page `p` of size `n` covers rows
`(p - 1) * n` up to `p * n` of a sorted result. Offsets are 64-bit, so a page whose first
row lies past `2^64 - 1` is refused.
-/

namespace QueryDoc

/-- The largest offset a page may start at. -/
def maxOffset : Nat := Nat.pow 2 64 - 1

/-- The number of pages `total` rows fill; no rows, or a page size of zero, fill none. -/
def totalPages (total pageSize : Nat) : Nat :=
  if total = 0 ∨ pageSize = 0 then 0 else 1 + (total - 1) / pageSize

/-- The `(limit, offset)` of a page. -/
def pageBounds (pageNum pageSize : Nat) : Result (Nat × Nat) :=
  if pageNum = 0 then invalid "page numbers start at 1"
  else if pageSize = 0 then invalid "page size must be at least 1"
  else if (pageNum - 1) * pageSize > maxOffset then invalid "page offset overflows"
  else .ok (pageSize, (pageNum - 1) * pageSize)

/-- A page of results, with the total count of rows when it was asked for. -/
structure Page (α : Type) where
  pageNum : Nat
  pageSize : Nat
  items : List α
  total : Option Nat

namespace Page

/-- The page's count of all rows and of all pages, when it carries them. -/
def totals {α : Type} (p : Page α) : Option (Nat × Nat) :=
  p.total.map fun t => (t, totalPages t p.pageSize)

end Page

end QueryDoc
