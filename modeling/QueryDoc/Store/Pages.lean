import QueryDoc.Store.Record
import QueryDoc.Store.Schema

/-!
How many pages a database's file needs for its rows.

Each table and index is a tree of pages. A leaf page holds cells, each a record with its
length (and, in a table, its row id) and a two-byte pointer to it; a record too long for a
page keeps the first part in the cell and the rest in a chain of overflow pages of
`usable - 4` bytes each. How much stays in the cell follows fixed bounds: a table keeps up to
`usable - 35` bytes, an index up to `(usable - 12) · 64 / 255 - 23`; a longer record keeps at
least `(usable - 12) · 32 / 255 - 23`, and more when the overflow then fills its last page
better.

Rows added at the end fill each leaf before a new one is begun, so the leaves are counted by
packing the cells in order. A tree of more than one leaf has interior pages above them, one
for up to 511 leaves. The file needs the pages its schema gave out, and beyond each tree's
first page the other pages of its leaves, interior pages and overflow chains.
-/

namespace QueryDoc.Store

namespace Pages

/-- The most of a record a cell keeps: in an index, or in a table. -/
def maxLocal (index : Bool) (usable : Nat) : Nat :=
  if index then (usable - 12) * 64 / 255 - 23 else usable - 35

/-- The least of a long record a cell keeps. -/
def minLocal (usable : Nat) : Nat := (usable - 12) * 32 / 255 - 23

/-- How much of a record of `size` bytes its cell keeps. -/
def localPart (index : Bool) (usable size : Nat) : Nat :=
  if size ≤ maxLocal index usable then size
  else
    let k := minLocal usable + (size - minLocal usable) % (usable - 4)
    if k ≤ maxLocal index usable then k else minLocal usable

/-- How many overflow pages a record of `size` bytes takes. -/
def overflowPages (index : Bool) (usable size : Nat) : Nat :=
  let rest := size - localPart index usable size
  (rest + (usable - 5)) / (usable - 4)

/-- How many bytes of a leaf the cell of a record takes, its pointer included; a table's cell
also holds the row id. -/
def cellBytes (index : Bool) (usable size : Nat) (rowid : Option Int) : Nat :=
  let idBytes := (rowid.map fun r => Record.varintLength (Record.unsigned r)).getD 0
  let spill := if overflowPages index usable size > 0 then 4 else 0
  2 + Record.varintLength size + idBytes + localPart index usable size + spill

/-- How many leaves cells fill when each is packed before a new one is begun. -/
def leafCount (capacity : Nat) (cells : List Nat) : Nat :=
  let (count, _) := cells.foldl (fun (acc : Nat × Nat) c =>
    let (count, fill) := acc
    if count == 0 then (1, c)
    else if fill + c ≤ capacity then (count, fill + c)
    else (count + 1, c)) (0, 0)
  count

/-- How many interior pages stand above some leaves. -/
def interiorCount (leaves : Nat) : Nat :=
  if leaves ≤ 1 then 0
  else if leaves ≤ 511 then 1
  else (leaves + 510) / 511 + 1

/-- How many pages a tree of records takes, each record's size with its row id in a table:
at least its first page. -/
def treePages (index : Bool) (usable : Nat) (records : List (Nat × Option Int)) : Nat :=
  let cells := records.map fun (size, rowid) => cellBytes index usable size rowid
  let leaves := leafCount (usable - 8) cells
  let overflow := (records.map fun (size, _) => overflowPages index usable size).foldl (· + ·) 0
  max 1 (leaves + interiorCount leaves) + overflow

/-- The values a table's row keeps in its record: not the column that is the row id, nor a
generated column that is computed when read. -/
def storedValues (t : Table) (r : Row) : List Datum :=
  t.columns.toList.zipIdx.filterMap fun (c, i) =>
    match c.generated with
    | some (_, false) => none
    | _ => some (if t.rowidColumn == some i then .null else r.values[i]?.getD .null)

/-- How many pages a table's tree takes. -/
def tablePages (enc : TextEncoding) (usable : Nat) (t : Table) : Nat :=
  treePages t.withoutRowid usable (t.rows.toList.map fun r =>
    (Record.size enc (storedValues t r), if t.withoutRowid then none else some r.rowid))

/-- How many pages an index of a table takes: one entry a row, its key and then the row id. -/
def indexPages (enc : TextEncoding) (usable : Nat) (t : Table) (i : Index) : Nat :=
  treePages true usable (t.rows.toList.map fun r =>
    let key := i.parts.map fun p => match p.source with
      | .column c => r.values[c]?.getD .null
      | .rowid => .integer r.rowid
      | .expr _ => .null
    (Record.size enc (key ++ [.integer r.rowid]), none))

/-- How many pages the database's file needs: the pages its schema gave out, and the pages of
its trees beyond their first. -/
def filePages (enc : TextEncoding) (db : Database) : Nat :=
  let usable := db.file.pageSize
  let stored := db.tables.filter (·.virtual.isNone)
  let tables := stored.map fun t => tablePages enc usable t - 1
  let indexes := db.indexes.filterMap fun i =>
    (stored.find? (sameName ·.name i.table)).map fun t =>
      if t.withoutRowid && t.page == i.page then 0 else indexPages enc usable t i - 1
  db.pageCount + (tables ++ indexes).foldl (· + ·) 0

end Pages

end QueryDoc.Store
