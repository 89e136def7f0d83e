import QueryDoc.Store.Change
import QueryDoc.Store.Samples
import QueryDoc.Store.Record

/-!
The statistics `analyze` gathers.

For each index of a table, `analyze` records in `sqlite_stat1` how many entries the index
has, then for each leading run of its key columns the average number of entries that share
values in those columns, rounded up (an average a little over one counts as one). Entries
are equal in a column under the column's collation, and nulls equal each other. The last key
column of a unique index whose key cannot be null is not compared: every entry there is
distinct. A table with no index but partial ones gets one line with its row count instead.
Empty indexes give no line, except partial ones.

When no limit on the entries read is set, each index also gets its samples in
`sqlite_stat4`, as `Samples` chooses them, each stored as the record of its entry.
-/

namespace QueryDoc.Store

namespace Analyze

/-- The number of entries in each group of equal values, rounded up: `(n + d - 1) / d` for `n`
entries in `d` groups, but one when that is two while the entries are at most a tenth more
than the groups. -/
def average (n d : Nat) : Nat :=
  let v := (n + d - 1) / max d 1
  if v == 2 && n * 10 ≤ d * 11 then 1 else v

/-- For keys in index order, how many distinct leading runs of each length up to `tested`
there are: one for the first entry, and one more each time an entry differs from the one
before within that many columns. -/
def distinctRuns (colls : List Collation) (tested : Nat) (keys : List (List Datum)) : List Nat :=
  let firstChange (a b : List Datum) : Nat :=
    ((List.range tested).find? fun j =>
      match a[j]?, b[j]?, colls[j]? with
      | some x, some y, some c => !(x.isNull && y.isNull || (!x.isNull && !y.isNull && x.sameWith c y))
      | _, _, _ => false).getD tested
  let changes := (keys.zip (keys.drop 1)).map fun (a, b) => firstChange a b
  (List.range tested).map fun k => 1 + (changes.filter (· ≤ k)).length

/-- Whether an index refuses two entries with the same key and no key column may be null. -/
def uniqueNotNull (t : Table) (i : Index) : Bool :=
  i.unique && i.parts.all fun p => match p.source with
    | .column c => t.rowidColumn == some c || ((t.columns[c]?).map (·.notNull)).getD false
    | .rowid => true
    | .expr _ => false

/-- The entries `analyze` reads of an index in key order when it may read only about `limit`
of them (0 for all), and whether it read fewer than all. Each time the count read passes a
multiple of the limit, it stops if the first key column has changed since the first entry;
else it jumps past the entries that share the first column with the last one read, and past
the entry after them. -/
def visited (colls : List Collation) (limit : Nat) (keys : List (List Datum)) : List (List Datum) × Bool :=
  let same0 (a b : List Datum) : Bool :=
    match a.head?, b.head?, colls.head? with
    | some x, some y, some c => (x.isNull && y.isNull) || (!x.isNull && !y.isNull && x.sameWith c y)
    | _, _, _ => true
  let rec go : Nat → List (List Datum) → List (List Datum) → Nat → Bool → List (List Datum) × Bool
    | 0, _, acc, _, early => (acc.reverse, early)
    | _ + 1, [], acc, _, early => (acc.reverse, early)
    | fuel + 1, e :: rest, acc, skips, early =>
      let acc := e :: acc
      if limit > 0 && acc.length > limit * (skips + 1) then
        let changed := match acc.getLast? with
          | some first => !same0 first e
          | none => false
        if changed then (acc.reverse, true)
        else go fuel ((rest.dropWhile (same0 e)).drop 1) acc (skips + 1) true
      else go fuel rest acc skips early
  go (keys.length + 1) keys [] 0 false

/-- The entries of an index in key order: its key columns, then the row id. -/
def indexEntries (g : Given) (cat : Catalog) (ref : TableRef) (t : Table) (i : Index) :
    Outcome (List (List Datum)) := do
  let mut keys : List (List Datum) := []
  for r in t.rows do
    let row := Change.fullRow r
    if ← Change.covers g cat ref t i row then
      let k ← Change.indexKey g cat ref t i row
      keys := keys ++ [k ++ [.integer r.rowid]]
  let flags := (i.parts.map fun p => (p.descending, !p.descending, p.collation)) ++ [(false, true, .binary)]
  pure (keys.mergeSort fun a b => Window.compareKeys flags a b != .gt)

/-- How many leading key columns `analyze` compares between neighbouring entries: all but the
last of a unique key that cannot be null, or of a table's own primary key, else all. -/
def testedColumns (t : Table) (i : Index) : Nat :=
  let primary := t.withoutRowid && i.origin == .primaryKey
  if primary || uniqueNotNull t i then i.parts.length - 1 else i.parts.length

/-- The name an index's statistics go under: the table's for a table's own primary key. -/
def statName (t : Table) (i : Index) : String :=
  if t.withoutRowid && i.origin == .primaryKey then t.name else i.name

/-- The `sqlite_stat1` line of an index from its entries in key order: none for an empty index
that is not partial. At most about `limit` entries are read (0 for all); when fewer than all
were read, the line starts with the count of all. -/
def indexLine (t : Table) (i : Index) (limit : Nat) (sorted : List (List Datum)) : Option (String × String) :=
  let colls := i.parts.map (·.collation)
  let nKey := i.parts.length
  let n := sorted.length
  if n == 0 && i.filter.isNone then none
  else
    let (seen, early) := visited colls limit sorted
    let read := seen.length
    let runs := distinctRuns colls (testedColumns t i) seen
    let avgs := (List.range nKey).map fun k => average read ((runs[k]?).getD read)
    some (statName t i, " ".intercalate (toString (if early then n else read) :: avgs.map toString))

/-- Each entry in key order with the first of the compared columns in which it differs from
the entry before: 0 for the first, and the number compared when it differs in none. -/
def changes (colls : List Collation) (tested : Nat) (sorted : List (List Datum)) : List (Nat × List Datum) :=
  let firstChange (a b : List Datum) : Nat :=
    ((List.range tested).find? fun j =>
      match a[j]?, b[j]?, colls[j]? with
      | some x, some y, some c => !(x.isNull && y.isNull || (!x.isNull && !y.isNull && x.sameWith c y))
      | _, _, _ => false).getD tested
  match sorted with
  | [] => []
  | first :: rest => (0, first) :: (sorted.zip rest).map fun (a, b) => (firstChange a b, b)

/-- The `sqlite_stat4` lines of an index from its entries in key order: each sample's counts
as texts and its entry as a record. -/
def sampleLines (enc : TextEncoding) (t : Table) (i : Index) (sorted : List (List Datum)) :
    List (Array Datum) :=
  let width := i.parts.length + 1
  let counts (xs : Array Nat) : Datum := .text (" ".intercalate (xs.toList.map toString))
  let entries := changes (i.parts.map (·.collation)) (testedColumns t i) sorted
  (Samples.collect width sorted.length entries).map fun s =>
    #[.text t.name, .text (statName t i), counts s.eq, counts s.lt, counts s.dlt,
      .blob (Record.encode enc s.entry)]

/-- The `sqlite_stat1` and `sqlite_stat4` lines of a table, or of one of its indexes: for each
index (the newest first) its line and, when every entry is read, its samples; then the row
count when no index but partial ones covers the table. -/
def tableLines (g : Given) (cat : Catalog) (ref : TableRef) (t : Table) (indexes : List Index)
    (only : Option String) (limit : Nat) : Outcome (List (Array Datum) × List (Array Datum)) := do
  let mut lines : List (Array Datum) := []
  let mut samples : List (Array Datum) := []
  for i in indexes do
    if only.all (sameName · i.name) then
      let sorted ← indexEntries g cat ref t i
      match indexLine t i limit sorted with
      | some (nm, stat) =>
        lines := lines ++ [#[.text t.name, .text nm, .text stat]]
        if limit == 0 then samples := samples ++ sampleLines cat.settings.encoding t i sorted
      | none => pure ()
  let whole := only.isNone && indexes.all (·.filter.isSome) && !t.rows.isEmpty
  pure (if whole then lines ++ [#[.text t.name, .null, .text (toString t.rows.size)]] else lines, samples)

/-- Whether `analyze` passes a table over: the schema's own tables and virtual tables. -/
def skipped (t : Table) : Bool :=
  (foldName t.name).startsWith "sqlite_" || t.sql.startsWith "CREATE VIRTUAL"

end Analyze

end QueryDoc.Store
