import QueryDoc.Store.Affinity
import QueryDoc.Store.Command
import QueryDoc.Store.Failure
import QueryDoc.Store.FullText.Tokenize
import QueryDoc.Store.Settings
import QueryDoc.Store.Record

/-!
The schema of a database and the rows it stores.

A database holds tables, indexes, views and triggers, each created at some point and listed in
the schema table in that order. Tables and indexes own a root page; views and triggers own
none. A dropped object's pages are free, and the next object takes the lowest free page.
Vacuuming copies every object into a fresh file in schema order, so the pages are numbered
again from 2 and none is left free.

A table has named columns, each with its declared type, the preference read from it, its
collation, its default and whether it refuses null; a generated column computes its value
from the others. Every row has an integer row id, and rows are kept in row id order. A table
whose primary key is a single column declared `INTEGER` uses that column as the row id; a
table declared `WITHOUT ROWID` keeps a row id only as a hidden position and is read in the
order of its primary key.

Indexes order a table's rows by some of its columns or expressions; a unique index refuses
two rows that agree on all of them, unless one of the values is null. Primary keys and
UNIQUE constraints are unique indexes made with the table.

Names of objects and columns are matched without regard to ASCII case.
-/

namespace QueryDoc.Store

/-- ASCII lowercase, for matching names. -/
def foldName (s : String) : String := String.ofList (s.toList.map Char.toLower)

/-- Whether two names match. -/
def sameName (a b : String) : Bool := foldName a == foldName b

/-- Every keyword of the statement language, upper case. -/
def keywords : List String :=
  ["ABORT", "ACTION", "ADD", "AFTER", "ALL", "ALTER", "ALWAYS", "ANALYZE", "AND", "AS", "ASC",
   "ATTACH", "AUTOINCREMENT", "BEFORE", "BEGIN", "BETWEEN", "BY", "CASCADE", "CASE", "CAST",
   "CHECK", "COLLATE", "COLUMN", "COMMIT", "CONFLICT", "CONSTRAINT", "CREATE", "CROSS",
   "CURRENT", "CURRENT_DATE", "CURRENT_TIME", "CURRENT_TIMESTAMP", "DATABASE", "DEFAULT",
   "DEFERRABLE", "DEFERRED", "DELETE", "DESC", "DETACH", "DISTINCT", "DO", "DROP", "EACH",
   "ELSE", "END", "ESCAPE", "EXCEPT", "EXCLUDE", "EXCLUSIVE", "EXISTS", "EXPLAIN", "FAIL",
   "FILTER", "FIRST", "FOLLOWING", "FOR", "FOREIGN", "FROM", "FULL", "GENERATED", "GLOB",
   "GROUP", "GROUPS", "HAVING", "IF", "IGNORE", "IMMEDIATE", "IN", "INDEX", "INDEXED",
   "INITIALLY", "INNER", "INSERT", "INSTEAD", "INTERSECT", "INTO", "IS", "ISNULL", "JOIN",
   "KEY", "LAST", "LEFT", "LIKE", "LIMIT", "MATCH", "MATERIALIZED", "NATURAL", "NO", "NOT",
   "NOTHING", "NOTNULL", "NULL", "NULLS", "OF", "OFFSET", "ON", "OR", "ORDER", "OTHERS",
   "OUTER", "OVER", "PARTITION", "PLAN", "PRAGMA", "PRECEDING", "PRIMARY", "QUERY", "RAISE",
   "RANGE", "RECURSIVE", "REFERENCES", "REGEXP", "REINDEX", "RELEASE", "RENAME", "REPLACE",
   "RESTRICT", "RETURNING", "RIGHT", "ROLLBACK", "ROW", "ROWS", "SAVEPOINT", "SELECT", "SET",
   "TABLE", "TEMP", "TEMPORARY", "THEN", "TIES", "TO", "TRANSACTION", "TRIGGER", "UNBOUNDED",
   "UNION", "UNIQUE", "UPDATE", "USING", "VACUUM", "VALUES", "VIEW", "VIRTUAL", "WHEN",
   "WHERE", "WINDOW", "WITH", "WITHOUT"]

/-- Whether a word is a keyword, in any case. -/
def isKeyword (w : String) : Bool :=
  let u := String.ofList (w.toList.map Char.toUpper)
  keywords.contains u

/-- A name as the schema writes it into generated text: as it is when it is a plain word of
letters, digits and underscores that does not start with a digit and is no keyword, else in
double quotes with inner quotes doubled. -/
def quoteName (name : String) : String :=
  let cs := name.toList
  let plain := !cs.isEmpty && cs.all (fun c => c.isAlphanum || c == '_') &&
    !(cs.headD 'x').isDigit && !isKeyword name
  if plain then name
  else "\"" ++ String.ofList (cs.flatMap fun c => if c == '"' then ['"', '"'] else [c]) ++ "\""

/-- The type names the schema writes in upper case when a column is declared with one of
them in any case. -/
def standardTypes : List String := ["ANY", "BLOB", "INT", "INTEGER", "REAL", "TEXT"]

/-- A declared type as the schema reports it: a standard type name in upper case, anything
else as written. -/
def shownType (declared : Option String) : String :=
  match declared with
  | none => ""
  | some t =>
    let u := String.ofList (t.toList.map Char.toUpper)
    if standardTypes.contains u then u else t

/-- A column of a table. -/
structure Column where
  name : String
  declaredType : Option String
  affinity : Affinity
  collation : Collation
  notNull : Bool
  notNullConflict : Option OnConflict := none
  defaultValue : Option Term := none
  defaultText : Option String := none
  /-- A generated column's expression, and whether it is stored. -/
  generated : Option (Term × Bool) := none
  /-- The column's place in the primary key, from 1; 0 when it is not part of it. -/
  keyPosition : Nat := 0
  deriving Inhabited

/-- What a column of an index holds: a column of the table, the row id, or an expression. -/
inductive IndexSource where
  | column (i : Nat)
  | rowid
  | expr (t : Term)

/-- A column of an index, with its collation and direction. -/
structure IndexPart where
  source : IndexSource
  collation : Collation
  descending : Bool

/-- Why an index exists: made by `create index`, by a UNIQUE constraint, or by the primary
key. -/
inductive IndexOrigin where
  | created
  | unique
  | primaryKey
  deriving Repr, BEq, Inhabited

/-- The letters `pragma index_list` shows for an origin. -/
def IndexOrigin.code : IndexOrigin → String
  | .created => "c"
  | .unique => "u"
  | .primaryKey => "pk"

/-- An index of a table. -/
structure Index where
  name : String
  table : String
  parts : List IndexPart
  unique : Bool
  origin : IndexOrigin
  /-- What a conflict on this index does when the statement does not say. -/
  onConflict : Option OnConflict
  /-- The rows a partial index covers. -/
  filter : Option Term
  sql : Option String
  page : Nat
  /-- The object's place in the schema table. -/
  seq : Nat

/-- A stored row: its row id and its values, one per column. -/
structure Row where
  rowid : Int
  values : Array Datum
  deriving Inhabited

/-- A foreign key of a table: its columns and what they refer to. -/
structure ForeignKeyDef where
  columns : List String
  ref : ForeignKey

/-- What the declaration of a full-text table fixed. -/
structure TextSetup where
  /-- The version of the module that made it: 3, 4 or 5. -/
  version : Nat
  tokenizer : FullText.Tokenizer
  /-- The columns whose values are kept but not searched. -/
  unindexed : List Nat := []

/-- What the declaration of an r-tree fixed. -/
structure BoxSetup where
  /-- Whether coordinates are 32-bit integers rather than 32-bit floats. -/
  integral : Bool
  /-- How many coordinate columns follow the id: two for each dimension. -/
  coordinates : Nat
  /-- How many columns after the coordinates keep their values as given. -/
  auxiliary : Nat

/-- The kind of a virtual table. -/
inductive VirtualKind where
  | fullText (setup : TextSetup)
  /-- An r-tree, with its row ids in the order a scan meets them. -/
  | rtree (setup : BoxSetup) (cells : List Int)

/-- A table. -/
structure Table where
  name : String
  columns : Array Column
  /-- The column that is the row id, if one is. -/
  rowidColumn : Option Nat
  withoutRowid : Bool
  strict : Bool
  autoincrement : Bool
  /-- The primary key's columns with their collations and directions, when there is one. -/
  primaryKey : List (Nat × Collation × Bool)
  checks : List (Option String × Term)
  foreignKeys : List ForeignKeyDef
  sql : String
  page : Nat
  seq : Nat
  /-- The rows, in row id order. -/
  rows : Array Row
  /-- The largest row id the table ever held. -/
  maxRowid : Int
  /-- What kind of virtual table it is, when it is one. -/
  virtual : Option VirtualKind := none

/-- A view: its column names when given, and its query. -/
structure View where
  name : String
  columns : List String
  query : Query
  sql : String
  seq : Nat

/-- A trigger: when it fires, on what, under what condition, and what it runs. -/
structure Trigger where
  name : String
  table : String
  timing : TriggerTiming
  event : TriggerEvent
  whenCond : Option Term
  body : List Command
  sql : String
  seq : Nat

namespace Column

/-- Whether the column is generated. -/
def isGenerated (c : Column) : Bool := c.generated.isSome

end Column

namespace Table

/-- The index of a column by name. -/
def columnIndex? (t : Table) (name : String) : Option Nat :=
  t.columns.findIdx? (fun c => sameName c.name name)

/-- The row id a new row gets when none is given: one more than the largest present, or
under `autoincrement` one more than the largest ever held. -/
def nextRowid (t : Table) : Int :=
  let last := match t.rows.back? with
    | some r => r.rowid
    | none => 0
  if t.autoincrement then (max last t.maxRowid) + 1 else last + 1

/-- Whether a row id is taken. -/
def hasRowid (t : Table) (id : Int) : Bool := t.rows.any (·.rowid == id)

/-- The row with a row id. -/
def row? (t : Table) (id : Int) : Option Row := t.rows.find? (·.rowid == id)

/-- Adds a row, keeping row id order. -/
def insertRow (t : Table) (r : Row) : Table :=
  let t := { t with maxRowid := max t.maxRowid r.rowid }
  match t.rows.back? with
  | some last =>
    if last.rowid < r.rowid then { t with rows := t.rows.push r }
    else
      let before := t.rows.filter (·.rowid < r.rowid)
      let after := t.rows.filter (·.rowid > r.rowid)
      { t with rows := before.push r ++ after }
  | none => { t with rows := #[r] }

/-- The table without the rows of the given row ids. -/
def dropRows (t : Table) (ids : List Int) : Table :=
  { t with rows := t.rows.filter (!ids.contains ·.rowid) }

/-- Replaces the values of the row with a row id. -/
def setRow (t : Table) (id : Int) (values : Array Datum) : Table :=
  { t with rows := t.rows.map fun r => if r.rowid == id then { r with values := values } else r }

/-- The columns a statement may name, in order: all of them. -/
def columnNames (t : Table) : List String := t.columns.toList.map (·.name)

end Table

/-- A schema object, as the schema table lists it. -/
structure SchemaEntry where
  kind : ObjectKind
  name : String
  table : String
  page : Nat
  sql : Option String
  seq : Nat

/-- The names of a database's tables and views (its own schema table among them) in the order
a chained hash table walks them, with the number of its buckets.

A name goes in front of the first name already in its bucket, or in front of all when its
bucket is empty, so that each bucket's names stay together; with no buckets every name goes in
front. The buckets grow when there are at least ten names and more than twice as many as
buckets, to twice the count but at most 64, and the names are then placed again in the order
they were walked. Taking a name out leaves the others where they are. -/
structure NameHash where
  order : List String
  buckets : Nat
  deriving Repr, Inhabited

namespace NameHash

/-- The hash of a name: each byte, ASCII letters in lower case, added and then multiplied by
2654435761, in 32 bits. -/
def code (name : String) : Nat :=
  name.toUTF8.foldl (fun h b =>
    let c := if 65 ≤ b.toNat && b.toNat ≤ 90 then b.toNat + 32 else b.toNat
    (h + c) * 2654435761 % 4294967296) 0

/-- A name put in its place among others, for a number of buckets. -/
def place (buckets : Nat) (order : List String) (name : String) : List String :=
  if buckets == 0 then name :: order
  else
    let b := code name % buckets
    match order.findIdx? (fun n => code n % buckets == b) with
    | some i => order.take i ++ name :: order.drop i
    | none => name :: order

/-- A hash holding only a schema table's name. -/
def fresh (schemaTable : String) : NameHash := ⟨[schemaTable], 0⟩

/-- Adds a name, growing the buckets first when they are too few. -/
def insert (h : NameHash) (name : String) : NameHash :=
  let count := h.order.length + 1
  let grown := min (count * 2) 64
  if count ≥ 10 && count > 2 * h.buckets && grown != h.buckets then
    ⟨place grown (h.order.foldl (place grown) []) name, grown⟩
  else ⟨place h.buckets h.order name, h.buckets⟩

/-- Takes a name out. -/
def remove (h : NameHash) (name : String) : NameHash :=
  { h with order := h.order.filter (!sameName · name) }

/-- A hash filled anew: its schema table's name, then the names given, in order. -/
def refill (h : NameHash) (names : List String) : NameHash :=
  let schemaTable := if h.order.contains "sqlite_temp_master" then "sqlite_temp_master" else "sqlite_master"
  names.foldl insert (fresh schemaTable)

end NameHash

/-- A sample of an index as `sqlite_stat4` keeps it: for each column the entries that share
its leading values, those before them, and the distinct leading values before them; and the
values of the entry. -/
structure StoredSample where
  eq : List Nat
  lt : List Nat
  dlt : List Nat
  values : List Datum

/-- What the planner knows of an index from `analyze`: the numbers of its `sqlite_stat1`
line, the flags written after them, and its samples. -/
structure IndexStats where
  counts : List Nat
  /-- Whether the line says `unordered`: the index serves no range. -/
  unordered : Bool := false
  /-- Whether the line says `noskipscan`. -/
  noSkipScan : Bool := false
  /-- The size of an entry, when the line gives one as `sz=`. -/
  entrySize : Option Nat := none
  samples : List StoredSample := []

/-- What the planner knows of a database from `analyze`, as its schema last read the
statistics tables: the rows of each table, the tables with samples, and each index's
statistics, by folded name. -/
structure Statistics where
  tableRows : List (String × Nat) := []
  sampled : List String := []
  indexes : List (String × IndexStats) := []

/-- The objects of one database. -/
structure Database where
  tables : List Table
  indexes : List Index
  views : List View
  triggers : List Trigger
  /-- The next place in the schema table. -/
  nextSeq : Nat
  /-- The pages given to objects that still exist. -/
  usedPages : List Nat
  userVersion : Int
  /-- How many times the schema changed. -/
  schemaVersion : Nat
  /-- The names of its tables and views as the schema's table hash walks them. -/
  names : NameHash
  /-- How many pages its file has: those in use and those on the free list. A database that
  was never written has none. -/
  pageCount : Nat
  /-- What pragmas set for its file. -/
  file : FileSettings
  /-- The statistics the schema last read. -/
  statistics : Statistics := {}

namespace Database

/-- The empty database. -/
def empty : Database := ⟨[], [], [], [], 1, [1], 0, 0, NameHash.fresh "sqlite_master", 0, {}, {}⟩

/-- The empty temporary database. -/
def emptyTemp : Database :=
  { empty with names := NameHash.fresh "sqlite_temp_master", file := { safetyLevel := 1, journal := 0, inMemory := false } }

/-- A table by name. -/
def table? (db : Database) (name : String) : Option Table :=
  db.tables.find? (fun t => sameName t.name name)

/-- A view by name. -/
def view? (db : Database) (name : String) : Option View :=
  db.views.find? (fun v => sameName v.name name)

/-- An index by name. -/
def index? (db : Database) (name : String) : Option Index :=
  db.indexes.find? (fun i => sameName i.name name)

/-- A trigger by name. -/
def trigger? (db : Database) (name : String) : Option Trigger :=
  db.triggers.find? (fun t => sameName t.name name)

/-- The indexes of a table, the latest made first, as lookups try them. -/
def indexesOf (db : Database) (table : String) : List Index :=
  (db.indexes.filter (fun i => sameName i.table table)).reverse

/-- The triggers of a table, in the order they were made. -/
def triggersOf (db : Database) (table : String) : List Trigger :=
  db.triggers.filter (fun t => sameName t.table table)

/-- Replaces a table of the same name. -/
def putTable (db : Database) (t : Table) : Database :=
  { db with tables := db.tables.map fun u => if sameName u.name t.name then t else u }

/-- The lowest page no object holds. -/
def freePage (db : Database) : Nat :=
  let rec find : Nat → Nat → Nat
    | 0, p => p
    | fuel + 1, p => if db.usedPages.contains p then find fuel (p + 1) else p
  find (db.usedPages.length + 1) 2

/-- Takes the lowest free page. -/
def takePage (db : Database) : Database × Nat :=
  let p := db.freePage
  ({ db with usedPages := p :: db.usedPages, pageCount := max db.pageCount p }, p)

/-- Takes the next place in the schema table. -/
def takeSeq (db : Database) : Database × Nat :=
  ({ db with nextSeq := db.nextSeq + 1 }, db.nextSeq)

/-- Gives pages back. -/
def freePages (db : Database) (pages : List Nat) : Database :=
  { db with usedPages := db.usedPages.filter (!pages.contains ·) }

/-- Marks a change of the schema; the file then has at least its first page. -/
def touch (db : Database) : Database :=
  { db with schemaVersion := db.schemaVersion + 1, pageCount := max db.pageCount 1 }

/-- The number of pages on the free list: pages of the file no object holds. -/
def freePageCount (db : Database) : Nat := db.pageCount - db.usedPages.length

/-- The numbers at the head of a `sqlite_stat1` text, at most `most` of them, and the words
after them. -/
def statNumbers (text : String) (most : Nat) : List Nat × List String :=
  let words := (text.splitOn " ").filter (· != "")
  let numeric (w : String) : Bool := w.toList.all Char.isDigit
  let lead := ((words.takeWhile numeric).take most)
  (lead.map fun w => w.toList.foldl (fun v c => v * 10 + (c.toNat - 48)) 0, words.drop lead.length)

/-- The index a statistics line names for a table: the table's own primary key when the line
names the table, else the index of that name. -/
def statIndex (db : Database) (t : Table) (name : String) : Option Index :=
  if sameName name t.name then
    db.indexes.find? fun i => i.origin == .primaryKey && t.withoutRowid && sameName i.table t.name
  else db.index? name

/-- The database with the statistics its tables `sqlite_stat1` and `sqlite_stat4` hold, as the
schema reads them: each line of `sqlite_stat1`, in order, gives an index its counts (a line
without an index gives the table's rows), and a line of an index that is not partial gives
its table's rows too; the samples of each index follow in the order of `sqlite_stat4`. -/
def loadStatistics (db : Database) : Database :=
  let lines := ((db.table? "sqlite_stat1").map (·.rows.toList)).getD []
  let st := lines.foldl (fun (st : Statistics) (r : Row) =>
    match (r.values[0]? : Option Datum), (r.values[1]? : Option Datum), (r.values[2]? : Option Datum) with
    | some (.text tbl), some idx, some stat =>
      match db.table? tbl with
      | none => st
      | some t =>
        let text := match stat with
          | .text z => z
          | _ => ""
        match idx with
        | .text iname =>
          match statIndex db t iname with
          | none => st
          | some i =>
            let (counts, words) := statNumbers text (i.parts.length + 1)
            let size := (words.find? (·.startsWith "sz=")).map fun w =>
              max 2 (((w.drop 3).copy.toList.takeWhile Char.isDigit).foldl (fun v c => v * 10 + (c.toNat - 48)) 0)
            let stats : IndexStats :=
              { counts := counts, unordered := words.any (·.startsWith "unordered"),
                noSkipScan := words.any (·.startsWith "noskipscan"), entrySize := size }
            let st := { st with indexes := (foldName i.name, stats) :: st.indexes.filter (·.1 != foldName i.name) }
            match i.filter, counts.head? with
            | none, some n => { st with tableRows := (foldName t.name, n) :: st.tableRows.filter (·.1 != foldName t.name) }
            | _, _ => st
        | .null =>
          match (statNumbers text 1).1.head? with
          | some n => { st with tableRows := (foldName t.name, n) :: st.tableRows.filter (·.1 != foldName t.name) }
          | none => st
        | _ => st
    | _, _, _ => st) {}
  let samples := ((db.table? "sqlite_stat4").map (·.rows.toList)).getD []
  let st := samples.foldl (fun (st : Statistics) (r : Row) =>
    match (r.values[1]? : Option Datum) with
    | some (.text iname) =>
      match db.index? iname |>.orElse (fun _ => (db.table? iname).bind fun t => statIndex db t iname) with
      | none => st
      | some i =>
        let nums (k : Nat) : List Nat := match (r.values[k]? : Option Datum) with
          | some (.text z) => (statNumbers z (i.parts.length + 1)).1
          | _ => []
        let values := match (r.values[5]? : Option Datum) with
          | some (.blob bs) => Record.decode .utf8 bs
          | _ => []
        let sample : StoredSample := ⟨nums 2, nums 3, nums 4, values⟩
        let key := foldName i.name
        let current := (st.indexes.lookup key).getD { counts := [] }
        let tname := foldName i.table
        { st with indexes := (key, { current with samples := current.samples ++ [sample] }) ::
                    st.indexes.filter (·.1 != key),
                  sampled := if st.sampled.contains tname then st.sampled else tname :: st.sampled }
    | _ => st) st
  { db with statistics := st }

/-- The database with its table hash filled anew from its schema, as after the schema is read
again: tables and views in the order of the schema table; the statistics are read again too. -/
def reread (db : Database) : Database :=
  let ts := db.tables.map fun t => (t.seq, t.name)
  let vs := db.views.map fun v => (v.seq, v.name)
  let named := (ts ++ vs).mergeSort fun a b => a.1 ≤ b.1
  loadStatistics { db with names := db.names.refill (named.map (·.2)) }

/-- A table with its rows numbered again from 1, in the order of their row ids. -/
def renumbered (t : Table) : Table :=
  { t with rows := t.rows.mapIdx (fun i r => { r with rowid := (i : Int) + 1 }), maxRowid := t.rows.size }

/-- The database as `vacuum` rebuilds it. Its tables are made again in the order of the schema
table, each with the indexes of its constraints (the sequence table right after the first
table with `autoincrement`, and not at all when no table has it); then the other indexes; then
the views, triggers and virtual tables are copied. Objects take pages from 2 and places in
the schema table in that order, and no page is left free. The rows of a table with neither an
integer primary key nor an index are numbered again from 1, in the order of their row ids. -/
def vacuum (db : Database) : Database :=
  let ordered (ts : List Table) : List Table := ts.mergeSort fun a b => a.seq ≤ b.seq
  let orderedIdx (is : List Index) : List Index := is.mergeSort fun a b => a.seq ≤ b.seq
  let seqTable := db.table? "sqlite_sequence"
  let ordinary := (ordered db.tables).filter fun t => t.virtual.isNone && !sameName t.name "sqlite_sequence"
  let keysOf (t : Table) : List Index :=
    orderedIdx (db.indexes.filter fun i => sameName i.table t.name && i.origin != .created)
  let (made, _) := ordinary.foldl (fun (acc : List (Table × List Index) × Bool) t =>
    let withKeys := acc.1 ++ [(t, keysOf t)]
    match seqTable with
    | some s => if t.autoincrement && !acc.2 then (withKeys ++ [(s, [])], true) else (withKeys, acc.2)
    | none => (withKeys, acc.2)) ([], false)
  let created := orderedIdx (db.indexes.filter (·.origin == .created))
  let indexed (t : Table) : Bool := db.indexes.any fun i => sameName i.table t.name
  -- tables and the indexes of their keys, with pages and places from `next`
  let placeTable (next : Nat × Nat) (entry : Table × List Index) : (Nat × Nat) × Table × List Index :=
    let (t, keys) := entry
    let (page, seq) := next
    let t := if !t.withoutRowid && t.rowidColumn.isNone && !indexed t then renumbered t else t
    let t := { t with page := page, seq := seq }
    let (next, keys) := keys.foldl (fun (acc : (Nat × Nat) × List Index) i =>
      if i.origin == .primaryKey && t.withoutRowid then (acc.1, acc.2 ++ [{ i with page := page }])
      else (((acc.1.1 + 1), (acc.1.2 + 1)), acc.2 ++ [{ i with page := acc.1.1, seq := acc.1.2 }]))
      ((page + 1, seq + 1), [])
    (next, t, keys)
  let (next, tables, keyIdxs) := made.foldl (fun (acc : (Nat × Nat) × List Table × List Index) entry =>
    let (next, t, keys) := placeTable acc.1 entry
    (next, acc.2.1 ++ [t], acc.2.2 ++ keys)) ((2, 1), [], [])
  let (next, idxs) := created.foldl (fun (acc : (Nat × Nat) × List Index) i =>
    (((acc.1.1 + 1), (acc.1.2 + 1)), acc.2 ++ [{ i with page := acc.1.1, seq := acc.1.2 }])) (next, [])
  -- the objects without pages keep their order after everything else
  let rest : List (Nat × Nat) :=
    ((db.views.map fun (v : View) => (v.seq, 0)) ++ (db.triggers.map fun (tr : Trigger) => (tr.seq, 1)) ++
      ((db.tables.filter fun (t : Table) => t.virtual.isSome).map fun (t : Table) => (t.seq, 2))).mergeSort
      fun a b => a.1 ≤ b.1
  let newSeq (old : Nat) : Nat := next.2 + ((rest.findIdx? (·.1 == old)).getD 0)
  let virtuals := (db.tables.filter fun (t : Table) => t.virtual.isSome).map fun (t : Table) =>
    { t with seq := newSeq t.seq }
  let pages := (tables.filter (·.virtual.isNone)).map (·.page) ++
    (keyIdxs ++ idxs).filterMap fun (i : Index) =>
      if tables.any (fun (t : Table) => t.withoutRowid && t.page == i.page) then none else some i.page
  let keep (t : Table) : Bool :=
    tables.any (fun (u : Table) => sameName u.name t.name) || virtuals.any (fun (u : Table) => sameName u.name t.name)
  let db' := { db with
    tables := (db.tables.filter keep).map fun (t : Table) =>
      ((tables ++ virtuals).find? (fun (u : Table) => sameName u.name t.name)).getD t,
    indexes := keyIdxs ++ idxs,
    views := db.views.map fun (v : View) => { v with seq := newSeq v.seq },
    triggers := db.triggers.map fun (tr : Trigger) => { tr with seq := newSeq tr.seq },
    nextSeq := next.2 + rest.length,
    usedPages := 1 :: pages,
    pageCount := 1 + pages.length }
  db'.reread.touch

/-- The rows of the schema table, in order. The primary key of a table without row ids is
kept in the table itself, so it has no row of its own. -/
def entries (db : Database) : List SchemaEntry :=
  let ts := db.tables.map fun t => (⟨.table, t.name, t.name, t.page, some t.sql, t.seq⟩ : SchemaEntry)
  let keyOfWithoutRowid (i : Index) : Bool :=
    i.origin == .primaryKey && db.tables.any fun t => t.withoutRowid && sameName t.name i.table
  let is := (db.indexes.filter (!keyOfWithoutRowid ·)).map fun i =>
    (⟨.index, i.name, i.table, i.page, i.sql, i.seq⟩ : SchemaEntry)
  let vs := db.views.map fun v => (⟨.view, v.name, v.name, 0, some v.sql, v.seq⟩ : SchemaEntry)
  let trs := db.triggers.map fun t => (⟨.trigger, t.name, t.table, 0, some t.sql, t.seq⟩ : SchemaEntry)
  (ts ++ is ++ vs ++ trs).mergeSort fun a b => a.seq ≤ b.seq

end Database

/-- The databases one connection sees, by name: `main`, `temp` and the attached ones. -/
structure Catalog where
  dbs : List (String × Database)
  /-- What the connection's pragmas set. -/
  settings : Settings := {}
  /-- Whether the connection has a transaction open. -/
  inTransaction : Bool := false
  /-- References left broken under keys declared `initially deferred`, whose check waits
for the commit. -/
  deferredBroken : Int := 0
  /-- References left broken while `defer_foreign_keys` held every check back to the
commit. -/
  postponedBroken : Int := 0
  /-- Whether the open transaction has written anything. -/
  written : Bool := false

namespace Catalog

/-- A database by name, in any case; `main` and `temp` are always there. -/
def db? (c : Catalog) (name : String) : Option Database :=
  (c.dbs.find? (fun (n, _) => sameName n name)).map (·.2)

/-- The databases in the order unqualified names are sought: `temp`, `main`, then the
attached ones. -/
def searchOrder (c : Catalog) : List (String × Database) :=
  (c.dbs.filter (fun (n, _) => n == "temp")) ++ (c.dbs.filter (fun (n, _) => n == "main")) ++
    (c.dbs.filter (fun (n, _) => n != "temp" && n != "main"))

/-- The databases a name may be sought in: the one named, or all in search order. -/
def scope (c : Catalog) (schema : Option String) : List (String × Database) :=
  match schema with
  | some s => c.dbs.filter (fun (n, _) => sameName n s)
  | none => c.searchOrder

/-- A table by name, with the name of its database. -/
def table? (c : Catalog) (schema : Option String) (name : String) : Option (String × Table) :=
  (c.scope schema).findSome? fun (n, db) => (db.table? name).map (n, ·)

/-- A view by name, with the name of its database. -/
def view? (c : Catalog) (schema : Option String) (name : String) : Option (String × View) :=
  (c.scope schema).findSome? fun (n, db) => (db.view? name).map (n, ·)

/-- Replaces a database. -/
def put (c : Catalog) (name : String) (db : Database) : Catalog :=
  { c with dbs := c.dbs.map fun (n, d) => if sameName n name then (n, db) else (n, d) }

/-- Changes a database. -/
def update (c : Catalog) (name : String) (f : Database → Database) : Catalog :=
  { c with dbs := c.dbs.map fun (n, d) => if sameName n name then (n, f d) else (n, d) }

/-- Replaces a table in its database. -/
def putTable (c : Catalog) (schema : String) (t : Table) : Catalog :=
  c.update schema (·.putTable t)

end Catalog

end QueryDoc.Store
