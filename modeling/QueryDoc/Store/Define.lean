import QueryDoc.Store.Schema
import QueryDoc.Store.Scope

/-!
Tables and indexes from their definitions.

A table definition lists columns, each with a declared type, constraints and maybe a default,
a collation, checks or a generated value, then constraints over several columns. Reading it
checks, in the order it is written, that no column name repeats, that every collation
exists, that defaults are constants and that there is at most one primary key; then that
`autoincrement` stands only on an integer primary key of a table with row ids, that a table
without row ids has a primary key, and that a strict table declares every column with one of
the strict types.

A primary key whose single column is declared `INTEGER` (not as `primary key desc` on the
column itself) is the row id. Any other primary key, and every UNIQUE constraint over
columns no earlier key covers, is an index of the table named `sqlite_autoindex_` with the
table's name and a count. A table made from a query takes the query's column names and a
type from each column's preference.
-/

namespace QueryDoc.Store

namespace Define

/-- ASCII upper case of a text. -/
def upperName (s : String) : String := String.ofList (s.toList.map Char.toUpper)

/-- Whether a declared type is exactly `INTEGER`, in any case. -/
def isIntegerType (declared : Option String) : Bool :=
  (declared.map upperName) == some "INTEGER"

/-- The types a column of a strict table may be declared with. -/
def strictTypes : List String := ["INT", "INTEGER", "REAL", "TEXT", "BLOB", "ANY"]

/-- A collation by name, or the failure for a name no collation has. -/
def collationOf (name : String) : Outcome Collation :=
  match Collation.ofName? name with
  | some c => pure c
  | none => throw (.coded .missingCollation ("no such collation sequence: " ++ name))

/-- Whether a default is a constant: it reads no column and holds no subquery. -/
def constantDefault : Nat → Term → Bool
  | 0, _ => false
  | n + 1, t =>
    match t with
    | .literal _ | .param _ | .currentTime _ => true
    | .column none nm _ _ => foldName nm == "true" || foldName nm == "false"
    | .column _ _ _ _ => false
    | .unary _ a | .isNull a _ | .cast a _ | .collate a _ => constantDefault n a
    | .binary _ a b => constantDefault n a && constantDefault n b
    | .between a b c _ => constantDefault n a && constantDefault n b && constantDefault n c
    | .like a b esc _ => constantDefault n a && constantDefault n b && esc.all (constantDefault n)
    | .inList a items _ => constantDefault n a && items.all (constantDefault n)
    | .caseOf o bs e =>
      o.all (constantDefault n) && bs.all (fun (a, b) => constantDefault n a && constantDefault n b) &&
        e.all (constantDefault n)
    | .call _ args _ _ _ order filter window =>
      args.all (constantDefault n) && order.isEmpty && filter.isNone && window.isNone
    | .rowValue items => items.all (constantDefault n)
    | _ => false

/-- Whether a default is a value without evaluation, as a column added to a table with rows
needs: a literal, `null`, `true` or `false`, under signs and casts. -/
def literalDefault : Nat → Term → Bool
  | 0, _ => false
  | n + 1, t =>
    match t with
    | .literal _ => true
    | .column none nm _ _ => foldName nm == "true" || foldName nm == "false"
    | .unary .plus a | .unary .neg a | .cast a _ => literalDefault n a
    | _ => false

/-- A key of a table being defined: its columns by position with collation and direction,
what a conflict on it does, and whether it is the primary key. -/
structure KeyDraft where
  parts : List (Nat × Collation × Bool)
  conflict : Option OnConflict
  primary : Bool

/-- The column an indexed column of a key names. -/
def keyColumn (cols : List ColumnDef) (ic : IndexedColumn) : Outcome Nat :=
  match ic.term with
  | .column none nm _ _ =>
    match cols.findIdx? (fun c => sameName c.name nm) with
    | some i => pure i
    | none => throw (Failure.general ("no such column: " ++ nm))
  | _ => throw (Failure.general "expressions prohibited in PRIMARY KEY and UNIQUE constraints")

/-- The parts of a key over indexed columns: each column with its collation (the one given,
else the column's) and direction. -/
def keyParts (cols : List ColumnDef) (colls : Array Collation) (ics : List IndexedColumn) :
    Outcome (List (Nat × Collation × Bool)) :=
  ics.mapM fun ic => do
    let i ← keyColumn cols ic
    let c ← match ic.collation with
      | some nm => collationOf nm
      | none => pure (colls[i]?.getD .binary)
    pure (i, c, ic.descending)

/-- The keys of a definition in the order they are written: the primary key and UNIQUE of
each column, then the table's keys. -/
def keyDrafts (cols : List ColumnDef) (colls : Array Collation) (constraints : List TableConstraint) :
    Outcome (List KeyDraft) := do
  let own := cols.zipIdx.flatMap fun (c, i) =>
    (if c.primaryKey then [⟨[(i, colls[i]?.getD .binary, c.descending)], c.keyConflict, true⟩] else []) ++
    (if c.unique then [⟨[(i, colls[i]?.getD .binary, false)], c.uniqueConflict, false⟩] else [])
  let table ← constraints.filterMapM fun
    | .primaryKey ics _ conflict => do pure (some ⟨← keyParts cols colls ics, conflict, true⟩)
    | .unique ics conflict => do pure (some ⟨← keyParts cols colls ics, conflict, false⟩)
    | _ => pure none
  pure (own ++ table)

/-- Whether two keys cover the same columns under the same collations. -/
def sameKey (a b : List (Nat × Collation × Bool)) : Bool :=
  a.length == b.length && (a.zip b).all fun ((i, c, _), (j, d, _)) => i == j && c == d

/-- The indexes a table's keys need: the primary key unless it is the row id, and each
UNIQUE over columns no earlier key covers, in order. A UNIQUE over the primary key's columns
is the primary key's index. -/
def keyIndexes (keys : List KeyDraft) (rowidKey : Bool) : List KeyDraft :=
  keys.foldl (fun (acc : List KeyDraft) k =>
    if k.primary && rowidKey then acc
    else
      match acc.findIdx? (fun a => sameKey a.parts k.parts) with
      | some j => if k.primary then acc.modify j (fun a => { a with primary := true }) else acc
      | none => acc ++ [k]) []

/-- The index a key needs, named with its count among the table's automatic indexes. -/
def keyIndex (table : String) (k : KeyDraft) (count : Nat) : Index :=
  { name := "sqlite_autoindex_" ++ table ++ "_" ++ toString count, table := table,
    parts := k.parts.map fun (i, c, d) => ⟨.column i, c, d⟩, unique := true,
    origin := if k.primary then .primaryKey else .unique, onConflict := k.conflict, filter := none,
    sql := none, page := 0, seq := 0 }

/-- A table from its definition, with the indexes its keys need (pages and places in the
schema are given later). -/
def table (name : String) (cols : List ColumnDef) (constraints : List TableConstraint)
    (options : TableOptions) (sql : String) : Outcome (Table × List Index) := do
  let mut seen : List String := []
  let mut colls : Array Collation := #[]
  for c in cols do
    if seen.any (sameName · c.name) then throw (Failure.general ("duplicate column name: " ++ c.name))
    seen := seen ++ [c.name]
    let coll ← match c.collation with
      | some nm => collationOf nm
      | none => pure .binary
    colls := colls.push coll
    match c.defaultValue with
    | some d =>
      if !constantDefault 1000 d then
        throw (Failure.general ("default value of column [" ++ c.name ++ "] is not constant"))
    | none => pure ()
  let keys ← keyDrafts cols colls constraints
  let primaries := keys.filter (·.primary)
  if primaries.length > 1 then
    throw (Failure.general ("table \"" ++ name ++ "\" has more than one primary key"))
  let primary := primaries.head?
  let columnDesc (i : Nat) : Bool := ((cols[i]?).map fun c => c.primaryKey && c.descending).getD false
  let rowidColumn : Option Nat := match primary with
    | some ⟨[(i, _, _)], _, _⟩ =>
      if !options.withoutRowid && isIntegerType ((cols[i]?).bind (·.declaredType)) && !columnDesc i then
        some i else none
    | _ => none
  let auto := cols.any (·.autoincrement) || constraints.any fun
    | .primaryKey _ a _ => a
    | _ => false
  if auto && options.withoutRowid then
    throw (Failure.general "AUTOINCREMENT not allowed on WITHOUT ROWID tables")
  if auto && rowidColumn.isNone then
    throw (Failure.general "AUTOINCREMENT is only allowed on an INTEGER PRIMARY KEY")
  if options.withoutRowid && primary.isNone then
    throw (Failure.general ("PRIMARY KEY missing on table " ++ name))
  if options.strict then
    for c in cols do
      match c.declaredType with
      | none => throw (Failure.general ("missing datatype for " ++ name ++ "." ++ c.name))
      | some ty =>
        if !strictTypes.contains (upperName ty) then
          throw (Failure.general ("unknown datatype for " ++ name ++ "." ++ c.name ++ ": \"" ++ ty ++ "\""))
  let pkParts := (primary.map (·.parts)).getD []
  let columns := (cols.zip colls.toList).zipIdx.map fun ((c, coll), i) =>
    let keyPos := match pkParts.findIdx? (·.1 == i) with
      | some k => k + 1
      | none => 0
    ({ name := c.name, declaredType := c.declaredType, affinity := Affinity.ofType c.declaredType,
       collation := coll, notNull := c.notNull || (options.withoutRowid && keyPos > 0),
       notNullConflict := c.notNullConflict, defaultValue := c.defaultValue, defaultText := c.defaultText,
       generated := c.generated, keyPosition := keyPos } : Column)
  let checks := cols.flatMap (·.checks) ++ constraints.filterMap fun
    | .check nm t => some (nm, t)
    | _ => none
  let fks := cols.filterMap (fun c => c.references.map fun r => (⟨[c.name], r⟩ : ForeignKeyDef)) ++
    constraints.filterMap fun
      | .foreignKey cs r => some ⟨cs, r⟩
      | _ => none
  let indexes := (keyIndexes keys rowidColumn.isSome).zipIdx.map fun (k, j) => keyIndex name k (j + 1)
  let t : Table := {
    name := name, columns := columns.toArray, rowidColumn := rowidColumn,
    withoutRowid := options.withoutRowid, strict := options.strict, autoincrement := auto,
    primaryKey := pkParts, checks := checks, foreignKeys := fks, sql := sql, page := 0, seq := 0,
    rows := #[], maxRowid := 0 }
  pure (t, indexes)

/-- The type a column of a table made from a query is declared with, from the preference of
the query's column. -/
def typeOfAffinity : Option Affinity → Option String
  | some .integer => some "INT"
  | some .text => some "TEXT"
  | some .real => some "REAL"
  | some .numeric => some "NUM"
  | _ => none

/-- A table made from a query's columns, with the text the schema keeps for it. -/
def tableOfQuery (name : String) (columns : List (String × Option Affinity)) : Table :=
  let lines := columns.map fun (nm, aff) =>
    "  " ++ quoteName nm ++ ((typeOfAffinity aff).map (" " ++ ·)).getD ""
  let sql := "CREATE TABLE " ++ quoteName name ++ "(\n" ++ ",\n".intercalate lines ++ "\n)"
  let cols := columns.map fun (nm, aff) =>
    let ty := typeOfAffinity aff
    ({ name := nm, declaredType := ty, affinity := Affinity.ofType ty, collation := .binary,
       notNull := false } : Column)
  { name := name, columns := cols.toArray, rowidColumn := none, withoutRowid := false, strict := false,
    autoincrement := false, primaryKey := [], checks := [], foreignKeys := [], sql := sql, page := 0,
    seq := 0, rows := #[], maxRowid := 0 }

/-- A plain table over named columns with a given text, as the schema's own tables are. -/
def plainTable (name : String) (columns : List String) (sql : String) : Table :=
  { name := name,
    columns := (columns.map fun nm => ({
      name := nm, declaredType := none, affinity := .blob,
      collation := .binary, notNull := false } : Column)).toArray,
    rowidColumn := none, withoutRowid := false, strict := false, autoincrement := false,
    primaryKey := [], checks := [], foreignKeys := [], sql := sql, page := 0, seq := 0, rows := #[],
    maxRowid := 0 }

/-- The table that keeps the largest row id of each table with `autoincrement`. -/
def sequenceTable : Table := plainTable "sqlite_sequence" ["name", "seq"] "CREATE TABLE sqlite_sequence(name,seq)"

/-- The index parts of `create index` columns over a table: a column by name (or the row id),
or an expression, with its collation and direction. -/
def indexParts (t : Table) (ics : List IndexedColumn) : Outcome (List IndexPart) :=
  ics.mapM fun ic => do
    let source : IndexSource := match ic.term with
      | .column none nm _ _ =>
        match t.columnIndex? nm with
        | some i => .column i
        | none => if Binder.rowidNames.contains (foldName nm) && !t.withoutRowid then .rowid else .expr ic.term
      | other => .expr other
    let coll ← match ic.collation with
      | some nm => collationOf nm
      | none =>
        match source with
        | .column i => pure ((t.columns[i]?.map (·.collation)).getD .binary)
        | _ => pure .binary
    pure ⟨source, coll, ic.descending⟩

end Define

end QueryDoc.Store
