import QueryDoc.Store.Pragma.Registry
import QueryDoc.Store.Reference
import QueryDoc.Store.Virtual

/-!
The rows of the pragmas that describe the schema.

`table_info` shows a table's columns (`table_xinfo` also its hidden and generated ones),
`index_list` its indexes, `index_info` the columns of an index, `foreign_key_list` its
references, and `table_list` every table and view of each database with its kind and width.
The tables and views are walked in the order the schema's table hash keeps them.

A table that keeps the data of a virtual table, such as `f_data` for a full-text table `f`,
is a shadow table.
-/

namespace QueryDoc.Store

namespace Pragma

/-- The text `pragma foreign_key_list` shows for an action. -/
def actionText : ForeignAction → String
  | .noAction => "NO ACTION"
  | .restrict => "RESTRICT"
  | .setNull => "SET NULL"
  | .setDefault => "SET DEFAULT"
  | .cascade => "CASCADE"

/-- An index by name, with its table, in a named database or in search order. -/
def indexNamed (cat : Catalog) (schema : Option String) (name : String) : Option (Index × Table) :=
  (cat.scope schema).findSome? fun (_, db) =>
    (db.index? name).bind fun i => (db.table? i.table).map (i, ·)

/-- A boolean as the integer a pragma shows. -/
def flag (b : Bool) : Datum := .integer (if b then 1 else 0)

/-- A row of `table_info` (with the hidden column's code when `extended`). -/
def infoRow (extended : Bool) (cid : Nat) (name type : String) (notNull : Bool) (dflt : Datum) (pk : Nat)
    (hidden : Nat) : Array Datum :=
  let row := #[.integer cid, .text name, .text type, flag notNull, dflt, .integer pk]
  if extended then row.push (.integer hidden) else row

/-- The rows of `table_info` (or `table_xinfo` when `extended`): one per column, generated
and hidden columns only in the extended form, numbered among those shown. -/
def tableInfo (t : Table) (extended : Bool) : List (Array Datum) :=
  let step (acc : List (Array Datum) × Nat) (c : Column) : List (Array Datum) × Nat :=
    let hidden : Nat := match c.generated with
      | some (_, stored) => if stored then 3 else 2
      | none => 0
    if hidden > 0 && !extended then acc
    else
      let dflt : Datum := if hidden > 0 then .null else (c.defaultText.map Datum.text).getD .null
      (acc.1 ++ [infoRow extended acc.2 c.name (shownType c.declaredType) c.notNull dflt c.keyPosition hidden],
        acc.2 + 1)
  let (rows, next) := t.columns.toList.foldl step ([], 0)
  let hiddenRows := if extended then
      (Virtual.hiddenColumns t).zipIdx.map fun (nm, k) => infoRow true (next + k) nm "" false .null 0 1
    else []
  rows ++ hiddenRows

/-- The rows of `table_info` for columns known only by name and type, as a view's are. -/
def plainInfo (cols : List (String × String)) (extended : Bool) : List (Array Datum) :=
  cols.zipIdx.map fun ((nm, ty), k) => infoRow extended k nm ty false .null 0 0

/-- The columns of the schema table, with their types. -/
def schemaColumns : List (String × String) :=
  [("type", "TEXT"), ("name", "TEXT"), ("tbl_name", "TEXT"), ("rootpage", "INT"), ("sql", "TEXT")]

/-- The name of a table column an index part reads, if it reads one. -/
def partColumn (t : Table) (p : IndexPart) : Int × Datum :=
  match p.source with
  | .column c => (c, ((t.columns[c]?).map (fun (col : Column) => Datum.text col.name)).getD .null)
  | .rowid => (-1, .null)
  | .expr _ => (-2, .null)

/-- The rows of `index_info` (or `index_xinfo` when `extended`, which adds the columns that
identify the row after the key). -/
def indexInfo (i : Index) (t : Table) (extended : Bool) : List (Array Datum) :=
  let keys := i.parts.zipIdx.map fun (p, k) =>
    let (cid, nm) := partColumn t p
    let base := #[.integer k, .integer cid, nm]
    if extended then base ++ #[flag p.descending, .text p.collation.name, .integer 1] else base
  if !extended then keys
  else
    let trailing : List (Int × Datum) :=
      if t.withoutRowid then
        (t.primaryKey.filter fun (c, _, _) => !i.parts.any (fun p => match p.source with
            | .column d => d == c
            | _ => false)).map fun (c, _, _) =>
          ((c : Int), ((t.columns[c]?).map (fun (col : Column) => Datum.text col.name)).getD .null)
      else [(-1, .null)]
    keys ++ trailing.zipIdx.map fun ((cid, nm), k) =>
      #[.integer (i.parts.length + k), .integer cid, nm, .integer 0, .text "BINARY", .integer 0]

/-- The rows of `index_list`: the table's indexes, the latest made first. -/
def indexList (db : Database) (t : Table) : List (Array Datum) :=
  (db.indexesOf t.name).zipIdx.map fun (i, k) =>
    #[.integer k, .text i.name, flag i.unique, .text i.origin.code, flag i.filter.isSome]

/-- The rows of `foreign_key_list`: each foreign key, the latest declared first, one row per
column. -/
def foreignKeyList (t : Table) : List (Array Datum) :=
  t.foreignKeys.reverse.zipIdx.flatMap fun (fk, id) =>
    fk.columns.zipIdx.map fun (c, k) =>
      #[.integer id, .integer k, .text fk.ref.parent, .text c,
        ((fk.ref.parentColumns[k]?).map Datum.text).getD .null,
        .text (actionText fk.ref.onUpdate), .text (actionText fk.ref.onDelete), .text "NONE"]

/-- The tables and views of a database in the order its schema's table hash walks them,
with the name the schema table is shown by. -/
def hashOrder (db : Database) : List (String × Option Table × Option View) :=
  db.names.order.filterMap fun nm =>
    if nm == "sqlite_master" then some ("sqlite_schema", none, none)
    else if nm == "sqlite_temp_master" then some ("sqlite_temp_schema", none, none)
    else match db.table? nm, db.view? nm with
      | none, none => none
      | t, v => some (nm, t, v)

/-- Whether a table keeps the data of a virtual table of its database. -/
def isShadow (db : Database) (t : Table) : Bool :=
  db.tables.any fun v => v.virtual.isSome && (Virtual.shadowTables v).any (sameName · t.name)

/-- The kind `table_list` shows for a table. -/
def tableKind (db : Database) (t : Table) : String :=
  if t.virtual.isSome then "virtual" else if isShadow db t then "shadow" else "table"

/-- The number of columns `table_list` shows for a table: with a virtual table's hidden
ones. -/
def tableWidth (t : Table) : Nat := t.columns.size + (Virtual.hiddenColumns t).length

/-- The rows of `foreign_key_check`: for the table named, else for each table of the database
in the order its table hash walks them, its broken references. -/
def foreignKeyCheck (cat : Catalog) (schema : Option String) (arg : Option String) :
    Outcome (List (Array Datum)) :=
  match arg with
  | some nm =>
    match cat.table? schema nm with
    | some (dbName, t) =>
      match cat.db? dbName with
      | some db => Reference.dangling db dbName t
      | none => pure []
    | none => throw (Failure.general ("no such table: " ++ (match schema with
        | some s => s ++ "." ++ nm
        | none => nm)))
  | none =>
    let dbName := schema.getD "main"
    match cat.db? dbName with
    | some db =>
      let tables := (hashOrder db).filterMap fun (_, t, _) => t
      return (← tables.mapM (Reference.dangling db dbName)).flatten
    | none => pure []

end Pragma

end QueryDoc.Store
