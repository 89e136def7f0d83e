import QueryDoc.Store.Parser
import QueryDoc.Store.Analyze
import QueryDoc.Store.SchemaText
import QueryDoc.Store.Pages

/-!
Preparing and running one statement on a connection's databases.

Preparing reads the first statement of a text and, for a query or a statement that changes
rows, looks up its names; failures of either kind come before anything runs. Running gives
the databases after the statement and what it answered: rows with their column names, or
nothing.

Statements that define objects check their names first: a name that starts with `sqlite_`
is reserved, and a table, view, index or trigger may not take a name its database already
gives to another. A table's pages and its place in the schema are taken when it is made;
dropping it frees them, with those of its indexes, and drops its triggers. Renaming a table
or a column edits the texts the schema keeps: the new table name is written in double quotes
wherever the old one stood.
-/

namespace QueryDoc.Store

/-- What a statement answered: rows with their column names, or nothing. -/
inductive Answer where
  | rows (names : List String) (rows : Array (Array Datum))
  | done

/-- A statement ready to run. -/
inductive Prepared where
  /-- A query, with its column names. -/
  | query (q : Bound.Query) (names : List String)
  /-- A statement that changes rows, with the names of the columns it returns. -/
  | change (p : ChangePlan) (names : List String)
  /-- Any other statement, which runs as written. -/
  | command (c : Command)
  /-- `explain` of a statement (`explain query plan` when `queryPlan`), which runs nothing
  and, when `answers`, lists the statement's steps; the listing is cut to its first row. -/
  | explained (queryPlan : Bool) (answers : Bool)

/-- How running a statement ended: the databases to keep, the answer, the connection's new
count of changed rows when the statement sets it, the rows it changed in all, the row id it
last inserted, and its failure with what the failure undoes. -/
structure Ran where
  catalog : Catalog
  answer : Answer
  changes : Option Nat
  total : Nat
  lastRowid : Option Int
  failure : Option (Failure × OnConflict)

namespace Statement

/-- Names as a statement's own text sees them. -/
def topEnv (cat : Catalog) (sql : String) : BindEnv :=
  { catalog := cat, sql := sql, scopes := [], ctes := [], noOffsets := false, aggMisuse := false }

/-- The stored tables a source reads. -/
def sourceTables : Bound.Source → List String
  | .table ref _ => [ref.name]
  | .join l _ r _ _ _ => sourceTables l ++ sourceTables r
  | .nested parts _ _ => parts.map fun (.mk ref _ _ _ _) => ref.name
  | .virtual ref _ => [ref.name]
  | _ => []

/-- The stored tables a simple select reads in its `from`. -/
def coreTables : Bound.Core → List String
  | .select src _ _ _ _ _ _ _ _ _ _ _ => sourceTables src
  | .values _ => []

/-- The stored tables the outermost selects of a query read. -/
def queryTables : Bound.Query → List String
  | .mk _ first rest _ _ _ _ => coreTables first ++ rest.flatMap fun (_, c) => coreTables c

/-- The names of the columns a statement that changes rows returns. -/
def returnedNames : ChangePlan → List String
  | .insert p => (p.returning.map (·.names)).getD []
  | .update p => (p.returning.map (·.names)).getD []
  | .delete p => (p.returning.map (·.names)).getD []

/-- Prepares a statement. -/
def prepareCommand (cat : Catalog) (sql : String) (cmd : Command) : Outcome Prepared := do
  let env := topEnv cat sql
  match cmd with
  | .query q =>
    let (q', infos) ← Plan.bindAll (Binder.query depthBudget env q)
    pure (.query q' (infos.map (·.name)))
  | other =>
    match ← Plan.bindAll (Plan.change depthBudget env other) with
    | some p => pure (.change p (returnedNames p))
    | none => pure (.command other)

/-- Whether the plan of a prepared statement has a step to show: it reads a table or a
query. -/
def hasPlanSteps : Prepared → Bool
  | .query _ _ => true
  | .change (.insert p) _ =>
    match p.source with
    | .query _ => true
    | _ => false
  | .change _ _ => true
  | _ => false

/-- Finds what `reindex` names: a collation (when the name is not qualified), else a table,
view or index. -/
def reindexTarget (cat : Catalog) : Option (Option String × String) → Outcome Unit
  | none => pure ()
  | some (schema, n) => do
    if schema.isNone && ["binary", "nocase", "rtrim"].contains (foldName n) then return ()
    let dbs ← match schema with
      | some s =>
        match cat.db? s with
        | some db => pure [db]
        | none => throw (Failure.general ("unknown database " ++ s))
      | none => pure (cat.dbs.map (·.2))
    if dbs.any (fun db => (db.table? n).isSome || (db.view? n).isSome || (db.index? n).isSome) then pure ()
    else throw (Failure.general "unable to identify the object to be reindexed")

/-- Prepares the first statement of a text; also gives the number of parameters it takes. -/
def prepare (cat : Catalog) (sql : String) : Outcome (Prepared × Nat) := do
  let (cmd, count) ← Command.parse sql
  match cmd with
  | .reindex target =>
    reindexTarget cat target
    pure (.command cmd, count)
  | .vacuum (some s) _ =>
    if (cat.db? s).isNone then throw (Failure.general ("unknown database " ++ s))
    pure (.command cmd, count)
  | .explain queryPlan inner =>
    let p ← prepareCommand cat sql inner
    pure (.explained queryPlan (!queryPlan || hasPlanSteps p), count)
  | other => pure (← prepareCommand cat sql other, count)

/-- The tables a prepared statement reads and writes, for the locks of shared databases. -/
def access : Prepared → List String × List String
  | .query q _ => (queryTables q, [])
  | .change (.insert p) _ => ([], [p.target.name])
  | .change (.update p) _ => ([p.target.name], [p.target.name])
  | .change (.delete p) _ => ([p.target.name], [p.target.name])
  | .command (.createTable _ _ _ name _ _) => ([], [name])
  | .command (.drop .table _ _ name) => ([], [name])
  | .command (.alterTable _ name _) => ([], [name])
  | .command _ => ([], [])
  | .explained _ _ => ([], [])

/-- Whether a prepared statement reads a database file: a query of a stored table, a change
of rows, or a change of the schema. -/
def readsDatabase : Prepared → Bool
  | .query q _ => !(queryTables q).isEmpty
  | .change _ _ => true
  | .command (.createTable ..) | .command (.createVirtualTable ..) | .command (.createIndex ..)
  | .command (.createView ..) | .command (.createTrigger ..) | .command (.drop ..)
  | .command (.alterTable ..) | .command (.analyze _) | .command (.reindex _) => true
  | _ => false

/-! ### Objects of a database -/

/-- The failure of a name kept for the schema's own objects. -/
def checkReserved (name : String) : Outcome Unit :=
  if (foldName name).startsWith "sqlite_" then
    throw (Failure.general ("object name reserved for internal use: " ++ name))
  else pure ()

/-- The database a new object goes into: `temp` for a temporary one, else the one named, else
`main`. -/
def homeOf (cat : Catalog) (temp : Bool) (schema : Option String) (what : String) : Outcome String :=
  match temp, schema with
  | true, some s =>
    if sameName s "temp" then pure "temp"
    else throw (Failure.general ("temporary " ++ what ++ " name must be unqualified"))
  | true, none => pure "temp"
  | false, some s =>
    match cat.dbs.find? (fun (n, _) => sameName n s) with
    | some (n, _) => pure n
    | none => throw (Failure.general ("unknown database " ++ s))
  | false, none => pure "main"

/-- A database by name. -/
def databaseOf (cat : Catalog) (name : String) : Outcome Database :=
  match cat.db? name with
  | some db => pure db
  | none => throw (Failure.general ("unknown database " ++ name))

/-- A database whose planner no longer knows statistics of an index of this name. -/
def forgetStats (db : Database) (name : String) : Database :=
  { db with statistics := { db.statistics with
      indexes := db.statistics.indexes.filter (·.1 != foldName name) } }

/-- Adds a table and the indexes of its keys, taking pages and places in the schema. -/
def addTable (db : Database) (t : Table) (indexes : List Index) (virtual : Bool) : Database :=
  let (db, page) := if virtual then (db, 0) else db.takePage
  let (db, seq) := db.takeSeq
  let t := { t with page := page, seq := seq }
  let (db, idxs) := indexes.foldl (fun (acc : Database × List Index) i =>
    if i.origin == .primaryKey && t.withoutRowid then (acc.1, acc.2 ++ [{ i with page := page }])
    else
      let (db, p) := acc.1.takePage
      let (db, s) := db.takeSeq
      (db, acc.2 ++ [{ i with page := p, seq := s }])) (db, [])
  { db with tables := db.tables ++ [t], indexes := db.indexes ++ idxs, names := db.names.insert t.name }.touch

/-- Adds an index, taking a page and a place in the schema. -/
def addIndex (db : Database) (i : Index) : Database :=
  let db := forgetStats db i.name
  let (db, p) := db.takePage
  let (db, s) := db.takeSeq
  { db with indexes := db.indexes ++ [{ i with page := p, seq := s }] }.touch

/-- Checks that a name is free for a table or a view in a database. -/
def tableNameFree (db : Database) (name : String) : Outcome Unit := do
  match db.table? name, db.view? name with
  | some t, _ => throw (Failure.general ("table " ++ t.name ++ " already exists"))
  | _, some v => throw (Failure.general ("view " ++ v.name ++ " already exists"))
  | none, none =>
    if (db.index? name).isSome then throw (Failure.general ("there is already an index named " ++ name))

/-- Binds an expression of a table's definition, for the failures it has. -/
def checkOver (cat : Catalog) (ref : TableRef) (t : Table) (term : Term) : Outcome Unit := do
  let _ ← Change.bindOver cat ref t term
  pure ()

/-- Values converted to the preferences of a table's columns. -/
def storedRow (t : Table) (values : Array Datum) : Array Datum := Change.stored t values

/-- Creates a table from its definition or from a query. -/
def createTable (cat : Catalog) (g : Given) (sql : String) (temp ine : Bool) (schema : Option String)
    (name : String) (body : TableBody) (text : String) : Outcome Catalog := do
  let dbName ← homeOf cat temp schema "table"
  let db ← databaseOf cat dbName
  checkReserved name
  if ine && ((db.table? name).isSome || (db.view? name).isSome) then return cat
  tableNameFree db name
  match body with
  | .columns cols constraints options =>
    let (t, idxs) ← Define.table name cols constraints options ("CREATE TABLE " ++ text)
    let ref : TableRef := ⟨dbName, name⟩
    for (_, term) in t.checks do checkOver cat ref t term
    for c in t.columns do
      match c.generated with
      | some (term, _) => checkOver cat ref t term
      | none => pure ()
    let db := addTable db t idxs false
    let db := if t.autoincrement && (db.table? "sqlite_sequence").isNone then
        addTable db Define.sequenceTable [] false else db
    pure (cat.put dbName db)
  | .query q =>
    let (q', infos) ← Plan.bindAll (Binder.query depthBudget (topEnv cat sql) q)
    let rows ← runQuery depthBudget ⟨cat, g.params, [], g.call⟩ [] q'
    let names := Binder.uniqueNames (infos.map (·.name))
    let t := Define.tableOfQuery name (names.zip (infos.map (·.affinity)))
    let t := rows.toList.zipIdx.foldl (fun (t : Table) (r, k) =>
      t.insertRow ⟨k + 1, storedRow t r⟩) t
    pure (cat.put dbName (addTable db t [] false))

/-- Creates a virtual table as its module declares it, with the tables that keep its data;
none when it exists already and the statement allows that. -/
def createVirtual (cat : Catalog) (ine : Bool) (schema : Option String) (name module text : String) :
    Outcome (Catalog × Option Virtual.Declared) := do
  let dbName ← homeOf cat false schema "table"
  let db ← databaseOf cat dbName
  checkReserved name
  if ine && ((db.table? name).isSome || (db.view? name).isSome) then return (cat, none)
  tableNameFree db name
  let d ← match Virtual.declare name module (Virtual.moduleArguments text) with
    | .ok d => pure d
    | .error m => throw (Failure.general m)
  let columns : Array Column := (d.columns.map fun (nm, ty) =>
    ({ name := nm, declaredType := ty, affinity := Affinity.ofType ty, collation := .binary,
       notNull := false } : Column)).toArray
  let t : Table := { Define.plainTable name [] ("CREATE VIRTUAL TABLE " ++ text) with
    columns := columns, virtual := some d.kind }
  let mut db := addTable db t [] true
  for shadowSql in d.shadows do
    match ← Command.parse shadowSql with
    | (.createTable _ _ _ nm (.columns cols constraints options) _, _) =>
      let (st, idxs) ← Define.table nm cols constraints options shadowSql
      db := addTable db st idxs false
    | _ => pure ()
  for (tname, row) in d.seeds do
    db := match db.table? tname with
      | some st => db.putTable (st.insertRow row)
      | none => db
  pure (cat.put dbName db, some d)

/-- The tables `analyze` keeps what it gathers in, with their columns. -/
def statTables : List (String × List String) :=
  [("sqlite_stat1", ["tbl", "idx", "stat"]), ("sqlite_stat4", ["tbl", "idx", "neq", "nlt", "ndlt", "sample"])]

/-- A database whose statistics tables are made when missing; in those already there, the
lines whose column `k` is the text `v` are taken out, or every line when none is given. -/
def openStats (db : Database) (only : Option (Nat × String)) : Database :=
  statTables.foldl (fun db (nm, cols) =>
    match db.table? nm with
    | none =>
      addTable db (Define.plainTable nm cols ("CREATE TABLE " ++ nm ++ "(" ++ ",".intercalate cols ++ ")")) [] false
    | some t =>
      let keep (r : Row) : Bool := match only with
        | some (k, v) => match r.values[k]? with
          | some (.text x) => x != v
          | _ => true
        | none => false
      db.putTable { t with rows := t.rows.filter keep }) db

/-- A database with lines added to one of its statistics tables, each under the next row
id. -/
def appendStats (table : String) (db : Database) (lines : List (Array Datum)) : Database :=
  match db.table? table with
  | some t =>
    let start := (t.rows.foldl (fun m r => max m r.rowid) 0) + 1
    db.putTable (lines.zipIdx.foldl (fun (t : Table) (vals, k) => t.insertRow ⟨start + k, vals⟩) t)
  | none => db

/-- Gathers the statistics of the tables of a database, or of one table or index of it. -/
def analyzeIn (g : Given) (cat : Catalog) (dbName : String) (target : Option (Table × Option Index))
    (limit : Nat) : Outcome Catalog := do
  let db ← databaseOf cat dbName
  let only : Option (Nat × String) := match target with
    | some (_, some i) => some (1, i.name)
    | some (t, none) => some (0, t.name)
    | none => none
  let db := openStats db only
  let cat := cat.put dbName db
  let tables : List Table := match target with
    | some (t, _) => [t]
    | none => db.names.order.filterMap db.table?
  let mut lines : List (Array Datum) := []
  let mut samples : List (Array Datum) := []
  for t in tables do
    if !Analyze.skipped t then
      let (more, sampled) ← Analyze.tableLines g cat ⟨dbName, t.name⟩ t (db.indexesOf t.name)
        (match target with
          | some (_, some i) => some i.name
          | _ => none) limit
      lines := lines ++ more
      samples := samples ++ sampled
  pure (cat.put dbName (appendStats "sqlite_stat4" (appendStats "sqlite_stat1" db lines) samples).loadStatistics)

/-- Runs `analyze`: on every database but the temporary one; on a database named alone; else
on the index, or failing that the table, of that name. -/
def analyze (g : Given) (cat : Catalog) (target : Option (Option String × String)) : Outcome Catalog := do
  let limit := cat.settings.analysisLimit
  match target with
  | none => cat.dbs.foldlM (fun c (n, _) => if n == "temp" then pure c else analyzeIn g c n none limit) cat
  | some (schema, name) =>
    match schema, cat.db? name with
    | none, some _ =>
      let dbName := ((cat.dbs.find? (fun (n, _) => sameName n name)).map (·.1)).getD name
      analyzeIn g cat dbName none limit
    | _, _ =>
      match schema with
      | some s => if (cat.db? s).isNone then throw (Failure.general ("unknown database " ++ s)) else pure ()
      | none => pure ()
      let index := (cat.scope schema).findSome? fun (n, db) => (db.index? name).map (n, ·)
      match index with
      | some (dbName, i) =>
        match (cat.db? dbName).bind (·.table? i.table) with
        | some t => analyzeIn g cat dbName (some (t, some i)) limit
        | none => pure cat
      | none =>
        match cat.table? schema name with
        | some (dbName, t) => analyzeIn g cat dbName (some (t, none)) limit
        | none =>
          match cat.view? schema name with
          | some (dbName, _) => pure (cat.put dbName (openStats (← databaseOf cat dbName) none).loadStatistics)
          | none =>
            throw (Failure.general ("no such table: " ++ (match schema with
              | some s => s ++ "." ++ name
              | none => name)))

/-- Creates an index over a table. -/
def createIndex (cat : Catalog) (g : Given) (unique ine : Bool) (schema : Option String) (name table : String)
    (cols : List IndexedColumn) (filter : Option Term) (text : String) : Outcome Catalog := do
  match cat.table? schema table with
  | none =>
    if (cat.view? schema table).isSome then throw (Failure.general "views may not be indexed")
    else throw (Failure.general ("no such table: " ++ schema.getD "main" ++ "." ++ table))
  | some (dbName, t) =>
    let db ← databaseOf cat dbName
    checkReserved name
    if (db.index? name).isSome then
      if ine then return cat
      else throw (Failure.general ("index " ++ name ++ " already exists"))
    if (db.table? name).isSome || (db.view? name).isSome then
      throw (Failure.general ("there is already a table named " ++ name))
    let parts ← Define.indexParts t cols
    let ref : TableRef := ⟨dbName, t.name⟩
    for p in parts do
      match p.source with
      | .expr term => checkOver cat ref t term
      | _ => pure ()
    match filter with
    | some f => checkOver cat ref t f
    | none => pure ()
    let i : Index := {
      name := name, table := t.name, parts := parts, unique := unique, origin := .created,
      onConflict := none, filter := filter,
      sql := some ("CREATE " ++ (if unique then "UNIQUE " else "") ++ "INDEX " ++ text), page := 0, seq := 0 }
    if unique then
      for r in t.rows do
        let hits ← Change.indexConflicts g cat ref t i (Change.fullRow r) (some r.rowid)
        if !hits.isEmpty then
          throw (match Change.uniqueFailure t i with
            | .coded _ m => .coded .constraintUnique m
            | f => f)
    pure (cat.put dbName (addIndex db i))

/-- Creates a view; its query is only looked at when it is used. -/
def createView (cat : Catalog) (temp ine : Bool) (schema : Option String) (name : String) (cols : List String)
    (q : Query) (text : String) : Outcome Catalog := do
  let dbName ← homeOf cat temp schema "view"
  let db ← databaseOf cat dbName
  checkReserved name
  if ine && ((db.table? name).isSome || (db.view? name).isSome) then return cat
  tableNameFree db name
  let (db, seq) := db.takeSeq
  let v : View := { name := name, columns := cols, query := q, sql := "CREATE VIEW " ++ text, seq := seq }
  pure (cat.put dbName { db with views := db.views ++ [v], names := db.names.insert v.name }.touch)

/-- The text naming a kind of trigger timing in failures. -/
def timingWord : TriggerTiming → String
  | .before => "BEFORE"
  | .after => "AFTER"
  | .insteadOf => "INSTEAD OF"

/-- Creates a trigger on a table. -/
def createTrigger (cat : Catalog) (temp ine : Bool) (schema : Option String) (name : String)
    (timing : TriggerTiming) (event : TriggerEvent) (table : String) (whenCond : Option Term)
    (body : List Command) (text : String) : Outcome Catalog := do
  let lookIn := if temp then none else schema
  match cat.table? lookIn table with
  | none =>
    match cat.view? lookIn table with
    | some (vdb, v) =>
      if timing != .insteadOf then
        throw (Failure.general ("cannot create " ++ timingWord timing ++ " trigger on view: " ++ vdb ++ "." ++ v.name))
      let dbName := if temp then "temp" else vdb
      let db ← databaseOf cat dbName
      if (db.trigger? name).isSome then
        if ine then return cat else throw (Failure.general ("trigger " ++ name ++ " already exists"))
      let (db, seq) := db.takeSeq
      let tr : Trigger := {
        name := name, table := v.name, timing := timing, event := event,
        whenCond := whenCond, body := body, sql := "CREATE TRIGGER " ++ text, seq := seq }
      pure (cat.put dbName { db with triggers := db.triggers ++ [tr] }.touch)
    | none => throw (Failure.general ("no such table: " ++ lookIn.getD "main" ++ "." ++ table))
  | some (tdb, t) =>
    if timing == .insteadOf then
      throw (Failure.general ("cannot create INSTEAD OF trigger on table: " ++ t.name))
    let dbName := if temp then "temp" else tdb
    let db ← databaseOf cat dbName
    checkReserved name
    if (db.trigger? name).isSome then
      if ine then return cat else throw (Failure.general ("trigger " ++ name ++ " already exists"))
    let (db, seq) := db.takeSeq
    let tr : Trigger := {
      name := name, table := t.name, timing := timing, event := event,
      whenCond := whenCond, body := body, sql := "CREATE TRIGGER " ++ text, seq := seq }
    pure (cat.put dbName { db with triggers := db.triggers ++ [tr] }.touch)

/-- Whether some row of another table refers to a row of a table. -/
def referenced (db : Database) (dbName : String) (t : Table) : Outcome Bool := do
  for (child, fk) in Change.referencing db t do
    if child.name != t.name then
      let (parent, slots, childSlots) ← Reference.parentKey db dbName child fk
      for r in parent.rows do
        let vals := slots.map (r.values[·]?.getD Datum.null)
        if !vals.any Datum.isNull && !(Change.childRows parent slots child childSlots vals).isEmpty then
          return true
  pure false

/-- A database without the lines of its statistics tables whose column `k` (0 the table, 1
the index) is the name given, as written. -/
def clearStats (db : Database) (k : Nat) (name : String) : Database :=
  statTables.foldl (fun db (nm, _) =>
    match db.table? nm with
    | some t => db.putTable { t with rows := t.rows.filter fun r =>
        match (r.values[k]? : Option Datum) with
        | some (.text x) => x != name
        | _ => true }
    | none => db) db

/-- Removes a table with its indexes and triggers, freeing their pages and forgetting its
sequence. -/
def removeTable (cat : Catalog) (dbName : String) (t : Table) : Outcome Catalog := do
  let db ← databaseOf cat dbName
  let gone := db.indexes.filter (fun i => sameName i.table t.name)
  let db := (gone.foldl (fun db i => forgetStats db i.name) (clearStats db 0 t.name))
  let pages := (if t.virtual.isSome then [] else [t.page]) ++ gone.map (·.page)
  let db := { db with
    tables := db.tables.filter (fun u => !sameName u.name t.name),
    names := db.names.remove t.name,
    indexes := db.indexes.filter (fun i => !sameName i.table t.name),
    triggers := db.triggers.filter (fun tr => !sameName tr.table t.name) }
  let db := match db.table? "sqlite_sequence" with
    | some s => db.putTable { s with rows := s.rows.filter fun r =>
        !(((r.values[0]?.getD Datum.null).toText?.map (sameName · t.name)).getD false) }
    | none => db
  let cat := cat.put dbName (db.freePages pages).touch
  pure (if dbName != "temp" then
      cat.update "temp" fun d => { d with triggers := d.triggers.filter (fun tr => !sameName tr.table t.name) }
    else cat)

/-- Drops a table, view, index or trigger; a virtual table takes the tables that keep its
data with it, and the statistics of a table or index go with it. -/
def drop (cat : Catalog) (kind : ObjectKind) (ifExists : Bool) (schema : Option String) (name : String) :
    Outcome Catalog := do
  let shown := match schema with
    | some s => s ++ "." ++ name
    | none => name
  match kind with
  | .table =>
    match cat.table? schema name with
    | none =>
      if (cat.view? schema name).isSome then throw (Failure.general ("use DROP VIEW to delete view " ++ name))
      else if ifExists then pure cat
      else throw (Failure.general ("no such table: " ++ shown))
    | some (dbName, t) =>
      let db ← databaseOf cat dbName
      let folded := foldName t.name
      if folded.startsWith "sqlite_" && !folded.startsWith "sqlite_stat" &&
          !folded.startsWith "sqlite_parameters" then
        throw (Failure.general ("table " ++ t.name ++ " may not be dropped"))
      if cat.settings.has .foreignKeys && (← referenced db dbName t) then
        throw Change.foreignFailure
      let cat ← removeTable cat dbName t
      (Virtual.shadowTables t).foldlM (fun cat shadow =>
        match (cat.db? dbName).bind (·.table? shadow) with
        | some s => removeTable cat dbName s
        | none => pure cat) cat
  | .view =>
    match cat.view? schema name with
    | none =>
      if (cat.table? schema name).isSome then throw (Failure.general ("use DROP TABLE to delete table " ++ name))
      else if ifExists then pure cat
      else throw (Failure.general ("no such view: " ++ shown))
    | some (dbName, v) =>
      pure (cat.update dbName fun db =>
        { db with views := db.views.filter (fun u => !sameName u.name v.name), names := db.names.remove v.name }.touch)
  | .index =>
    match (cat.scope schema).findSome? (fun (n, db) => (db.index? name).map (n, ·)) with
    | none => if ifExists then pure cat else throw (Failure.general ("no such index: " ++ shown))
    | some (dbName, i) =>
      if i.origin != .created then
        throw (Failure.general "index associated with UNIQUE or PRIMARY KEY constraint cannot be dropped")
      pure (cat.update dbName fun db =>
        let db := forgetStats (clearStats db 1 i.name) i.name
        ({ db with indexes := db.indexes.filter (fun j => !sameName j.name i.name) }.freePages [i.page]).touch)
  | .trigger =>
    match (cat.scope schema).findSome? (fun (n, db) => (db.trigger? name).map (n, ·)) with
    | none => if ifExists then pure cat else throw (Failure.general ("no such trigger: " ++ shown))
    | some (dbName, tr) =>
      pure (cat.update dbName fun db =>
        { db with triggers := db.triggers.filter (fun u => !sameName u.name tr.name) }.touch)

/-! ### Changing a table's definition -/

open SchemaText

/-- Changes a table's definition. -/
def alter (cat : Catalog) (g : Given) (schema : Option String) (table : String) (action : AlterAction) :
    Outcome Catalog := do
  let mayNot (name : String) : Failure := Failure.general ("table " ++ name ++ " may not be altered")
  let taken (db : Database) (name : String) : Bool :=
    (db.table? name).isSome || (db.view? name).isSome || (db.index? name).isSome
  let takenFailure (name : String) : Failure :=
    Failure.general ("there is already another table or index with this name: " ++ name)
  let some (dbName, t) := cat.table? schema table
    | do
      -- the schema tables and views are found, then refused
      let lname := foldName table
      let found : Option (String × String × Bool) :=
        if lname == "sqlite_master" || lname == "sqlite_schema" then some ("main", "sqlite_master", false)
        else if lname == "sqlite_temp_master" || lname == "sqlite_temp_schema" then
          some ("temp", "sqlite_temp_master", false)
        else (cat.view? schema table).map fun (vdb, v) => (vdb, v.name, true)
      let some (dbName, name, isView) := found
        | throw (Failure.general ("no such table: " ++ (match schema with
            | some s => s ++ "." ++ table
            | none => table)))
      match action with
      | .renameTable newName =>
        if taken (← databaseOf cat dbName) newName then throw (takenFailure newName)
        if !isView then throw (mayNot name)
        checkReserved newName
        throw (Failure.general ("view " ++ name ++ " may not be altered"))
      | .renameColumn _ _ _ =>
        throw (if isView then Failure.general ("cannot rename columns of view \"" ++ name ++ "\"") else mayNot name)
      | .dropColumn _ =>
        throw (if isView then Failure.general ("cannot drop column from view \"" ++ name ++ "\"") else mayNot name)
      | .addColumn _ _ =>
        throw (if isView then Failure.general "Cannot add a column to a view" else mayNot name)
  let db ← databaseOf cat dbName
  let system := (foldName t.name).startsWith "sqlite_"
  match action with
  | .renameTable newName =>
    if taken db newName then throw (takenFailure newName)
    if system then throw (mayNot t.name)
    checkReserved newName
    let mode : RenameMode :=
      ⟨cat.settings.has .legacyAlterTable, cat.settings.has .foreignKeys⟩
    pure (cat.put dbName (renameTable mode db t newName))
  | .renameColumn old newName quotedNew =>
    if system then throw (mayNot t.name)
    if t.virtual.isSome then
      throw (Failure.general ("cannot rename columns of virtual table \"" ++ t.name ++ "\""))
    match t.columnIndex? old with
    | none => throw (Failure.general ("no such column: \"" ++ old ++ "\""))
    | some i =>
      if t.columns.toList.zipIdx.any (fun (c, j) => j != i && sameName c.name newName) then
        throw (Failure.general ("error in table " ++ t.name ++ " after rename: duplicate column name: " ++ newName))
      pure (cat.put dbName (renameColumn db t i newName quotedNew))
  | .addColumn c text =>
    if t.virtual.isSome then throw (Failure.general "virtual tables may not be altered")
    if system then throw (mayNot t.name)
    if t.columns.any (fun d => sameName d.name c.name) then
      throw (Failure.general ("duplicate column name: " ++ c.name))
    if c.primaryKey then throw (Failure.general "Cannot add a PRIMARY KEY column")
    if c.unique then throw (Failure.general "Cannot add a UNIQUE column")
    -- the remaining checks hold only for rows already there: an empty table takes any column
    let filled := !t.rows.isEmpty
    match c.generated with
    | none =>
      -- a default written as `null` is no default
      let dflt := c.defaultValue.filter fun d => match d with
        | .literal .null => false
        | _ => true
      if filled && cat.settings.has .foreignKeys && c.references.isSome && dflt.isSome then
        throw (Failure.general "Cannot add a REFERENCES column with non-NULL default value")
      if filled && c.notNull && dflt.isNone then
        throw (Failure.general "Cannot add a NOT NULL column with default value NULL")
      if filled && !(dflt.all (Define.literalDefault 1000)) then
        throw (Failure.general "Cannot add a column with non-constant default")
    | some (_, stored) =>
      if filled && stored then throw (Failure.general "cannot add a STORED column")
    let coll ← match c.collation with
      | some nm => Define.collationOf nm
      | none => pure .binary
    let col : Column := {
      name := c.name, declaredType := c.declaredType, affinity := Affinity.ofType c.declaredType,
      collation := coll, notNull := c.notNull, notNullConflict := c.notNullConflict,
      defaultValue := c.defaultValue, defaultText := c.defaultText, generated := c.generated }
    let dflt ← Change.defaultOf g cat col
    let dflt := dflt.store col.affinity
    let sql := match closingParen t.sql with
      | some o => bytesBetween t.sql 0 o ++ ", " ++ text ++ bytesBetween t.sql o t.sql.utf8ByteSize
      | none => t.sql
    let t' := { t with
      columns := t.columns.push col, sql := sql,
      checks := t.checks ++ c.checks,
      foreignKeys := t.foreignKeys ++ (c.references.map fun r => (⟨[c.name], r⟩ : ForeignKeyDef)).toList,
      rows := t.rows.map fun r => { r with values := r.values.push dflt } }
    let t' ← if c.generated.isSome then do
        let ref : TableRef := ⟨dbName, t.name⟩
        let rows ← t'.rows.mapM fun r => do
          let vs ← Change.withGenerated g cat ref t' r.values r.rowid
          pure { r with values := vs }
        pure { t' with rows := rows }
      else pure t'
    pure (cat.put dbName (db.putTable t').touch)
  | .dropColumn name =>
    if system then throw (mayNot t.name)
    if t.virtual.isSome then
      throw (Failure.general ("cannot drop column from virtual table \"" ++ t.name ++ "\""))
    match t.columnIndex? name with
    | none => throw (Failure.general ("no such column: \"" ++ name ++ "\""))
    | some i =>
      let c := t.columns[i]?.getD default
      if c.keyPosition > 0 || t.rowidColumn == some i then
        throw (Failure.general ("cannot drop PRIMARY KEY column: \"" ++ c.name ++ "\""))
      let idxs := db.indexes.filter (fun ix => sameName ix.table t.name)
      if idxs.any (fun ix => ix.origin != .created && ix.parts.any (fun p => match p.source with
          | .column j => j == i
          | _ => false)) then
        throw (Failure.general ("cannot drop UNIQUE column: \"" ++ c.name ++ "\""))
      if t.columns.size == 1 then
        throw (Failure.general ("cannot drop column \"" ++ c.name ++ "\": no other columns exist"))
      let sql := match columnRange t.sql c.name with
        | some (s, e) => bytesBetween t.sql 0 s ++ bytesBetween t.sql e t.sql.utf8ByteSize
        | none => t.sql
      match danglingReference db t sql c.name with
      | some (kind, obj, r) =>
        throw (Failure.general ("error in " ++ kind ++ " " ++ obj ++ " after drop column: no such column: " ++ r))
      | none => pure ()
      let shift (j : Nat) : Nat := if j > i then j - 1 else j
      let t' := { t with
        columns := t.columns.eraseIdxIfInBounds i, sql := sql,
        rowidColumn := t.rowidColumn.map shift,
        primaryKey := t.primaryKey.map fun (j, co, d) => (shift j, co, d),
        rows := t.rows.map fun r => { r with values := r.values.eraseIdxIfInBounds i } }
      let shiftPart (p : IndexPart) : IndexPart := match p.source with
        | .column j => { p with source := .column (shift j) }
        | _ => p
      let index (ix : Index) : Index :=
        if sameName ix.table t.name then { ix with parts := ix.parts.map shiftPart } else ix
      let db := { db with indexes := db.indexes.map index }
      pure (cat.put dbName (db.putTable t').touch)

/-! ### Pragmas -/

/-- Runs a pragma: reads or sets a setting, or gives its rows; the tables `optimize` names
are analyzed, each reading at most the entries it allows. -/
def pragma (g : Given) (cat : Catalog) (schema : Option String) (name : String) (value : Option PragmaValue) :
    Outcome (Catalog × Answer) := do
  let reply ← Pragma.run cat schema name (value.map PragmaValue.text)
  let cat ← reply.analyses.foldlM (fun c (dbName, table, limit) =>
    match (c.db? dbName).bind (·.table? table) with
    | some t => analyzeIn g c dbName (some (t, none)) limit
    | none => pure c) reply.catalog
  match reply.rows with
  | some (cols, rows) => pure (cat, .rows cols rows.toArray)
  | none => pure (cat, .done)

/-! ### Running -/

/-- The end of a statement that changed nothing in the rows. -/
def plain (cat : Catalog) (answer : Answer) : Ran := ⟨cat, answer, none, 0, none, none⟩

/-- The end of a statement that failed before changing anything. -/
def failedWith (cat : Catalog) (f : Failure) : Ran := ⟨cat, .done, none, 0, none, some (f, .abort)⟩

/-- The failure of a write while the connection only reads. -/
def readonly : Failure := .coded .readonly "attempt to write a readonly database"

/-- Whether a command writes even when it changes no object: `analyze` rewrites the
statistics, and a pragma that stores a value in a database's header writes that header. -/
def alwaysWrites : Command → Bool
  | .analyze _ => true
  | .pragma _ name (some _) =>
    ["user_version", "application_id", "schema_version", "incremental_vacuum"].contains (foldName name)
  | _ => false

/-- Whether a command's run changed the schema of any database. -/
def changedSchema (before after : Catalog) : Bool :=
  after.dbs.any fun (n, db) => (before.db? n).all (·.schemaVersion != db.schemaVersion)

/-- Runs a statement that is neither a query nor a change of rows on the databases. -/
def commandRun (cat : Catalog) (g : Given) (sql : String) (cmd : Command) : Ran :=
  let done (o : Outcome Catalog) : Ran := match o with
    | .ok c => plain c .done
    | .error f => failedWith cat f
  match cmd with
  | .createTable temp ine schema name body text => done (createTable cat g sql temp ine schema name body text)
  | .createVirtualTable ine schema name module text =>
    match createVirtual cat ine schema name module text with
    | .ok (c, some d) => ⟨c, .done, d.changes, d.total, none, none⟩
    | .ok (c, none) => plain c .done
    | .error f => failedWith cat f
  | .createIndex unique ine schema name table cols filter text =>
    done (createIndex cat g unique ine schema name table cols filter text)
  | .createView temp ine schema name cols q text => done (createView cat temp ine schema name cols q text)
  | .createTrigger temp ine schema name timing event table whenCond body text =>
    done (createTrigger cat temp ine schema name timing event table whenCond body text)
  | .drop kind ifExists schema name => done (drop cat kind ifExists schema name)
  | .alterTable schema table action =>
    -- the schema of the changed database is read again afterwards, that of the temporary one too
    done ((alter cat g schema table action).map fun c =>
      { c with dbs := c.dbs.map fun (n, db) =>
        if n == "temp" || (cat.db? n).any (·.schemaVersion != db.schemaVersion) then (n, db.reread)
        else (n, db) })
  | .analyze target => done (analyze g cat target)
  | .pragma schema name value =>
    match pragma g cat schema name value with
    | .ok (c, a) => plain c a
    | .error f => failedWith cat f
  | _ => plain cat .done

/-- The failure of a file that would grow past the most pages it may have. -/
def full : Failure := .coded .full "database or disk is full"

/-- Whether a database's file would need more pages than `max_page_count` lets it have. Only
a lowered limit is looked at: no file reaches the default one. -/
def overfull (cat : Catalog) : Bool :=
  cat.dbs.any fun (_, db) =>
    db.file.maxPageCount < ({} : FileSettings).maxPageCount &&
      Pages.filePages cat.settings.encoding db > db.file.maxPageCount

/-- Runs a command. While the connection only reads, a command that would write fails
instead, after the faults its text shows; so does one whose file would grow too large. -/
def command (cat : Catalog) (g : Given) (sql : String) (cmd : Command) : Ran :=
  if cat.settings.has .queryOnly && alwaysWrites cmd then failedWith cat readonly
  else
    let ran := commandRun cat g sql cmd
    if cat.settings.has .queryOnly && ran.failure.isNone && changedSchema cat ran.catalog then
      failedWith cat readonly
    else if ran.failure.isNone && overfull ran.catalog then failedWith cat full
    else ran

/-- The column in which a statement that changes rows reports how many it changed, when
the connection counts changes. -/
def countName : ChangePlan → String
  | .insert _ => "rows inserted"
  | .update _ => "rows updated"
  | .delete _ => "rows deleted"

/-- Runs a prepared statement on the databases. -/
def run (p : Prepared) (cat : Catalog) (g : Given) (sql : String) : Ran :=
  match p with
  | .query q names =>
    match runQuery depthBudget ⟨cat, g.params, [], g.call⟩ [] q with
    | .ok rows => plain cat (.rows names rows)
    | .error f => failedWith cat f
  | .change plan names =>
    if cat.settings.has .queryOnly then ⟨cat, .done, some 0, 0, none, some (readonly, .abort)⟩ else
    let (r, stop) := Change.start g cat plan
    let answer : Answer :=
      if !names.isEmpty then .rows names r.returned
      else if cat.settings.has .countChanges then .rows [countName plan] #[#[.integer r.changes]]
      else .done
    let kept := match stop with
      | none | some .ignored => true
      | some (.failed _ _) => false
    let stop := if kept && overfull r.catalog then some (.failed full .abort) else stop
    match stop with
    | none => ⟨r.catalog, answer, some r.changes, r.total, r.lastRowid, none⟩
    | some .ignored => ⟨r.catalog, answer, some r.changes, r.total, r.lastRowid, none⟩
    | some (.failed f .fail) => ⟨r.catalog, .done, some r.changes, r.total, r.lastRowid, some (f, .fail)⟩
    | some (.failed f mode) => ⟨cat, .done, some 0, 0, none, some (f, mode)⟩
  | .command cmd => command cat g sql cmd
  | .explained queryPlan answers =>
    let names := if queryPlan then ["id", "parent", "notused", "detail"]
      else ["addr", "opcode", "p1", "p2", "p3", "p4", "p5", "comment"]
    let first : Array Datum := if queryPlan then #[.integer 2, .integer 0, .integer 0, .text "SCAN CONSTANT ROW"]
      else #[.integer 0, .text "Init", .integer 0, .integer 1, .integer 0, .null, .integer 0, .null]
    plain cat (if answers then .rows names #[first] else .done)

end Statement

end QueryDoc.Store
