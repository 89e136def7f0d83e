import QueryDoc.Store.Plan
import QueryDoc.Store.Eval
import QueryDoc.Store.Define
import QueryDoc.Store.Reference

/-!
Running statements that change rows.

Each row an insert adds is built from the values given, the defaults of the other columns and
the values of generated columns, each converted to its column's preference; a strict table
refuses a value of another type. The triggers before the insert run first. Then come the
checks: columns that refuse null (in column order), CHECK constraints (in the order written),
the row id, and the unique indexes, the latest made first but those that replace last. A
conflict does what the statement says (`or ...`), else what the constraint says, else `abort`:
`abort`, `fail` and `rollback` stop the statement and undo its rows, none of them, or the whole
transaction; `ignore` skips the row; `replace` deletes the rows in the way (firing their delete
triggers only when triggers may fire recursively). An insert's `on conflict` clause takes over
for the key it names. Then the row is stored and the triggers after it run.

An update and a delete first find the rows their filter holds for, then change each that is
still there, with the same checks and triggers. A trigger sees the new and the old row; it does
not fire while it runs already unless triggers may fire recursively, and then at most a
thousand deep. `raise(ignore)` in a trigger leaves the row alone.

When foreign keys are enforced, a row whose key refers to no parent row is a broken reference;
a parent row's arrival mends the references to it, and its change or removal breaks them, or
cascades, sets them null or to their defaults, or is refused, as the key says. A statement that
ends with broken references fails; in a transaction, those of a key `initially deferred`, and
all while `defer_foreign_keys` is on, wait for the commit.
-/

namespace QueryDoc.Store

open Reference

/-- The depth budget for binding and evaluation. -/
def depthBudget : Nat := 1000000

/-- How a statement that changes rows stops early. -/
inductive Stop where
  /-- A failure, with what it undoes: the statement (`abort`), nothing the statement did
  before it (`fail`), or the whole transaction (`rollback`). -/
  | failed (f : Failure) (undo : OnConflict)
  /-- `raise(ignore)`: the row being changed is left alone. -/
  | ignored

/-- What running a statement that changes rows keeps track of. -/
structure Run where
  catalog : Catalog
  /-- Rows the statement itself changed. -/
  changes : Nat
  /-- Rows changed by the statement and by what it set off. -/
  total : Nat
  /-- The row id the statement itself last inserted. -/
  lastRowid : Option Int
  /-- The rows the statement returns. -/
  returned : Array (Array Datum)
  /-- References to parent rows left broken so far. -/
  broken : Int
  /-- The triggers running, which do not fire again. -/
  firing : List String
  /-- The largest row id given so far to each table with `autoincrement`, which
  `sqlite_sequence` takes when the statement ends. -/
  sequences : List (TableRef × Int)

/-- What a statement reads besides the databases: its parameters and the connection's
counts. -/
structure Given where
  params : Array Datum
  call : CallContext

/-- A step of a statement that changes rows. -/
abbrev Change := EStateM Stop Run

namespace Change

/-- What a failure undoes: `raise` says so itself; anything else undoes the statement. -/
def stopOf (f : Failure) : Stop :=
  match f with
  | .raised .ignore _ => .ignored
  | .raised .fail _ => .failed f .fail
  | .raised .rollback _ => .failed f .rollback
  | _ => .failed f .abort

/-- An evaluation step as a step of the statement. -/
def lift {α : Type} (o : Outcome α) : Change α :=
  match o with
  | .ok a => pure a
  | .error f => throw (stopOf f)

/-- Stops with a failure under a conflict resolution. -/
def failWith {α : Type} (f : Failure) (mode : OnConflict) : Change α :=
  throw (.failed f (match mode with
    | .fail => .fail
    | .rollback => .rollback
    | _ => .abort))

/-- How many triggers may run inside one another. -/
def triggerDepth : Nat := 1000

/-- The failure for a budget that ran out. -/
def tooDeep {α : Type} : Change α := failWith (Failure.general "too many levels of trigger recursion") .abort

/-- The conflict resolution that applies: the statement's, else the constraint's, else
`abort`. -/
def resolve (stmt own : Option OnConflict) : OnConflict := stmt.getD (own.getD .abort)

/-- A table of the connection. -/
def tableAt (cat : Catalog) (ref : TableRef) : Option Table := (cat.db? ref.schema).bind (·.table? ref.name)

/-- The table as it is now. -/
def currentTable (ref : TableRef) : Change Table := do
  match tableAt (← get).catalog ref with
  | some t => pure t
  | none => failWith (Failure.general ("no such table: " ++ ref.name)) .abort

/-- The table as it is now, or a view as a table of its columns without rows. -/
def shapeOf (ref : TableRef) : Change Table := do
  let cat := (← get).catalog
  match tableAt cat ref with
  | some t => pure t
  | none =>
    match (cat.db? ref.schema).bind (·.view? ref.name) with
    | some v => (·.1) <$> lift (Plan.bindAll (Plan.viewShape depthBudget cat v.sql ref.schema v))
    | none => failWith (Failure.general ("no such table: " ++ ref.name)) .abort

/-- Replaces the table; an r-tree's own tables follow its cells. -/
def storeTable (ref : TableRef) (t : Table) : Change Unit :=
  modify fun r => { r with catalog := r.catalog.update ref.schema fun db => Virtual.withBoxNodes (db.putTable t) t }

/-- A stored row with its row id after its values. -/
def fullRow (r : Row) : Array Datum := r.values.push (.integer r.rowid)

/-- Evaluation's view of the connection. -/
def contextOf (g : Given) (cat : Catalog) : Context := ⟨cat, g.params, [], g.call⟩

/-- Names as an expression over a table's own row sees them. -/
def tableEnv (cat : Catalog) (ref : TableRef) (t : Table) : BindEnv :=
  { catalog := cat, sql := "", scopes := [⟨[Plan.tableVisible ref t t.name 0 0], []⟩], ctes := [],
    noOffsets := true, aggMisuse := false }

/-- Binds an expression of a table's definition over its own row. -/
def bindOver (cat : Catalog) (ref : TableRef) (t : Table) (term : Term) : Outcome Bound.Expr :=
  let env := tableEnv cat ref t
  Plan.bindAll (do
    let e ← Binder.expr depthBudget env false term
    Binder.settle env
    pure e)

/-- The value of an expression of a table's definition over a row. -/
def valueOver (g : Given) (cat : Catalog) (ref : TableRef) (t : Table) (row : Array Datum) (term : Term) :
    Outcome Datum := do
  let e ← bindOver cat ref t term
  eval depthBudget (contextOf g cat) [Frame.ofRow row] e

/-- The default value of a column. -/
def defaultOf (g : Given) (cat : Catalog) (c : Column) : Outcome Datum :=
  match c.defaultValue with
  | none => pure .null
  | some term => do
    let env : BindEnv := {
      catalog := cat, sql := "", scopes := [], ctes := [], noOffsets := true,
      aggMisuse := false }
    let e ← Plan.bindAll (do
      let e ← Binder.expr depthBudget env false term
      Binder.settle env
      pure e)
    eval depthBudget (contextOf g cat) [] e

/-- The preference values take in a column; a strict table's `ANY` column keeps them as
they are. -/
def columnAffinity (t : Table) (c : Column) : Affinity :=
  if t.strict && Define.upperName (c.declaredType.getD "") == "ANY" then .blob else c.affinity

/-- Values converted to their columns' preferences. -/
def stored (t : Table) (values : Array Datum) : Array Datum :=
  values.mapIdx fun i v => match t.columns[i]? with
    | some c => v.store (columnAffinity t c)
    | none => v

/-- Values with the row id in the column that is the row id. -/
def withRowid (t : Table) (values : Array Datum) (rowid : Int) : Array Datum :=
  match t.rowidColumn with
  | some i => values.modify i fun _ => .integer rowid
  | none => values

/-- Values with their generated columns computed, each pass over all of them so that one
may read another. -/
def withGenerated (g : Given) (cat : Catalog) (ref : TableRef) (t : Table) (values : Array Datum)
    (rowid : Int) : Outcome (Array Datum) := do
  let gens := t.columns.toList.zipIdx.filterMap fun (c, i) => c.generated.map fun (term, _) => (i, term, c)
  let pass (vs : Array Datum) : Outcome (Array Datum) :=
    gens.foldlM (fun vs (i, term, c) => do
      let v ← valueOver g cat ref t (vs.push (.integer rowid)) term
      pure (vs.modify i fun _ => v.store (columnAffinity t c))) vs
  (List.range gens.length).foldlM (fun vs _ => pass vs) values

/-- The name of a value's type in a failure of a strict table. -/
def typeWord : Datum → String
  | .integer _ => "INTEGER"
  | .real _ => "REAL"
  | .text _ | .rawText _ => "TEXT"
  | .blob _ => "BLOB"
  | .null => "NULL"

/-- Checks the values of a strict table against the declared types. -/
def strictCheck (t : Table) (values : Array Datum) : Outcome Unit :=
  if !t.strict then pure ()
  else
    t.columns.toList.zipIdx.forM fun (c, i) =>
      let v := values[i]?.getD Datum.null
      let ty := Define.upperName (c.declaredType.getD "ANY")
      let ok := v.isNull || ty == "ANY" || (match v with
        | .integer _ => ty == "INT" || ty == "INTEGER"
        | .real _ => ty == "REAL"
        | .text _ | .rawText _ => ty == "TEXT"
        | .blob _ => ty == "BLOB"
        | .null => true)
      if ok then pure ()
      else throw (.coded .constraintDatatype ("cannot store " ++ typeWord v ++ " value in " ++ ty ++
        " column " ++ t.name ++ "." ++ c.name))

/-- The row id a value gives: an integer, or a failure. -/
def rowidValue (v : Datum) : Change Int :=
  match v.store .integer with
  | .integer k => pure k
  | _ => failWith (.coded .mismatch "datatype mismatch") .abort

/-- The largest row id `sqlite_sequence` holds for a table. -/
def sequenceOf (cat : Catalog) (dbName table : String) : Int :=
  match (cat.db? dbName).bind (·.table? "sqlite_sequence") with
  | some s =>
    ((s.rows.find? fun r => ((r.values[0]?.getD Datum.null).toText?.map (sameName · table)).getD false).map
      fun r => (r.values[1]?.getD Datum.null).toInteger).getD 0
  | none => 0

/-- The largest row id a table with `autoincrement` has been given: by this statement so far,
else as `sqlite_sequence` holds it. -/
def givenSoFar (cat : Catalog) (marks : List (TableRef × Int)) (ref : TableRef) (t : Table) : Int :=
  ((marks.find? (·.1 == ref)).map (·.2)).getD (sequenceOf cat ref.schema t.name)

/-- The smallest positive row id missing from row ids listed in increasing order. -/
def firstFreeRowid (ids : List Int) : Int :=
  ids.foldl (fun k id => if id == k then k + 1 else k) 1

/-- The row id a new row gets when none is given: one more than the largest, under
`autoincrement` one more than the largest ever given. Once the largest possible row id is
taken, a table without `autoincrement` takes a free one (the smallest; the engine picks one
at random), and one with it is full. -/
def freshRowid (cat : Catalog) (marks : List (TableRef × Int)) (ref : TableRef) (t : Table) :
    Outcome Int :=
  let last := (t.rows.back?.map (·.rowid)).getD 0
  if t.autoincrement then
    let given := givenSoFar cat marks ref t
    if last ≥ maxInteger || given ≥ maxInteger then throw (.coded .full "database or disk is full")
    else pure (max last given + 1)
  else if last ≥ maxInteger then pure (firstFreeRowid (t.rows.toList.map (·.rowid)))
  else pure (last + 1)

/-- Records a table's largest row id in `sqlite_sequence`. -/
def bumpSequence (cat : Catalog) (dbName table : String) (rowid : Int) : Catalog :=
  match (cat.db? dbName).bind (·.table? "sqlite_sequence") with
  | none => cat
  | some s =>
    let found := s.rows.find? fun r => ((r.values[0]?.getD Datum.null).toText?.map (sameName · table)).getD false
    let s' := match found with
      | some r =>
        if (r.values[1]?.getD Datum.null).toInteger < rowid then s.setRow r.rowid #[.text table, .integer rowid] else s
      | none => s.insertRow ⟨s.nextRowid, #[.text table, .integer rowid]⟩
    cat.putTable dbName s'

/-- The failure of a column that refuses null. -/
def nullFailure (t : Table) (c : Column) : Failure :=
  .coded .constraintNotNull ("NOT NULL constraint failed: " ++ t.name ++ "." ++ c.name)

/-- Settles the nulls of columns that refuse them: under `replace` such a column takes its
default; under `ignore` the row is skipped (`none`); otherwise the statement fails. -/
def settleNulls (g : Given) (cat : Catalog) (t : Table) (mode : Option OnConflict) (values : Array Datum) :
    Change (Option (Array Datum)) := do
  let mut vs := values
  for (c, i) in t.columns.toList.zipIdx do
    if c.notNull && t.rowidColumn != some i && (vs[i]?.getD Datum.null).isNull then
      match resolve mode c.notNullConflict with
      | .ignore => return none
      | .replace =>
        let d ← lift (defaultOf g cat c)
        if d.isNull then failWith (nullFailure t c) .abort
        vs := vs.modify i fun _ => d.store (columnAffinity t c)
      | m => failWith (nullFailure t c) m
  pure (some vs)

/-- Whether the CHECK constraints hold for a row; under `ignore` a failing one skips it. -/
def checksHold (g : Given) (cat : Catalog) (ref : TableRef) (t : Table) (mode : Option OnConflict)
    (row : Array Datum) : Change Bool := do
  if cat.settings.has .ignoreCheckConstraints then return true
  for (label, term) in t.checks do
    let v ← lift (valueOver g cat ref t row term)
    if v.truth? == some false then
      let f := Failure.coded .constraintCheck ("CHECK constraint failed: " ++ label.getD "")
      match mode.getD .abort with
      | .ignore => return false
      | .replace => failWith f .abort
      | m => failWith f m
  pure true

/-- The key an index gives a row. -/
def indexKey (g : Given) (cat : Catalog) (ref : TableRef) (t : Table) (i : Index) (row : Array Datum) :
    Outcome (List Datum) :=
  i.parts.mapM fun p =>
    match p.source with
    | .column c => pure (row[c]?.getD Datum.null)
    | .rowid => pure (row[t.columns.size]?.getD Datum.null)
    | .expr term => valueOver g cat ref t row term

/-- Whether a partial index covers a row. -/
def covers (g : Given) (cat : Catalog) (ref : TableRef) (t : Table) (i : Index) (row : Array Datum) :
    Outcome Bool :=
  match i.filter with
  | none => pure true
  | some f => do pure ((← valueOver g cat ref t row f).truth? == some true)

/-- The rows other than `self` whose key in a unique index equals a row's; a key with a
null in it equals none. -/
def indexConflicts (g : Given) (cat : Catalog) (ref : TableRef) (t : Table) (i : Index) (row : Array Datum)
    (self : Option Int) : Outcome (List Int) := do
  if !i.unique then return []
  if !(← covers g cat ref t i row) then return []
  let key ← indexKey g cat ref t i row
  if key.any Datum.isNull then return []
  let colls := i.parts.map (·.collation)
  t.rows.toList.filterMapM fun r => do
    if self == some r.rowid then return none
    let other := fullRow r
    if !(← covers g cat ref t i other) then return none
    let k ← indexKey g cat ref t i other
    if (colls.zip (key.zip k)).all (fun (c, a, b) => !b.isNull && a.sameWith c b) then pure (some r.rowid)
    else pure none

/-- The failure of a unique index. -/
def uniqueFailure (t : Table) (i : Index) : Failure :=
  let named := i.parts.map fun p => match p.source with
    | .column c => some (t.name ++ "." ++ ((t.columns[c]?).map (·.name)).getD "")
    | .rowid => some (t.name ++ ".rowid")
    | .expr _ => none
  let text := if named.all Option.isSome then ", ".intercalate (named.filterMap id)
    else "index '" ++ i.name ++ "'"
  .coded (if i.origin == .primaryKey then .constraintPrimaryKey else .constraintUnique)
    ("UNIQUE constraint failed: " ++ text)

/-- The failure of a row id two rows would share. -/
def rowidFailure (t : Table) : Failure :=
  .coded .constraintPrimaryKey ("UNIQUE constraint failed: " ++ t.name ++ "." ++
    (((t.rowidColumn.bind (t.columns[·]?)).map (·.name)).getD "rowid"))

/-- A key a row is checked against: its row id, or a unique index. -/
inductive KeyCheck where
  | rowid
  | index (i : Index)

/-- The keys a table's rows are checked against, in order: the key an upsert names, the row
id, the unique indexes (the latest made first) and last those that resolve conflicts by
replacing. -/
def keyChecks (cat : Catalog) (ref : TableRef) (t : Table) (first : Option UpsertTarget) : List KeyCheck :=
  let indexes := (((cat.db? ref.schema).map (·.indexesOf t.name)).getD []).filter (·.unique)
  let (replacing, others) := indexes.partition (·.onConflict == some .replace)
  let all := (if t.withoutRowid then [] else [KeyCheck.rowid]) ++ (others ++ replacing).map .index
  let isFirst (k : KeyCheck) : Bool := match first, k with
    | some .rowid, .rowid => true
    | some (.index nm), .index i => sameName nm i.name
    | _, _ => false
  all.filter isFirst ++ all.filter (!isFirst ·)

/-- The upsert that takes over a conflict on a key. -/
def upsertFor (upserts : List UpsertPlan) (k : KeyCheck) : Option UpsertPlan :=
  upserts.find? fun u => match u.target, k with
    | .any, _ => true
    | .rowid, .rowid => true
    | .index nm, .index i => sameName nm i.name
    | _, _ => false

/-- The failure of a broken reference. -/
def foreignFailure : Failure := .coded .constraintForeignKey "FOREIGN KEY constraint failed"

/-- The foreign keys of a child row, among those given, that refer to no parent row. -/
def orphanKeys (db : Database) (dbName : String) (child : Table) (keys : List ForeignKeyDef)
    (values : Array Datum) : Outcome (List ForeignKeyDef) :=
  keys.filterM fun fk => do
    let (parent, slots, childSlots) ← parentKey db dbName child fk
    let vals := childSlots.map (values[·]?.getD Datum.null)
    pure (!vals.any Datum.isNull && !parent.rows.any (fun r => keyMatches parent slots vals r.values))

/-- Whether an update that assigns some columns changes the child columns of a foreign key. -/
def keyAssigned (child : Table) (assigned : List Nat) (fk : ForeignKeyDef) : Bool :=
  fk.columns.any fun nm => assigned.any fun s => (child.columns[s]?).any (sameName ·.name nm)

/-- The foreign keys that refer to a table, with the tables that hold them. -/
def referencing (db : Database) (t : Table) : List (Table × ForeignKeyDef) :=
  db.tables.flatMap fun c => (c.foreignKeys.filter fun fk => sameName fk.ref.parent t.name).map (c, ·)

/-- The row ids of the child rows whose key equals a parent key. -/
def childRows (parent : Table) (slots : List Nat) (child : Table) (childSlots : List Nat) (vals : List Datum) :
    List Int :=
  (child.rows.filter fun r =>
    (slots.zip (childSlots.zip vals)).all fun (s, cs, pv) =>
      let col := parent.columns[s]?
      let aff := (col.map (·.affinity)).getD .blob
      let coll := (col.map (·.collation)).getD .binary
      let cv := r.values[cs]?.getD Datum.null
      !cv.isNull && (cv.store aff).sameWith coll pv).toList.map (·.rowid)

/-- Adds to the count of references a foreign key leaves broken: the statement's own count,
the transaction's count for a key declared deferred, or the count `defer_foreign_keys` holds
back while it is on. -/
def breakBy (fk : ForeignKeyDef) (k : Int) : Change Unit := modify fun r =>
  let cat := r.catalog
  if cat.settings.has .deferForeignKeys then { r with catalog := { cat with postponedBroken := cat.postponedBroken + k } }
  else if fk.ref.deferred then { r with catalog := { cat with deferredBroken := cat.deferredBroken + k } }
  else { r with broken := r.broken + k }

/-- Takes mended references off the count a foreign key's breaks go to, unless nothing is
broken there: a reference that was broken before the count began is not taken off. -/
def mendBy (fk : ForeignKeyDef) (k : Nat) : Change Unit := do
  let r ← get
  let outstanding := r.catalog.postponedBroken != 0 ||
    (if fk.ref.deferred then r.catalog.deferredBroken != 0 else r.broken != 0)
  if outstanding && k != 0 then breakBy fk (-(k : Int))

/-- Counts a changed row: for the statement itself when it is the statement's own, and among
all changes. -/
def count (depth : Nat) : Change Unit :=
  modify fun r => { r with changes := r.changes + (if depth == 0 then 1 else 0), total := r.total + 1 }

/-- The triggers of a table for a time and a change, the latest made first; an update
trigger naming columns fires only when one of them is assigned. -/
def triggersFor (cat : Catalog) (ref : TableRef) (timing : TriggerTiming) (event : TriggerEvent)
    (assigned : List String) : List (String × Trigger) :=
  let own := ((cat.db? ref.schema).map (·.triggersOf ref.name)).getD []
  let temp := if ref.schema != "temp" then ((cat.db? "temp").map (·.triggersOf ref.name)).getD [] else []
  let fits (tr : Trigger) : Bool :=
    tr.timing == timing && (match tr.event, event with
      | .insert, .insert => true
      | .delete, .delete => true
      | .update cols, .update _ => cols.isEmpty || cols.any (fun c => assigned.any (sameName c))
      | _, _ => false)
  ((own.map (ref.schema, ·)) ++ (temp.map ("temp", ·))).reverse.filter fun (_, tr) => fits tr

/-- Names as a trigger's body sees them: the new row as `new` and the old as `old`, as the
change has them, in a row holding the new row then the old. -/
def triggerEnv (cat : Catalog) (dbName : String) (ref : TableRef) (t : Table) (tr : Trigger) : BindEnv :=
  let width := t.columns.size + 1
  let newV := { Plan.tableVisible ref t "new" 0 0 with qualifiedOnly := true }
  let oldV := { Plan.tableVisible ref t "old" width 1 with qualifiedOnly := true }
  let sources := match tr.event with
    | .insert => [newV]
    | .delete => [oldV]
    | .update _ => [newV, oldV]
  { catalog := cat, sql := tr.sql, scopes := [⟨sources, []⟩], ctes := [], noOffsets := true,
    aggMisuse := false, inTrigger := true, ddlSchema := if dbName == "temp" then none else some dbName }

/-- New values from assignments evaluated over a frame: each sets one slot or several from a
row of values; the row id slot is given apart. -/
def assign (ctx : Context) (frames : Frames) (sets : List (List Nat × Bound.Expr)) (base : Array Datum)
    (width : Nat) : Outcome (Array Datum × Option Datum) :=
  sets.foldlM (fun (acc : Array Datum × Option Datum) (slots, e) => do
    let vals ← if slots.length == 1 then do pure [← eval depthBudget ctx frames e]
      else evalRow depthBudget ctx frames e
    pure ((slots.zip vals).foldl (fun (acc : Array Datum × Option Datum) (s, v) =>
      if s == width then (acc.1, some v) else (acc.1.modify s fun _ => v, acc.2)) acc)) (base, none)

/-- The rows a filter holds for, by row id, each with the first row of the statement's own
`from` that it holds for together with. -/
def selectRows (ctx : Context) (frames : Frames) (filter : Option Bound.Expr) (rows : List (Array Datum))
    (fromRows : Option (Array (Array Datum))) : Outcome (List (Int × Array Datum)) :=
  rows.filterMapM fun r => do
    let id := (r.back?.getD Datum.null).toInteger
    let holds (row : Array Datum) : Outcome Bool :=
      match filter with
      | some f => do pure ((← eval depthBudget ctx (Frame.ofRow row :: frames) f).truth? == some true)
      | none => pure true
    match fromRows with
    | none => if ← holds r then pure (some (id, #[])) else pure none
    | some frs =>
      let found ← frs.toList.findM? fun fr => holds (r ++ fr)
      pure (found.map (id, ·))

/-- Adds what the statement returns for a row. -/
def returnRow (g : Given) (depth : Nat) (ret : Option Returning) (row : Array Datum) : Change Unit := do
  match ret with
  | some r =>
    if depth == 0 then
      let vals ← lift (evalList depthBudget (contextOf g (← get).catalog) [Frame.ofRow row] r.columns)
      modify fun s => { s with returned := s.returned.push vals.toArray }
  | none => pure ()

/-- Writes a row into a virtual table as its module does, in place of the row `old` when there
is one; `slot` gives the values written: the declared columns, then the row id, then the
hidden columns. The result is the row id written, none when the row was left out.

An r-tree takes its row id from its first column (a new one when it is null), rounds its
coordinates outwards and refuses a pair out of order or a row id another row has. A full-text
table takes the row id given (or, in the third and fourth versions, `docid`), keeps the values
as they are, and refuses a row id another row has. A text written into a full-text table's own
column is a command instead, which writes no row and reports row id zero.

`ignore` leaves a refused row out; `replace` replaces the row in the way of a row id, and
fails as `abort` otherwise. -/
def writeVirtual (ref : TableRef) (old : Option Int) (slot : Nat → Datum) (mode : Option OnConflict) :
    Change (Option Int) := do
  let t ← currentTable ref
  let w := t.columns.size
  let refuse (f : Failure) : Change (Option Int) :=
    match mode with
    | some .ignore => pure none
    | some m => failWith f m
    | none => failWith f .abort
  let name (i : Nat) : String := ((t.columns[i]?).map (·.name)).getD ""
  let clear (t : Table) (rowid : Int) : Table := if t.hasRowid rowid then Virtual.removeRow t rowid else t
  match t.virtual with
  | some (.rtree b _) =>
    match Virtual.coordinates b ((List.range b.coordinates).map fun i => slot (i + 1)) with
    | .error k =>
      refuse (.coded .constraint ("rtree constraint failed: " ++ t.name ++ ".(" ++ name (2 * k + 1) ++ "<=" ++
        name (2 * k + 2) ++ ")"))
    | .ok coords =>
      let idGiven := slot 0
      let taken := !idGiven.isNull && old != some idGiven.toInteger && t.hasRowid idGiven.toInteger
      if taken && mode != some .replace then
        refuse (.coded .constraint ("UNIQUE constraint failed: " ++ t.name ++ "." ++ name 0))
      else
        let t := if taken then clear t idGiven.toInteger else t
        let t := match old with
          | some id => clear t id
          | none => t
        let rowid := if idGiven.isNull then Virtual.freshRowid t else idGiven.toInteger
        let aux := (List.range b.auxiliary).map fun i => slot (1 + b.coordinates + i)
        storeTable ref (Virtual.addRow t ⟨rowid, (Datum.integer rowid :: coords ++ aux).toArray⟩)
        pure (some rowid)
  | some (.fullText s) =>
    let command := slot (w + 1)
    if old.isNone && !command.isNull then
      let text := command.toText?.getD ""
      lift (if s.version == 5 then Virtual.command5 text (slot (w + 2)) else Virtual.command34 text)
      pure (some 0)
    else
      let given := slot w
      let docid := if s.version == 5 then Datum.null else slot (w + 2)
      if s.version != 5 && (slot (w + 3)).toInteger < 0 then refuse (.coded .constraint "constraint failed")
      else if old.isNone && !docid.isNull && !given.isNull then lift (throw (Failure.general "SQL logic error"))
      else
        let wanted := if docid.isNull then given else docid
        let newId ← if wanted.isNull then pure none else some <$> rowidValue wanted
        let taken := match newId with
          | some id => old != some id && t.hasRowid id
          | none => false
        if taken && mode != some .replace then
          refuse (.coded .constraintPrimaryKey "constraint failed")
        else
          let t := match newId with
            | some id => if taken then clear t id else t
            | none => t
          let t := match old with
            | some id => clear t id
            | none => t
          let rowid := newId.getD (Virtual.freshRowid t)
          storeTable ref (Virtual.addRow t ⟨rowid, ((List.range w).map slot).toArray⟩)
          pure (some rowid)
  | none => pure none

/-- The rows of a table a statement reads, each with its row id last; a virtual table's
answer the statement's searches. -/
def tableRows (ctx : Context) (frames : Frames) (t : Table) (searches : List (Nat × Bound.Expr)) :
    Change (Array (Array Datum)) :=
  if t.virtual.isSome then do
    let qs ← lift (evalList depthBudget ctx (Frame.ofRow #[] :: frames) (searches.map (·.2)))
    lift (Virtual.readRows t ((searches.map (·.1)).zip qs))
  else pure (storedRows t)

/-- The rows of a view, numbered from one in the place of a row id. -/
def viewRowsOf (ctx : Context) (frames : Frames) (q : Bound.Query) : Change (List (Array Datum)) := do
  let rows ← lift (runQuery depthBudget ctx frames q)
  pure (rows.toList.zipIdx.map fun (r, i) => r.push (.integer (i + 1)))

/-- Whether foreign keys are enforced. -/
def enforcing : Change Bool := do pure ((← get).catalog.settings.has .foreignKeys)

mutual

/-- Runs a bound statement that changes rows, under the frames of a trigger. -/
def runChange : Nat → Given → Nat → Frames → ChangePlan → Change Unit
  | 0, _, _, _, _ => tooDeep
  | n + 1, g, depth, frames, plan => do
    let base := contextOf g (← get).catalog
    match plan with
    | .insert p => do
      let ctx ← lift (materialize depthBudget base frames p.ctes)
      match p.source with
      | .values rows => insertValues n g depth ctx frames p rows
      | .query q => do
        let rows ← lift (runQuery depthBudget ctx frames q)
        insertEach n g depth p (rows.toList.map (·.toList))
      | .defaults => insertRow n g depth p.target [] p.onConflict p.upserts p.returning
    | .update p => do
      let ctx ← lift (materialize depthBudget base frames p.ctes)
      if let some vq := p.viewRows then
        let t ← shapeOf p.target
        let rows ← viewRowsOf ctx frames vq
        let fromRows ← match p.source with
          | some src => some <$> lift (readSource depthBudget ctx frames (Virtual.rowWidth t) src)
          | none => pure none
        let selected ← lift (selectRows ctx frames p.filter rows fromRows)
        updateViewRows n g ctx frames p (selected.filterMap fun (id, fr) =>
          (rows[(id - 1).toNat]?).map (·, fr))
        return
      let t ← currentTable p.target
      let ordered ← lift (orderRows depthBudget ctx p.order (← tableRows ctx frames t p.searches).toList)
      let fromRows ← match p.source with
        | some src => some <$> lift (readSource depthBudget ctx frames (Virtual.rowWidth t) src)
        | none => pure none
      let selected ← lift (selectRows ctx frames p.filter ordered fromRows)
      updateEach n g depth ctx frames p selected
    | .delete p => do
      let ctx ← lift (materialize depthBudget base frames p.ctes)
      if let some vq := p.viewRows then
        let rows ← viewRowsOf ctx frames vq
        let selected ← lift (selectRows ctx frames p.filter rows none)
        deleteViewRows n g p.target (selected.filterMap fun (id, _) => rows[(id - 1).toNat]?)
        return
      let t ← currentTable p.target
      let ordered ← lift (orderRows depthBudget ctx p.order (← tableRows ctx frames t p.searches).toList)
      let selected ← lift (selectRows ctx frames p.filter ordered none)
      deleteEach n g depth p.target p.returning (selected.map (·.1))
termination_by structural fuel => fuel

/-- Inserts rows of values, each evaluated just before it goes in. -/
def insertValues : Nat → Given → Nat → Context → Frames → InsertPlan → List (List Bound.Expr) → Change Unit
  | 0, _, _, _, _, _, _ => tooDeep
  | _ + 1, _, _, _, _, _, [] => pure ()
  | n + 1, g, depth, ctx, frames, p, r :: rest => do
    let vals ← lift (evalList depthBudget { ctx with catalog := (← get).catalog } frames r)
    insertRow n g depth p.target (p.slots.zip vals) p.onConflict p.upserts p.returning
    insertValues n g depth ctx frames p rest
termination_by structural fuel => fuel

/-- Inserts rows already computed. -/
def insertEach : Nat → Given → Nat → InsertPlan → List (List Datum) → Change Unit
  | 0, _, _, _, _ => tooDeep
  | _ + 1, _, _, _, [] => pure ()
  | n + 1, g, depth, p, vals :: rest => do
    insertRow n g depth p.target (p.slots.zip vals) p.onConflict p.upserts p.returning
    insertEach n g depth p rest
termination_by structural fuel => fuel

/-- Inserts one row, with values given for some slots. -/
def insertRow : Nat → Given → Nat → TableRef → List (Nat × Datum) → Option OnConflict → List UpsertPlan →
    Option Returning → Change Unit
  | 0, _, _, _, _, _, _, _ => tooDeep
  | n + 1, g, depth, ref, given, mode, upserts, ret => do
    if (tableAt (← get).catalog ref).isNone then
      let t ← shapeOf ref
      let new := ((List.range t.columns.size).map fun i =>
        ((given.reverse.find? (·.1 == i)).map (·.2)).getD Datum.null).toArray.push (.integer (-1))
      let _ ← fireTriggers n g ref .insteadOf .insert [] (some new) none
      return
    let t ← currentTable ref
    if t.virtual.isSome then
      let slot (i : Nat) : Datum := ((given.reverse.find? (·.1 == i)).map (·.2)).getD .null
      match ← writeVirtual ref none slot mode with
      | some id =>
        count depth
        if depth == 0 then modify fun r => { r with lastRowid := some id }
        let t ← currentTable ref
        match t.row? id with
        | some r => if id != 0 then returnRow g depth ret (Virtual.fullRow t r)
        | none => pure ()
      | none => pure ()
      return
    let cat := (← get).catalog
    let width := t.columns.size
    let mut raw : Array Datum := #[]
    for (c, i) in t.columns.toList.zipIdx do
      match given.reverse.find? (·.1 == i) with
      | some (_, v) => raw := raw.push (v.store (columnAffinity t c))
      | none =>
        if c.isGenerated then raw := raw.push .null
        else raw := raw.push ((← lift (defaultOf g cat c)).store (columnAffinity t c))
    let values := raw
    let rowidGiven : Option Datum := match given.reverse.find? (·.1 == width) with
      | some (_, v) => some v
      | none => t.rowidColumn.bind fun i => values[i]?
    let explicit ← match rowidGiven with
      | some v => if v.isNull then pure none else some <$> rowidValue v
      | none => pure none
    let before := explicit.getD (-1)
    let pre ← lift (withGenerated g cat ref t (withRowid t values before) before)
    let go ← fireTriggers n g ref .before .insert [] (some (pre.push (.integer before))) none
    if !go then return
    let t ← currentTable ref
    let cat := (← get).catalog
    let rowid ← match explicit with
      | some r => pure r
      | none => lift (freshRowid cat (← get).sequences ref t)
    if t.autoincrement then
      modify fun r => { r with sequences :=
        (ref, max rowid (givenSoFar r.catalog r.sequences ref t)) :: r.sequences.filter (·.1 != ref) }
    let values ← lift (withGenerated g cat ref t (withRowid t values rowid) rowid)
    let some values ← settleNulls g cat t mode values | return
    lift (strictCheck t values)
    let row := values.push (.integer rowid)
    if !(← checksHold g cat ref t mode row) then return
    let first := (upserts.find? (fun u => u.target != .any)).map (·.target)
    let goOn ← settleKeys n g depth ref (keyChecks cat ref t first) row none mode upserts ret
    if !goOn then return
    let t ← currentTable ref
    let cat := (← get).catalog
    if ← enforcing then
      match cat.db? ref.schema with
      | some db =>
        for fk in ← lift (orphanKeys db ref.schema t t.foreignKeys values) do breakBy fk 1
        for (child, fk) in referencing db t do
          let (parent, slots, childSlots) ← lift (parentKey db ref.schema child fk)
          let vals := slots.map (values[·]?.getD Datum.null)
          if !vals.any Datum.isNull then
            mendBy fk (childRows parent slots child childSlots vals).length
      | none => pure ()
    storeTable ref (t.insertRow ⟨rowid, values⟩)
    let _ ← fireTriggers n g ref .after .insert [] (some row) none
    count depth
    if depth == 0 then modify fun r => { r with lastRowid := some rowid }
    returnRow g depth ret row
termination_by structural fuel => fuel

/-- Checks a row against keys, resolving each conflict: true when the row may go on. An
upsert for the key takes over: doing nothing, or updating the row in the way. -/
def settleKeys : Nat → Given → Nat → TableRef → List KeyCheck → Array Datum → Option Int →
    Option OnConflict → List UpsertPlan → Option Returning → Change Bool
  | 0, _, _, _, _, _, _, _, _, _ => tooDeep
  | _ + 1, _, _, _, [], _, _, _, _, _ => pure true
  | n + 1, g, depth, ref, k :: rest, row, self, mode, upserts, ret => do
    let t ← currentTable ref
    let cat := (← get).catalog
    let width := t.columns.size
    let hits ← match k with
      | .rowid =>
        let id := (row[width]?.getD Datum.null).toInteger
        pure (if self != some id && t.hasRowid id then [id] else [])
      | .index i => lift (indexConflicts g cat ref t i row self)
    match hits with
    | [] => settleKeys n g depth ref rest row self mode upserts ret
    | hit :: _ =>
      match upsertFor upserts k with
      | some u =>
        match u.action with
        | .nothing => pure false
        | .update sets filter => do
          match t.row? hit with
          | none => pure false
          | some existing =>
            let frame := fullRow existing ++ row
            let ctx := contextOf g cat
            let holds ← match filter with
              | some f => do pure ((← lift (eval depthBudget ctx [Frame.ofRow frame] f)).truth? == some true)
              | none => pure true
            if holds then
              let (vals, rid) ← lift (assign ctx [Frame.ofRow frame] sets existing.values width)
              updateRow n g depth ref hit vals rid (sets.flatMap (·.1)) none ret
            pure false
      | none =>
        let own := match k with
          | .rowid => none
          | .index i => i.onConflict
        let failure := match k with
          | .rowid => rowidFailure t
          | .index i => uniqueFailure t i
        match resolve mode own with
        | .ignore => pure false
        | .replace => do
          replaceRows n g depth ref hits
          settleKeys n g depth ref rest row self mode upserts ret
        | m => failWith failure m
termination_by structural fuel => fuel

/-- Deletes the rows a replacing conflict removes, counting nothing; their delete triggers
fire only when triggers may fire recursively. -/
def replaceRows : Nat → Given → Nat → TableRef → List Int → Change Unit
  | 0, _, _, _, _ => tooDeep
  | _ + 1, _, _, _, [] => pure ()
  | n + 1, g, depth, ref, id :: rest => do
    let recursive := (← get).catalog.settings.has .recursiveTriggers
    deleteRow n g (depth + 1) ref id recursive false none
    replaceRows n g depth ref rest
termination_by structural fuel => fuel

/-- Updates the rows an update found, each still there. -/
def updateEach : Nat → Given → Nat → Context → Frames → UpdatePlan → List (Int × Array Datum) → Change Unit
  | 0, _, _, _, _, _, _ => tooDeep
  | _ + 1, _, _, _, _, _, [] => pure ()
  | n + 1, g, depth, ctx, frames, p, (id, fromRow) :: rest => do
    let t ← currentTable p.target
    match t.row? id with
    | none => pure ()
    | some cur =>
      let whole := Virtual.fullRow t cur
      let frame := whole ++ fromRow
      let ctx' := { ctx with catalog := (← get).catalog }
      let (vals, rid) ← lift (assign ctx' (Frame.ofRow frame :: frames) p.sets whole.pop (whole.size - 1))
      updateRow n g depth p.target id vals rid (p.sets.flatMap (·.1)) p.onConflict p.returning
    updateEach n g depth ctx frames p rest
termination_by structural fuel => fuel

/-- Updates one row to proposed values (the assigned slots count), maybe with a new row id. -/
def updateRow : Nat → Given → Nat → TableRef → Int → Array Datum → Option Datum → List Nat →
    Option OnConflict → Option Returning → Change Unit
  | 0, _, _, _, _, _, _, _, _, _ => tooDeep
  | n + 1, g, depth, ref, rowid, proposed, rowidGiven, assigned, mode, ret => do
    let t ← currentTable ref
    let some old := t.row? rowid | return
    if t.virtual.isSome then
      let w := t.columns.size
      let slot (i : Nat) : Datum :=
        if i < w then proposed[i]?.getD .null
        else if i == w then rowidGiven.getD (.integer rowid)
        else proposed[i - 1]?.getD .null
      match ← writeVirtual ref (some rowid) slot mode with
      | some id =>
        count depth
        let t ← currentTable ref
        match t.row? id with
        | some r => returnRow g depth ret (Virtual.fullRow t r)
        | none => pure ()
      | none => pure ()
      return
    let names := assigned.filterMap fun s => (t.columns[s]?).map (·.name)
    let vals := stored t proposed
    let newRowid ← match rowidGiven, t.rowidColumn with
      | some v, _ => rowidValue v
      | none, some i => if assigned.contains i then rowidValue (vals[i]?.getD Datum.null) else pure rowid
      | none, none => pure rowid
    let cat := (← get).catalog
    let pre ← lift (withGenerated g cat ref t (withRowid t vals newRowid) newRowid)
    let go ← fireTriggers n g ref .before (.update []) names (some (pre.push (.integer newRowid)))
      (some (fullRow old))
    if !go then return
    let t ← currentTable ref
    let some cur := t.row? rowid | return
    let cat := (← get).catalog
    let merged := cur.values.mapIdx fun i v => if assigned.contains i then vals[i]?.getD v else v
    let values ← lift (withGenerated g cat ref t (withRowid t merged newRowid) newRowid)
    let some values ← settleNulls g cat t mode values | return
    lift (strictCheck t values)
    let row := values.push (.integer newRowid)
    if !(← checksHold g cat ref t mode row) then return
    let goOn ← settleKeys n g depth ref (keyChecks cat ref t none) row (some rowid) mode [] none
    if !goOn then return
    let t ← currentTable ref
    let some cur := t.row? rowid | return
    let cat := (← get).catalog
    let enforced ← enforcing
    if enforced then
      match cat.db? ref.schema with
      | some db =>
        let keys := t.foreignKeys.filter (keyAssigned t (assigned ++ (if newRowid != rowid then
          t.rowidColumn.toList else [])))
        for fk in ← lift (orphanKeys db ref.schema t keys cur.values) do mendBy fk 1
        for fk in ← lift (orphanKeys db ref.schema t keys values) do breakBy fk 1
      | none => pure ()
    let t' := if newRowid == rowid then t.setRow rowid values
      else (t.dropRows [rowid]).insertRow ⟨newRowid, values⟩
    storeTable ref t'
    if enforced then
      match cat.db? ref.schema with
      | some db => parentActions n g depth ref false (fullRow cur) (some row) (referencing db t)
      | none => pure ()
    let _ ← fireTriggers n g ref .after (.update []) names (some row) (some (fullRow cur))
    count depth
    returnRow g depth ret row
termination_by structural fuel => fuel

/-- Updates rows of a view, each by the view's `instead of` triggers, given its row and the
row of the statement's `from` that it goes with. -/
def updateViewRows : Nat → Given → Context → Frames → UpdatePlan → List (Array Datum × Array Datum) →
    Change Unit
  | 0, _, _, _, _, _ => tooDeep
  | _ + 1, _, _, _, _, [] => pure ()
  | n + 1, g, ctx, frames, p, (old, fromRow) :: rest => do
    let t ← shapeOf p.target
    let ctx' := { ctx with catalog := (← get).catalog }
    let (vals, _) ← lift (assign ctx' (Frame.ofRow (old ++ fromRow) :: frames) p.sets old.pop (old.size - 1))
    let names := (p.sets.flatMap (·.1)).filterMap fun s => (t.columns[s]?).map (·.name)
    let _ ← fireTriggers n g p.target .insteadOf (.update []) names (some (vals.push (old.back?.getD .null)))
      (some old)
    updateViewRows n g ctx frames p rest
termination_by structural fuel => fuel

/-- Deletes rows of a view, each by the view's `instead of` triggers. -/
def deleteViewRows : Nat → Given → TableRef → List (Array Datum) → Change Unit
  | 0, _, _, _ => tooDeep
  | _ + 1, _, _, [] => pure ()
  | n + 1, g, ref, old :: rest => do
    let _ ← fireTriggers n g ref .insteadOf .delete [] none (some old)
    deleteViewRows n g ref rest
termination_by structural fuel => fuel

/-- Deletes the rows a delete found, each still there. -/
def deleteEach : Nat → Given → Nat → TableRef → Option Returning → List Int → Change Unit
  | 0, _, _, _, _, _ => tooDeep
  | _ + 1, _, _, _, _, [] => pure ()
  | n + 1, g, depth, ref, ret, id :: rest => do
    deleteRow n g depth ref id true true ret
    deleteEach n g depth ref ret rest
termination_by structural fuel => fuel

/-- Deletes one row; `triggers` when its triggers fire, `counted` when it counts as a change. -/
def deleteRow : Nat → Given → Nat → TableRef → Int → Bool → Bool → Option Returning → Change Unit
  | 0, _, _, _, _, _, _, _ => tooDeep
  | n + 1, g, depth, ref, rowid, triggers, counted, ret => do
    let t ← currentTable ref
    let some old := t.row? rowid | return
    if t.virtual.isSome then
      storeTable ref (Virtual.removeRow t rowid)
      if counted then
        count depth
        returnRow g depth ret (Virtual.fullRow t old)
      return
    if triggers then
      let go ← fireTriggers n g ref .before .delete [] none (some (fullRow old))
      if !go then return
    let t ← currentTable ref
    let some old := t.row? rowid | return
    let cat := (← get).catalog
    let enforced ← enforcing
    if enforced then
      match cat.db? ref.schema with
      | some db => for fk in ← lift (orphanKeys db ref.schema t t.foreignKeys old.values) do mendBy fk 1
      | none => pure ()
    storeTable ref (t.dropRows [rowid])
    if enforced then
      match cat.db? ref.schema with
      | some db => parentActions n g depth ref true (fullRow old) none (referencing db t)
      | none => pure ()
    if triggers then
      let _ ← fireTriggers n g ref .after .delete [] none (some (fullRow old))
    if counted then
      count depth
      returnRow g depth ret (fullRow old)
termination_by structural fuel => fuel

/-- What the removal or the change of a parent row's key does to the rows that refer to it:
refused, left broken, removed with it, or set null or to their defaults. -/
def parentActions : Nat → Given → Nat → TableRef → Bool → Array Datum → Option (Array Datum) →
    List (Table × ForeignKeyDef) → Change Unit
  | 0, _, _, _, _, _, _, _ => tooDeep
  | _ + 1, _, _, _, _, _, _, [] => pure ()
  | n + 1, g, depth, ref, isDelete, old, new, (child, fk) :: rest => do
    let cat := (← get).catalog
    match cat.db? ref.schema with
    | none => pure ()
    | some db =>
      let (parent, slots, childSlots) ← lift (parentKey db ref.schema child fk)
      let oldVals := slots.map (old[·]?.getD Datum.null)
      let newVals := new.map fun nv => slots.map (nv[·]?.getD Datum.null)
      let unchanged := match newVals with
        | some nvs => (oldVals.zip nvs).all fun (a, b) => a.isNull == b.isNull && a.same b
        | none => false
      let current := ((db.table? child.name).getD child)
      if oldVals.any Datum.isNull || unchanged then pure ()
      else
        let kids := childRows parent slots current childSlots oldVals
        let action := if isDelete then fk.ref.onDelete else fk.ref.onUpdate
        let childRef : TableRef := ⟨ref.schema, child.name⟩
        match action with
        | .restrict => if !kids.isEmpty then failWith foreignFailure .abort
        | .noAction => breakBy fk (kids.length : Int)
        | .cascade =>
          if isDelete then cascadeDeletes n g depth childRef kids
          else cascadeSets n g depth childRef childSlots (newVals.getD []) kids
        | .setNull => cascadeSets n g depth childRef childSlots (childSlots.map fun _ => .null) kids
        | .setDefault =>
          let defaults ← childSlots.mapM fun s => match current.columns[s]? with
            | some c => lift (defaultOf g cat c)
            | none => pure .null
          cascadeSets n g depth childRef childSlots defaults kids
        match newVals with
        | some nvs =>
          if action == .noAction || action == .restrict then
            let t := (db.table? child.name).getD child
            mendBy fk (childRows parent slots t childSlots nvs).length
        | none => pure ()
      parentActions n g depth ref isDelete old new rest
termination_by structural fuel => fuel

/-- Deletes child rows along with their parent. -/
def cascadeDeletes : Nat → Given → Nat → TableRef → List Int → Change Unit
  | 0, _, _, _, _ => tooDeep
  | _ + 1, _, _, _, [] => pure ()
  | n + 1, g, depth, ref, id :: rest => do
    deleteRow n g (depth + 1) ref id true true none
    cascadeDeletes n g depth ref rest
termination_by structural fuel => fuel

/-- Sets the key columns of child rows to values. -/
def cascadeSets : Nat → Given → Nat → TableRef → List Nat → List Datum → List Int → Change Unit
  | 0, _, _, _, _, _, _ => tooDeep
  | _ + 1, _, _, _, _, _, [] => pure ()
  | n + 1, g, depth, ref, slots, vals, id :: rest => do
    let t ← currentTable ref
    match t.row? id with
    | none => pure ()
    | some r =>
      let proposed := (slots.zip vals).foldl (fun (vs : Array Datum) (s, v) => vs.modify s fun _ => v) r.values
      updateRow n g (depth + 1) ref id proposed none slots none none
    cascadeSets n g depth ref slots vals rest
termination_by structural fuel => fuel

/-- Fires the triggers of a table for a change; false when one of them said to leave the row
alone. -/
def fireTriggers : Nat → Given → TableRef → TriggerTiming → TriggerEvent → List String →
    Option (Array Datum) → Option (Array Datum) → Change Bool
  | 0, _, _, _, _, _, _, _ => tooDeep
  | n + 1, g, ref, timing, event, assigned, new, old => do
    let cat := (← get).catalog
    let trigs := triggersFor cat ref timing event assigned
    if trigs.isEmpty then pure true
    else fireEach n g ref trigs new old
termination_by structural fuel => fuel

/-- Fires triggers one by one, each unless it runs already or its condition fails. -/
def fireEach : Nat → Given → TableRef → List (String × Trigger) → Option (Array Datum) →
    Option (Array Datum) → Change Bool
  | 0, _, _, _, _, _ => tooDeep
  | _ + 1, _, _, [], _, _ => pure true
  | n + 1, g, ref, (dbName, tr) :: rest, new, old => do
    let key := dbName ++ "." ++ foldName tr.name
    let recursive := (← get).catalog.settings.has .recursiveTriggers
    if !recursive && (← get).firing.contains key then fireEach n g ref rest new old
    else if (← get).firing.length ≥ triggerDepth then
      failWith (Failure.general "too many levels of trigger recursion") .abort
    else
      let t ← shapeOf ref
      let cat := (← get).catalog
      let blank := Array.replicate (t.columns.size + 1) Datum.null
      let frames : Frames := [Frame.ofRow (new.getD blank ++ old.getD blank)]
      let env := triggerEnv cat dbName ref t tr
      let fires ← match tr.whenCond with
        | none => pure true
        | some w => do
          let e ← lift (Plan.bindAll (do
            let e ← Binder.expr depthBudget env false w
            Binder.settle env
            pure e))
          pure ((← lift (eval depthBudget (contextOf g cat) frames e)).truth? == some true)
      if !fires then fireEach n g ref rest new old
      else
        modify fun r => { r with firing := key :: r.firing }
        let went ← tryCatch (runBody n g dbName ref t tr frames tr.body *> pure true) fun s =>
          match s with
          | .ignored => pure false
          | other => throw other
        modify fun r => { r with firing := r.firing.erase key }
        if went then fireEach n g ref rest new old else pure false
termination_by structural fuel => fuel

/-- Runs the statements of a trigger's body, each bound as the databases are when it runs. -/
def runBody : Nat → Given → String → TableRef → Table → Trigger → Frames → List Command → Change Unit
  | 0, _, _, _, _, _, _, _ => tooDeep
  | _ + 1, _, _, _, _, _, _, [] => pure ()
  | n + 1, g, dbName, ref, t, tr, frames, cmd :: rest => do
    let env := triggerEnv (← get).catalog dbName ref t tr
    match cmd with
    | .query q => do
      let (q', _) ← lift (Plan.bindAll (Binder.query depthBudget env q))
      let _ ← lift (runQuery depthBudget (contextOf g (← get).catalog) frames q')
    | other => do
      match ← lift (Plan.bindAll (Plan.change depthBudget env other)) with
      | some plan => runChange n g 1 frames plan
      | none => pure ()
    runBody n g dbName ref t tr frames rest
termination_by structural fuel => fuel

end

/-- Runs a statement that changes rows on the connection's databases from the start: the
state it ended in, and the stop that ended it early, if one did. A statement that leaves
references broken fails; one that ends well records in `sqlite_sequence` the largest row ids
it gave, also to rows that a conflict then left out. -/
def start (g : Given) (cat : Catalog) (plan : ChangePlan) : Run × Option Stop :=
  let init : Run := ⟨cat, 0, 0, none, #[], 0, [], []⟩
  match (runChange depthBudget g 0 [] plan).run init with
  | .ok _ s =>
    let held := s.catalog.deferredBroken > 0 || s.catalog.postponedBroken > 0
    if s.broken > 0 || (!cat.inTransaction && held) then (s, some (.failed foreignFailure .abort))
    else
      let recorded := s.sequences.foldl (fun c (ref, mark) =>
        match tableAt c ref with
        | some t => if mark > sequenceOf c ref.schema t.name then bumpSequence c ref.schema t.name mark else c
        | none => c) s.catalog
      ({ s with catalog := recorded }, none)
  | .error e s => (s, some e)

end Change

end QueryDoc.Store
