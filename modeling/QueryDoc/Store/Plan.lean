import QueryDoc.Store.Binder

/-!
Statements that change rows, with their names looked up.

An insert names the columns its values go to (all columns that are not generated, when it
names none; a row id name reaches the row id); its rows are lists of values, a query, or
the defaults alone. An update gives new values to columns from expressions over the row it
changes (and over the rows of its own `from`), and a delete removes rows; both keep the rows
their filter holds for, read in the order the filter suggests. Each may return values
computed from every row it changed, and an insert may say what to do instead when a row's
key is taken (`on conflict`).

Expressions over the changed table see it under its alias or name at the start of the row;
an insert's `on conflict` also sees the row that could not go in as `excluded`, after the
table's row.
-/

namespace QueryDoc.Store

/-- What an upsert does once a row's key is taken: nothing, or new values for the row that
holds the key, when its filter holds. -/
inductive UpsertDo where
  | nothing
  | update (sets : List (List Nat × Bound.Expr)) (filter : Option Bound.Expr)

/-- Which key an upsert is for: the row id, a unique index by name, or any key. -/
inductive UpsertTarget where
  | any
  | rowid
  | index (name : String)
  deriving BEq

/-- One `on conflict` clause of an insert. -/
structure UpsertPlan where
  target : UpsertTarget
  action : UpsertDo

/-- Where an insert's rows come from. -/
inductive InsertSource where
  | values (rows : List (List Bound.Expr))
  | query (q : Bound.Query)
  | defaults

/-- The columns and values a statement returns for each row it changes. -/
structure Returning where
  columns : List Bound.Expr
  names : List String

/-- An insert: the table, the common tables of its `with`, the slot each given value goes to
(a column, or the row id as the slot after the columns), its rows, the conflict resolution it
names, its upserts and what it returns. -/
structure InsertPlan where
  target : TableRef
  ctes : List Bound.Common
  slots : List Nat
  source : InsertSource
  onConflict : Option OnConflict
  upserts : List UpsertPlan
  returning : Option Returning
  /-- Whether the target is a view, whose `instead of` triggers take the rows. -/
  intoView : Bool

/-- An update: the table, its common tables, the slots each assignment sets, the source of
its `from` (whose rows follow the table's row), its filter, the order it reads the table in,
its conflict resolution and what it returns. -/
structure UpdatePlan where
  target : TableRef
  ctes : List Bound.Common
  sets : List (List Nat × Bound.Expr)
  source : Option Bound.Source
  filter : Option Bound.Expr
  order : List Bound.OrderKey
  onConflict : Option OnConflict
  returning : Option Returning
  /-- The searches a virtual table answers itself. -/
  searches : List (Nat × Bound.Expr)
  /-- For a view, the query of its rows, which its `instead of` triggers change. -/
  viewRows : Option Bound.Query

/-- A delete: the table, its common tables, its filter, the order it reads the table in and
what it returns. -/
structure DeletePlan where
  target : TableRef
  ctes : List Bound.Common
  filter : Option Bound.Expr
  order : List Bound.OrderKey
  returning : Option Returning
  /-- The searches a virtual table answers itself. -/
  searches : List (Nat × Bound.Expr)
  /-- For a view, the query of its rows, which its `instead of` triggers change. -/
  viewRows : Option Bound.Query

/-- A statement that changes rows, bound. -/
inductive ChangePlan where
  | insert (p : InsertPlan)
  | update (p : UpdatePlan)
  | delete (p : DeletePlan)

namespace Plan

open Binder

/-- Runs a binding from the empty state; a failure that only running would meet is given
once everything is bound. -/
def bindAll {α : Type} (action : Bind α) : Outcome α := do
  let (a, st) ← action.run BindState.empty
  match st.deferred with
  | some f => throw f
  | none => pure a

/-- Whether a view has an `instead of` trigger for a change; an update trigger naming columns
counts only when one of them is assigned. -/
def insteadOf (cat : Catalog) (dbName view : String) (event : TriggerEvent) (assigned : List String) : Bool :=
  let own := ((cat.db? dbName).map (·.triggersOf view)).getD []
  let temp := if dbName != "temp" then ((cat.db? "temp").map (·.triggersOf view)).getD [] else []
  (own ++ temp).any fun tr => tr.timing == .insteadOf && match tr.event, event with
    | .insert, .insert => true
    | .delete, .delete => true
    | .update cols, .update _ => cols.isEmpty || cols.any (fun c => assigned.any (sameName c))
    | _, _ => false

/-- A view as a table of its columns (their preferences and collations as the view's query
gives them), without rows, and the query of its rows. -/
def viewShape (n : Nat) (cat : Catalog) (sql : String) (dbName : String) (view : View) :
    Bind (Table × Bound.Query) := do
  let viewEnv : BindEnv := {
    catalog := cat, sql := sql, scopes := [], ctes := [], noOffsets := true, aggMisuse := false,
    ddlSchema := some dbName }
  let (q, infos) ← Binder.query n viewEnv view.query
  if !view.columns.isEmpty && view.columns.length != infos.length then
    abortWith viewEnv ("expected " ++ toString view.columns.length ++ " columns for '" ++ view.name ++
      "' but got " ++ toString infos.length)
  let names := uniqueNames (if view.columns.isEmpty then infos.map (·.subName) else view.columns)
  let shape := Define.plainTable view.name names view.sql
  let columns := (shape.columns.toList.zip infos).map fun (c, i) =>
    { c with affinity := i.affinity.getD .blob, collation := i.collation.getD .binary }
  pure ({ shape with columns := columns.toArray }, q)

/-- The table a statement changes, with the name of its database. A view can be changed only
when `instead of` triggers carry the change (`event`, with the columns `assigned`) out; it is
then given as its shape, with the query of its rows. -/
def target (n : Nat) (env : BindEnv) (schema : Option String) (name : String) (event : TriggerEvent)
    (assigned : List String) : Bind (TableRef × Table × Option Bound.Query) := do
  let lookIn := schema.orElse fun _ => env.ddlSchema
  match env.catalog.table? lookIn name with
  | some (db, t) => pure (⟨db, t.name⟩, t, none)
  | none =>
    match env.catalog.view? lookIn name with
    | some (db, v) =>
      let (shape, q) ← viewShape n env.catalog env.sql db v
      if insteadOf env.catalog db v.name event assigned then pure (⟨db, v.name⟩, shape, some q)
      else abortWith env ("cannot modify " ++ v.name ++ " because it is a view")
    | none =>
      let shown := match lookIn with
        | some s => s ++ "." ++ name
        | none => name
      abortWith env ("no such table: " ++ shown)

/-- A stored table as names see it, under a name, from a slot. -/
def tableVisible (ref : TableRef) (t : Table) (name : String) (offset id : Nat) : Visible :=
  if t.virtual.isSome then
    let cols := Virtual.visibleColumns t
    ⟨name, cols, offset, id, some (offset + cols.length), some (ref, t), false, [], .inner⟩
  else
    ⟨name, tableColumns t, offset, id, (if t.withoutRowid then none else some (offset + t.columns.size)),
      some (ref, t), false, [], .inner⟩

/-- The slot a column name sets: its column, or the row id. -/
def slotOf (env : BindEnv) (t : Table) (name : String) (verb : String) : Bind Nat := do
  match t.columnIndex? name with
  | some i =>
    if ((t.columns[i]?).map Column.isGenerated).getD false then
      abortWith env ("cannot " ++ verb ++ " generated column \"" ++ name ++ "\"")
    else pure i
  | none =>
    match (Virtual.hiddenColumns t).findIdx? (sameName name) with
    | some k => pure (t.columns.size + k)
    | none =>
      if rowidNames.contains (foldName name) && !t.withoutRowid then pure (Virtual.rowWidth t - 1)
      else abortWith env ("no such column: " ++ name)

/-- Binds the assignments of an update or an upsert; each sets one slot, or several from a
row of values. -/
def assignments (n : Nat) (env : BindEnv) (t : Table) (sets : List (List String × Term)) :
    Bind (List (List Nat × Bound.Expr)) :=
  sets.mapM fun (names, term) => do
    let e ← expr n env false term
    settle env
    let slots ← names.mapM fun nm => slotOf env t nm "UPDATE"
    if names.length > 1 && vectorSize e != names.length then
      abortWith env (toString names.length ++ " columns assigned " ++ toString (vectorSize e) ++ " values")
    if names.length == 1 then scalarCheck e
    pure (slots, e)

/-- Binds what a statement returns, over the changed table. -/
def returning (n : Nat) (env : BindEnv) (v : Visible) (cols : List ResultColumn) : Bind (Option Returning) := do
  if cols.isEmpty then pure none
  else
    let (es, armCols) ← resultList n (enterScope { env with allowWindows := false } ⟨[v], []⟩) [v] cols [] []
    pure (some ⟨es, armCols.map (·.name)⟩)

/-- The key an upsert's target names: the row id, or the first unique index (the latest made
first) whose columns are the target's terms in some order. Terms are compared as bound over
the table, each index column under its collation: a term with a collation of its own matches
only a column of that collation. A partial index takes only a target whose condition is
written as its own. Naming no key fails; when there are several `on conflict` clauses the
failure says which. -/
def upsertTarget (n : Nat) (env : BindEnv) (cat : Catalog) (ref : TableRef) (t : Table) (v : Visible)
    (position count : Nat) (target : Option (List IndexedColumn × Option Term)) : Bind UpsertTarget := do
  match target with
  | none => pure .any
  | some (ics, cond) =>
    let tenv := enterScope env ⟨[v], []⟩
    let terms ← ics.mapM fun ic => do
      let e ← expr n tenv false ic.term
      let (e, own) := match e with
        | .collate x c => (x, some c)
        | x => (x, none)
      let own := match ic.collation with
        | some nm => some ((Collation.ofName? nm).getD (.missing nm))
        | none => own
      pure (e, own)
    let cond' ← match cond with
      | some c => some <$> expr n tenv false c
      | none => pure none
    settle env
    let isRowid (e : Bound.Expr) : Bool := match e with
      | .column 0 slot _ _ => slot == v.offset + t.columns.size || (t.rowidColumn.map (v.offset + ·)) == some slot
      | _ => false
    match terms with
    | [(e, _)] =>
      if !t.withoutRowid && isRowid e then return .rowid
    | _ => pure ()
    let indexes := ((cat.db? ref.schema).map (·.indexesOf t.name)).getD []
    let partExpr (p : IndexPart) : Bind (Option Bound.Expr) := do
      match p.source with
      | .column c =>
        let col := t.columns[c]?
        pure (some (.column 0 (v.offset + c) (col.bind (·.affinity)) (col.map (·.collation))))
      | .rowid => pure (some (.column 0 (v.offset + t.columns.size) none none))
      | .expr term =>
        let e ← expr n tenv false term
        pure (some (match e with
          | .collate x _ => x
          | x => x))
    let fits (i : Index) : Bind Bool := do
      if !i.unique || i.parts.length != terms.length then return false
      match i.filter, cond' with
      | some f, some c =>
        let f' ← expr n tenv false f
        if !Bound.Expr.alike termDepth f' c then return false
      | some _, none => return false
      | none, _ => pure ()
      let parts ← i.parts.mapM fun p => do pure ((← partExpr p), p.collation)
      pure (parts.all fun (pe, coll) =>
        terms.any fun (e, own) =>
          (pe.any (Bound.Expr.alike termDepth e ·)) && own.all (· == coll))
    let saved ← get
    let found ← indexes.findM? fits
    set saved
    match found with
    | some i => pure (.index i.name)
    | none =>
      let which := if count > 1 then ordinal position ++ " " else ""
      abortWith env (which ++ "ON CONFLICT clause does not match any PRIMARY KEY or UNIQUE constraint")

/-- Binds an insert. -/
def insert (n : Nat) (env : BindEnv) (ctes : List CommonTable) (onConflict : Option OnConflict)
    (schema : Option String) (table : String) (aliasName : Option String)
    (columns : Option (List String)) (rows : InsertRows) (upserts : List UpsertClause)
    (ret : List ResultColumn) : Bind InsertPlan := do
  let (env, ids) ← declareCommons env ctes
  let (ref, t, viewRows) ← target n env schema table .insert []
  let slots ← match columns with
    | some names => names.mapM fun nm =>
      match t.columnIndex? nm with
      | some i =>
        if ((t.columns[i]?).map Column.isGenerated).getD false then
          abortWith env ("cannot INSERT into generated column \"" ++ nm ++ "\"")
        else pure i
      | none =>
        match (Virtual.hiddenColumns t).findIdx? (sameName nm) with
        | some k => pure (t.columns.size + 1 + k)
        | none =>
          if rowidNames.contains (foldName nm) && !t.withoutRowid then pure t.columns.size
          else abortWith env ("table " ++ t.name ++ " has no column named " ++ nm)
    | none => pure ((t.columns.toList.zipIdx.filter fun (c, _) => !c.isGenerated).map (·.2))
  let supplied (k : Nat) : Bind Unit :=
    match columns with
    | some cs =>
      if k != cs.length then
        abortWith env (toString k ++ " values for " ++ toString cs.length ++ " columns")
      else pure ()
    | none =>
      if k != slots.length then
        abortWith env ("table " ++ t.name ++ " has " ++ toString slots.length ++ " columns but " ++
          toString k ++ " values were supplied")
      else pure ()
  let source ← match rows with
    | .values vs =>
      let width := (vs.headD []).length
      if vs.any (·.length != width) then abortWith env "all VALUES must have the same number of terms"
      supplied width
      let bound ← vs.mapM fun r => do
        let es ← exprs n env false r
        settle env
        for e in es do scalarCheck e
        pure es
      pure (InsertSource.values bound)
    | .query q =>
      let (q', infos) ← Binder.query n env q
      supplied infos.length
      pure (InsertSource.query q')
    | .defaults => pure InsertSource.defaults
  if t.virtual.isSome && !upserts.isEmpty then
    abortWith env ("UPSERT not implemented for virtual table \"" ++ t.name ++ "\"")
  if viewRows.isSome && !upserts.isEmpty then abortWith env "cannot UPSERT a view"
  let id ← fresh
  let width := t.columns.size + 1
  let v := tableVisible ref t (aliasName.getD t.name) 0 id
  let excluded := tableVisible ref t "excluded" width (id + 1000000)
  let ups ← upserts.zipIdx.mapM fun (u, k) => do
    let tgt ← upsertTarget n env env.catalog ref t v (k + 1) upserts.length u.target
    let act ← match u.action with
      | .nothing => pure UpsertDo.nothing
      | .update sets filter => do
        let uenv := enterScope env ⟨[v, { excluded with qualifiedOnly := true }], []⟩
        let sets' ← assignments n uenv t sets
        let filter' ← optTop n uenv false filter
        pure (UpsertDo.update sets' filter')
    pure (⟨tgt, act⟩ : UpsertPlan)
  let ret' ← returning n env v ret
  let commons ← boundCommons ids
  pure ⟨ref, commons, slots, source, onConflict, ups, ret', viewRows.isSome⟩

/-- The order an update or a delete reads its table in: backwards when the connection reads
unordered rows in reverse. -/
def readOrder (env : BindEnv) (t : Table) (order : List Bound.OrderKey) : List Bound.OrderKey :=
  if env.catalog.settings.has .reverseUnorderedSelects then backwards t order else order

/-- Binds an update. -/
def update (n : Nat) (env : BindEnv) (ctes : List CommonTable) (onConflict : Option OnConflict)
    (schema : Option String) (table : String) (aliasName : Option String)
    (sets : List (List String × Term)) (source : Option Source) (filter : Option Term)
    (ret : List ResultColumn) : Bind UpdatePlan := do
  let (env, ids) ← declareCommons env ctes
  let (ref, t, viewRows) ← target n env schema table (.update []) (sets.flatMap (·.1))
  let id ← fresh
  let width := Virtual.rowWidth t
  let v := tableVisible ref t (aliasName.getD t.name) 0 id
  let (src, visibles, pending) ← match source with
    | some s => do
      let (s', vs, _, pending) ← from_ n env s width
      pure (some s', vs, pending)
    | none => pure (none, [], [])
  let uenv := enterScope env ⟨v :: visibles, []⟩
  let sets' ← assignments n uenv t sets
  let filter' ← optTop n { uenv with aggMisuse := true } false filter
  let conditions ← joinConditions n { uenv with noOffsets := true } false pending []
  settle env
  let src := src.map fun s => (withConditions s conditions).1
  let indexes := ((env.catalog.db? ref.schema).map (·.indexesOf t.name)).getD []
  let used := ((← get).used.filter (·.1 == id)).map (·.2)
  let order := readOrder env t (chooseOrder t indexes v ((filter'.map conjuncts).getD []) used)
  let ret' ← returning n env v ret
  let commons ← boundCommons ids
  let (searches, filter') := Virtual.takeSearches 0 t filter'
  pure ⟨ref, commons, sets', src, filter', order, onConflict, ret', searches, viewRows⟩

/-- Binds a delete. -/
def delete (n : Nat) (env : BindEnv) (ctes : List CommonTable) (schema : Option String) (table : String)
    (aliasName : Option String) (filter : Option Term) (ret : List ResultColumn) : Bind DeletePlan := do
  let (env, ids) ← declareCommons env ctes
  let (ref, t, viewRows) ← target n env schema table .delete []
  let id ← fresh
  let v := tableVisible ref t (aliasName.getD t.name) 0 id
  let filter' ← optTop n { (enterScope env ⟨[v], []⟩) with aggMisuse := true } false filter
  let indexes := ((env.catalog.db? ref.schema).map (·.indexesOf t.name)).getD []
  let used := ((← get).used.filter (·.1 == id)).map (·.2)
  let order := readOrder env t (chooseOrder t indexes v ((filter'.map conjuncts).getD []) used)
  let ret' ← returning n env v ret
  let commons ← boundCommons ids
  let (searches, filter') := Virtual.takeSearches 0 t filter'
  pure ⟨ref, commons, filter', order, ret', searches, viewRows⟩

/-- Binds a statement that changes rows; `none` for any other statement. -/
def change (n : Nat) (env : BindEnv) : Command → Bind (Option ChangePlan)
  | .insert _ ctes onConflict schema table aliasName columns rows upserts ret =>
    some <$> (ChangePlan.insert <$> insert n env ctes onConflict schema table aliasName columns rows
      upserts ret)
  | .update _ ctes onConflict schema table aliasName sets source filter ret =>
    some <$> (ChangePlan.update <$> update n env ctes onConflict schema table aliasName sets source
      filter ret)
  | .delete _ ctes schema table aliasName filter ret =>
    some <$> (ChangePlan.delete <$> delete n env ctes schema table aliasName filter ret)
  | _ => pure none

end Plan

end QueryDoc.Store
