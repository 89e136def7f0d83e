import QueryDoc.Store.Plan

/-!
The declared types of a view's columns.

A view's column has the type of the column it reads: a column of a stored table gives its
declared type, a column of a subquery, view or common table the type of the column it is, a
scalar subquery the type of its first column; the row id reads as `INTEGER`. Anything else,
and a column read through a value such as `b collate nocase`, has no type of its own.

The type a view shows is that type when its preference is the preference of the column's
value; otherwise it is named after the value's preference (`NUM`, `BLOB`, `INT`, `REAL` or
`TEXT`), and a value with no preference shows no type.
-/

namespace QueryDoc.Store

namespace ColumnTypes

/-- How deep binding and the walk of a query may go. -/
def budget : Nat := 1000000

/-- A source of a `from` as names see it: the name it is known by and its columns, each with
its declared type, and the type its row id reads as when it has one. -/
structure Shape where
  name : String
  columns : List (String × Option String)
  rowid : Option (Option String) := none

/-- The names of the result columns of a select, before they are made unique. -/
def resultNames (shapes : List Shape) : List ResultColumn → List String
  | [] => []
  | .all :: rest => (shapes.flatMap fun s => s.columns.map (·.1)) ++ resultNames shapes rest
  | .allOf t _ :: rest =>
    ((shapes.filter (sameName ·.name t)).flatMap fun s => s.columns.map (·.1)) ++ resultNames shapes rest
  | .term t aliasName span :: rest =>
    let nm := aliasName.getD (match t with
      | .column _ c _ _ => c
      | _ => span)
    nm :: resultNames shapes rest

/-- The declared type a column name reads in a list of scopes, the innermost first. -/
def lookup (scopes : List (List Shape)) (table : Option String) (name : String) : Option String :=
  let inShape (s : Shape) : Option (Option String) :=
    match s.columns.find? (sameName ·.1 name) with
    | some (_, ty) => some ty
    | none =>
      if ["rowid", "oid", "_rowid_"].contains (foldName name) then s.rowid else none
  let inScope (shapes : List Shape) : Option (Option String) :=
    match table with
    | some t => (shapes.find? (sameName ·.name t)).bind inShape
    | none => shapes.findSome? inShape
  (scopes.findSome? inScope).getD none

mutual

/-- The declared types of the result columns of a query, in scopes the innermost first, with
the common tables in view. -/
def ofQuery : Nat → Catalog → String → List (List Shape) → List CommonTable → Query → List (Option String)
  | 0, _, _, _, _, _ => []
  | n + 1, cat, dbName, scopes, ctes, .mk _ own first _ _ _ _ => ofCore n cat dbName scopes (own ++ ctes) first

/-- The declared types of the result columns of a simple select. -/
def ofCore : Nat → Catalog → String → List (List Shape) → List CommonTable → Core → List (Option String)
  | 0, _, _, _, _, _ => []
  | _ + 1, _, _, _, _, .values rows => (rows.headD []).map fun _ => none
  | n + 1, cat, dbName, scopes, ctes, .select _ columns source _ _ _ _ =>
    let shapes := match source with
      | some s => ofSource n cat dbName scopes ctes s
      | none => []
    let inner := shapes :: scopes
    columns.flatMap fun c => match c with
      | .all => shapes.flatMap fun s => s.columns.map (·.2)
      | .allOf t _ => (shapes.filter (sameName ·.name t)).flatMap fun s => s.columns.map (·.2)
      | .term t _ _ => [ofTerm n cat dbName inner ctes t]

/-- The declared type of a result column's expression. -/
def ofTerm : Nat → Catalog → String → List (List Shape) → List CommonTable → Term → Option String
  | 0, _, _, _, _, _ => none
  | n + 1, cat, dbName, scopes, ctes, t =>
    match t with
    | .column table name _ _ => lookup scopes table name
    | .scalar q => (ofQuery n cat dbName scopes ctes q).headD none
    | _ => none

/-- The sources of a `from`, left to right. -/
def ofSource : Nat → Catalog → String → List (List Shape) → List CommonTable → Source → List Shape
  | 0, _, _, _, _, _ => []
  | n + 1, cat, dbName, scopes, ctes, src =>
    match src with
    | .join l _ _ r _ _ => ofSource n cat dbName scopes ctes l ++ ofSource n cat dbName scopes ctes r
    | .query q aliasName =>
      [⟨aliasName.getD "", subqueryColumns n cat dbName scopes ctes [] q, none⟩]
    | .table schema name aliasName _ _ _ =>
      let shown := aliasName.getD name
      let cte := if schema.isNone then ctes.find? (fun (.mk c _ _) => sameName c name) else none
      match cte with
      | some (.mk _ cols q) => [⟨shown, subqueryColumns n cat dbName scopes ctes cols q, none⟩]
      | none =>
        let lookIn := schema.orElse fun _ => some dbName
        match cat.table? lookIn name with
        | some (_, t) =>
          let cols := t.columns.toList.map fun c => (c.name, some (shownType c.declaredType))
          let rowidType := match t.rowidColumn.bind (t.columns[·]?) with
            | some c => some (shownType c.declaredType)
            | none => some "INTEGER"
          [⟨shown, cols, if t.withoutRowid then none else some rowidType⟩]
        | none =>
          match cat.view? lookIn name with
          | some (vdb, v) => [⟨shown, subqueryColumns n cat vdb [] [] v.columns v.query, none⟩]
          | none => [⟨shown, [], none⟩]

/-- The columns of a subquery, view or common table: its names (those given, else its result
names) with the declared types of its result columns. -/
def subqueryColumns : Nat → Catalog → String → List (List Shape) → List CommonTable → List String → Query →
    List (String × Option String)
  | 0, _, _, _, _, _, _ => []
  | n + 1, cat, dbName, scopes, ctes, given, q =>
    let types := ofQuery n cat dbName scopes ctes q
    let names := if given.isEmpty then
        match q with
        | .mk _ own (.select _ cols (some src) _ _ _ _) _ _ _ _ =>
          resultNames (ofSource n cat dbName scopes (own ++ ctes) src) cols
        | .mk _ _ (.select _ cols none _ _ _ _) _ _ _ _ => resultNames [] cols
        | .mk _ _ (.values rows) _ _ _ _ =>
          ((rows.headD []).zipIdx.map fun (_, k) => "column" ++ toString (k + 1))
      else given
    names.zip types

end

/-- The type a column shows: its declared type when that type's preference is the
preference of its value, else a name for the value's preference. -/
def shown (declared : Option String) (aff : Option Affinity) : String :=
  match aff with
  | none => ""
  | some a =>
    match declared with
    | some d => if Affinity.ofType (some d) == a then d else fallback a
    | none => fallback a
where
  /-- The type named after a preference. -/
  fallback : Affinity → String
    | .numeric => "NUM"
    | .blob => "BLOB"
    | .integer => "INT"
    | .real => "REAL"
    | .text => "TEXT"

/-- The columns of a view with the types they show. -/
def ofView (cat : Catalog) (dbName : String) (view : View) : Outcome (List (String × String)) := do
  let viewEnv : BindEnv := {
    catalog := cat, sql := "", scopes := [], ctes := [], noOffsets := true, aggMisuse := false,
    ddlSchema := some dbName }
  let (_, infos) ← Plan.bindAll (Binder.query budget viewEnv view.query)
  if !view.columns.isEmpty && view.columns.length != infos.length then
    throw (Failure.general ("expected " ++ toString view.columns.length ++ " columns for '" ++ view.name ++
      "' but got " ++ toString infos.length))
  let names := Binder.uniqueNames (if view.columns.isEmpty then infos.map (·.subName) else view.columns)
  let declared := ofQuery budget cat dbName [] [] view.query
  pure ((names.zip infos).zipIdx.map fun ((nm, i), k) => (nm, shown (declared[k]?.getD none) i.affinity))

end ColumnTypes

end QueryDoc.Store
