import QueryDoc.Compile.Condition

/-!
Compiling statements into SQL syntax.

A filter is walked expressions first, child filters second. The first item of a filter has its
connective moved into the `and` family (there is nothing before it to join by `or`); each later
expression keeps its own connective; each later child filter joins by the connective of the
enclosing filter, not its own.

Common table expressions are gathered into the outermost `with` list that sees them. In order:
those a select declares, the one it reads from, those it joins, and then those of each combined
select (declared, read, joined). A name already declared, here or by an enclosing select, is
not declared again, and a common table expression is compiled seeing the names declared before
it. A combined select is written without a `with` list: its common table expressions move to
the outer list unless one of the same name is there already. A combined select that has set
operations of its own is wrapped as `select * from (…) as combined_i`, `i` counting the combined
selects from zero.
-/

namespace QueryDoc.Compile

open Sql

/-- A table reference: raw SQL or a name split at its first dot, with the alias. -/
def tableRef (t : Table) : TableRef :=
  let r := if t.raw then TableRef.ofRaw t.name else TableRef.new t.name
  match t.aliasName with
  | some a => r.withAlias a
  | none => r

/-- A common table expression is read by its name alone. -/
def cteRef (aliasName : String) : TableRef := ⟨.quoted none aliasName, none⟩

/-- A projected field. -/
def compileField (f : Field) : SelectItem :=
  .expr (if f.raw then .raw f.name [] else .columnPath f.name) f.aliasName

/-- A grouping expression. -/
def compileGroupBy (g : GroupBy) : Expr :=
  if g.raw then .raw g.value [] else .columnPath g.value

/-- A sort item. -/
def compileSort (s : SortKey) : OrderItem :=
  ⟨.columnPath s.name, some (if s.ascending then .asc else .desc)⟩

/-- Common table expressions of a combined select moved to the outer list, skipping names the
list already has. -/
def hoistCtes : List CteDef → List CteDef → List CteDef
  | acc, [] => acc
  | acc, c :: cs => hoistCtes (if acc.any (·.name == c.name) then acc else acc ++ [c]) cs

/-- A combined select with set operations of its own, kept together in a derived table. -/
def wrapCombined (member : Query) (i : Nat) : Query :=
  { Query.empty with columns := [.star], source := some (.subquery member ("combined_" ++ toString i)) }

/-- The condition a join's `on` expression states: a comparison of two columns, the joined
column named by the expression's text value. -/
def joinComparison (on : Expression) : Result Expr :=
  match comparisonOperator on.relation with
  | none =>
    invalid ("join condition on '" ++ on.name ++ "' must be a comparison, not " ++ on.relation.name)
  | some op =>
    match on.value with
    | .text right => .ok (Predicate.compareColumns on.name op right).toExpr
    | _ => invalid ("join condition on '" ++ on.name ++ "' must name the joined column as its value")

/-- A `like` condition on a text value. -/
def likeCondition (column : String) (k : LikeKind) : Value → Result Predicate
  | .text t => .ok (.like column k t)
  | _ => invalid (k.name ++ " on '" ++ column ++ "' needs a text value")

/-- Names declared so far, and the compiled common table expressions in declaration order. -/
abbrev Declared := List String × List CteDef

mutual

/-- The predicate a condition states about its column: a comparison (or a test for `null`
when an equality is with `null`), a membership test, a `null` or `true` test, an existence
test, or a `like` pattern. -/
def toPredicate (scope : List String) (name : String) (value : Value) :
    Relation → Result Predicate
  | relation@(.equalTo) | relation@(.greaterThan) | relation@(.greaterThanOrEqualTo)
  | relation@(.lessThan) | relation@(.lessThanOrEqualTo) =>
    if relation == .equalTo && value.isNull then pure (Predicate.null name)
    else
      match comparisonOperator relation with
      | some op => do
        let v ← Value.toParam value
        pure (Predicate.compare name op v)
      | none => invalid (relation.name ++ " is not a comparison")
  | .isIn =>
    match value with
    | .query s => do
      let q ← compileSelect scope s
      pure (Predicate.inQuery name q)
    | .list vs => do
      let ps ← vs.mapM Value.toParam
      pure (Predicate.isIn name ps)
    | .null => pure (Predicate.isIn name [])
    | _ => invalid ("In on '" ++ name ++ "' needs a list or a nested select")
  | .nullValue => pure (Predicate.null name)
  | .trueValue => pure (Predicate.isTrue name)
  | .exists =>
    match value with
    | .query s => do
      let q ← compileSelect scope s
      pure (Predicate.exists q)
    | _ => invalid "Exists needs a nested select as its value"
  | .startsWith => likeCondition name .startsWith value
  | .endsWith => likeCondition name .endsWith value
  | .contains => likeCondition name .contains value

/-- Joins one expression to a condition under a connective. -/
def appendExpression (scope : List String) (acc : Option Expr) (c : Connective) :
    Expression → Result (Option Expr)
  | ⟨name, value, relation, _, raw⟩ =>
    if raw then
      if c.isNegated then
        invalid ("raw expression '" ++ name ++ "' cannot be negated with " ++ c.name)
      else do
        let bindings ← (value.asList?.getD []).mapM Value.toParam
        pushRaw acc c name bindings
    else do
      let p ← toPredicate scope name value relation
      pure (push acc c p.toExpr)

/-- Joins a list of expressions: the first in the `and` family, the rest under their own
connectives. Also says whether the condition is still waiting for its first item. -/
def appendExpressions (scope : List String) (acc : Option Expr) (first : Bool) :
    List Expression → Result (Option Expr × Bool)
  | [] => pure (acc, first)
  | e :: es => do
    let acc ← appendExpression scope acc (if first then e.connective.toAnd else e.connective) e
    appendExpressions scope acc false es

/-- Joins a list of expressions, each in the `and` family. -/
def appendAllAnd (scope : List String) (acc : Option Expr) :
    List Expression → Result (Option Expr)
  | [] => pure acc
  | e :: es => do
    let acc ← appendExpression scope acc e.connective.toAnd e
    appendAllAnd scope acc es

/-- Joins a filter's expressions, then its child filters. -/
def applyFilter (scope : List String) (acc : Option Expr) : Filter → Result (Option Expr)
  | ⟨expressions, filters, c⟩ => do
    let (acc, first) ← appendExpressions scope acc true expressions
    applyChildren scope acc first c filters

/-- Joins child filters as groups under the enclosing filter's connective. -/
def applyChildren (scope : List String) (acc : Option Expr) (first : Bool) (c : Connective) :
    List Filter → Result (Option Expr)
  | [] => pure acc
  | f :: fs => do
    let group ← applyFilter scope none f
    applyChildren scope (pushGroup acc (if first then .and else c) group) false c fs

/-- The condition of an optional filter. -/
def compileCondition (scope : List String) : Option Filter → Result (Option Expr)
  | none => pure none
  | some f => applyFilter scope none f

/-- Declares a common table expression unless its name is already declared. -/
def declareCte (d : Declared) : Cte → Result Declared
  | ⟨aliasName, query⟩ =>
    if d.1.contains aliasName then pure d
    else do
      let body ← match query with
        | .select s => do
          let q ← compileSelect d.1 s
          pure (CteBody.select q)
        | .rawSql sql => pure (CteBody.raw sql)
      pure (d.1 ++ [aliasName], d.2 ++ [⟨aliasName, body⟩])

/-- Declares common table expressions in order. -/
def declareCtes (d : Declared) : List Cte → Result Declared
  | [] => pure d
  | c :: cs => do
    let d ← declareCte d c
    declareCtes d cs

/-- Declares the common table expression a select reads from, if it reads from one. -/
def declareSourceCte (d : Declared) : Option Source → Result Declared
  | some (.cte c) => declareCte d c
  | _ => pure d

/-- Declares the common table expressions a select joins. -/
def declareJoinCtes (d : Declared) : List Join → Result Declared
  | [] => pure d
  | ⟨.cte c, _, _, _⟩ :: js => do
    let d ← declareCte d c
    declareJoinCtes d js
  | _ :: js => declareJoinCtes d js

/-- Declares the common table expressions of combined selects. -/
def declareCombineCtes (d : Declared) : List Combine → Result Declared
  | [] => pure d
  | ⟨⟨ctes, source, _, joins, _, _, _, _, _⟩, _⟩ :: cs => do
    let d ← declareCtes d ctes
    let d ← declareSourceCte d source
    let d ← declareJoinCtes d joins
    declareCombineCtes d cs

/-- What a select reads from or joins. -/
def compileSource (scope : List String) : Source → Result FromItem
  | .table t => pure (.table (tableRef t))
  | .derived ⟨s, aliasName⟩ => do
    let q ← compileSelect scope s
    pure (.subquery q aliasName)
  | .cte ⟨aliasName, _⟩ => pure (.table (cteRef aliasName))

/-- What a select reads from, if anything. -/
def compileOptSource (scope : List String) : Option Source → Result (Option FromItem)
  | none => pure none
  | some s => do
    let f ← compileSource scope s
    pure (some f)

/-- Joins sources onto what a select reads from, left to right. A join's condition is its `on`
expression followed by its further expressions, all in the `and` family. -/
def compileJoins (scope : List String) (left : Option FromItem) :
    List Join → Result (Option FromItem)
  | [] => pure left
  | ⟨target, on, expressions, kind⟩ :: js => do
    let l ← match left with
      | some l => pure l
      | none => invalid "a select with joins needs a from source"
    let right ← compileSource scope target
    let cond ← if on.raw then appendExpression scope none on.connective.toAnd on
      else do
        let e ← joinComparison on
        pure (push none on.connective.toAnd e)
    let cond ← appendAllAnd scope cond expressions
    compileJoins scope (some (.join l kind right cond)) js

/-- Appends combined selects to a compiled select as set operations. -/
def compileCombines (scope : List String) (stmt : Query) (i : Nat) :
    List Combine → Result Query
  | [] => pure stmt
  | ⟨s, op⟩ :: cs => do
    let member ← compileSelect scope s
    if !member.orderBy.isEmpty then
      invalid "a combined select cannot be sorted on its own; sort the outer select"
    else
      let ctes := hoistCtes stmt.ctes member.ctes
      let member := { member with ctes := [] }
      let member := if member.setOps.isEmpty then member else wrapCombined member i
      compileCombines scope { stmt with ctes := ctes, setOps := stmt.setOps ++ [⟨op, member⟩] }
        (i + 1) cs

/-- Compiles a select seeing the common table expressions named in `scope` as declared. -/
def compileSelect (scope : List String) : Select → Result Query
  | ⟨ctes, source, fields, joins, filter, groupBys, having, sorts, combines⟩ => do
    let d ← declareCtes (scope, []) ctes
    let d ← declareSourceCte d source
    let d ← declareJoinCtes d joins
    let d ← declareCombineCtes d combines
    let scope := d.1
    let source ← compileOptSource scope source
    let source ← compileJoins scope source joins
    let filter ← compileCondition scope filter
    let having ← compileCondition scope having
    let stmt : Query :=
      { ctes := d.2
        columns := if fields.isEmpty then [.star] else fields.map compileField
        source := source
        filter := filter
        groupBy := groupBys.map compileGroupBy
        having := having
        setOps := []
        orderBy := sorts.map compileSort
        limit := none
        offset := none }
    compileCombines scope stmt 0 combines

end

/-- The condition of a flat list of expressions. -/
def compileFlatCondition (es : List Expression) : Result (Option Expr) := do
  let (acc, _) ← appendExpressions [] none true es
  pure acc

/-- Compiles an insert: field values become one row, or a select provides the rows and its
projected field names the columns. -/
def compileInsert (s : Insert) : Result InsertStmt :=
  let table := tableRef s.table
  match s.query, s.fields.isEmpty with
  | some _, false => invalid "an insert takes either field values or a query, not both"
  | none, true => invalid "an insert needs field values or a query"
  | none, false => do
    let row ← s.fields.mapM fun f => do
      let p ← Value.toParam f.value
      pure (Expr.bound p)
    pure ⟨[], table, s.fields.map (·.name), .values [row]⟩
  | some q, true =>
    if q.fields.isEmpty then
      invalid "an insert from a query needs the query to project its fields"
    else do
      let compiled ← compileSelect [] q
      pure ⟨compiled.ctes, table, q.fields.map Field.outputName, .query { compiled with ctes := [] }⟩

/-- Compiles an update: each field is set to its bound value. -/
def compileUpdate (s : Update) : Result UpdateStmt :=
  if s.fields.isEmpty then invalid "an update needs at least one field"
  else do
    let set ← s.fields.mapM fun f => do
      let p ← Value.toParam f.value
      pure (f.name, Expr.bound p)
    let filter ← compileFlatCondition s.filters
    pure ⟨tableRef s.table, set, filter⟩

/-- Compiles a delete. -/
def compileDelete (s : Delete) : Result DeleteStmt := do
  let filter ← compileFlatCondition s.filters
  pure ⟨tableRef s.table, filter⟩

/-- Compiles a statement. -/
def compileStatement : Statement → Result Stmt
  | .select s => .select <$> compileSelect [] s
  | .insert s => .insert <$> compileInsert s
  | .update s => .update <$> compileUpdate s
  | .delete s => .delete <$> compileDelete s

end QueryDoc.Compile
