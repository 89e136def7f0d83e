import QueryDoc.Store.Scope
import QueryDoc.Store.Planner.Select
import QueryDoc.Store.Pragma.Registry
import QueryDoc.Store.JsonTable
import QueryDoc.Store.Virtual

/-!
Looking up the names of a statement.

Names are looked up from the innermost select outwards. Within one select, a name is first
sought among the columns of its sources; `t.c` names the column `c` of the source called `t`.
A name two sources share is ambiguous, unless a join matches the two columns by name: then the
left one stands for both, the right one for a right join, and the first that is not null for
a full join. Where a select's aliases may be named, a name no source has may name one of them,
in this select or one around it. A name found nowhere fails, unless written in double quotes
(it is then a string) or it is `true` or `false`.

An ordering term that is a bare alias or an integer names a column of the select's list, and so
does a grouping term that is an integer. In a chain of selects, ordering terms name columns of
the result, by number, alias or column name. Aggregates make their select grouped and are
allowed in its column list, group filter and ordering; window functions in its column list and
ordering.

Failures about names stop binding at once. Failures about calls (an unknown function, a wrong
number of arguments, a misused aggregate) let binding go on to the end of the expression, which
then fails with the last of them, where the statement's first failure pointed. Failures only met
when the statement runs are kept, and given once binding ends without a failure of its own.
-/

namespace QueryDoc.Store

namespace Binder

/-- One result column of one select of a chain: its value, its name at the top of a
statement, its name as a subquery column, its alias, and the source column it names. -/
structure ArmColumn where
  expr : Bound.Expr
  name : String
  subName : String
  aliasName : Option String
  origin : Option (String × String)

/-- What a name was found to be, with the names a result column takes from it. -/
structure Named where
  expr : Bound.Expr
  top : Option String
  sub : Option String
  origin : Option (String × String)

/-- Where a name was found among the scopes. -/
inductive Lookup where
  | found (f : Found) (depth : Nat)
  | aliasOf (term : Term) (e : Bound.Expr) (depth : Nat) (aliasName : String)
  | missing

/-- The calls that only carry a hint about how likely their argument is. -/
def likelyNames : List String := ["likely", "unlikely", "likelihood"]

/-- A term under any `collate` and `likely`, with the outermost collation given. -/
def skipWrappers : Nat → Term → Term × Option String
  | 0, t => (t, none)
  | n + 1, t =>
    match t with
    | .collate inner c =>
      let (core, _) := skipWrappers n inner
      (core, some c)
    | .call nm (a :: rest) _ _ _ _ _ none =>
      if likelyNames.contains (foldName nm) && rest.length ≤ 1 then skipWrappers n a else (t, none)
    | _ => (t, none)

/-- How deep terms are looked into; statements are never nested this deep. -/
def termDepth : Nat := 100000

/-- Whether a term is a constant before any name is looked up: literals, parameters, `true`
and `false`, and operators over them; names, calls and subqueries are not. -/
def constantTerm : Nat → Term → Bool
  | 0, _ => false
  | n + 1, t =>
    match t with
    | .literal _ | .param _ => true
    | .column none nm false _ => foldName nm == "true" || foldName nm == "false"
    | .unary _ a | .isNull a _ | .cast a _ | .collate a _ => constantTerm n a
    | .binary _ a b => constantTerm n a && constantTerm n b
    | .between a b c _ => constantTerm n a && constantTerm n b && constantTerm n c
    | .like a b none _ => constantTerm n a && constantTerm n b
    | .like a b (some c) _ => constantTerm n a && constantTerm n b && constantTerm n c
    | .inList a items _ => constantTerm n a && items.all (constantTerm n)
    | .caseOf o bs e =>
      (o.all (constantTerm n)) && bs.all (fun (a, b) => constantTerm n a && constantTerm n b) &&
        e.all (constantTerm n)
    | _ => false

/-- The byte offset of the leftmost name or call of a term, which failures about it point at. -/
def leftOffset : Nat → Term → Nat
  | 0, _ => 0
  | n + 1, t =>
    match t with
    | .column _ _ _ o | .call _ _ _ _ o _ _ _ | .raise _ _ o => o
    | .unary _ a | .isNull a _ | .cast a _ | .collate a _ | .binary _ a _ | .between a _ _ _
    | .like a _ _ _ | .inList a _ _ | .inQuery a _ _ => leftOffset n a
    | .rowValue (a :: _) => leftOffset n a
    | _ => 0

/-- Whether a likelihood is a constant between 0 and 1, as the second argument of
`likelihood` must be. -/
def isProbability : Option Term → Bool
  | some (.literal (.real r)) => 0.0 ≤ r && r ≤ 1.0
  | _ => false

/-- How a comparison sees one operand: its preference, its collation and whether that
collation is explicit. -/
structure Side where
  affinity : Option Affinity
  collation : Option Collation
  explicit : Bool

/-- How a comparison sees an expression. -/
def Side.of (e : Bound.Expr) : Side :=
  ⟨e.affinity, e.collation Bound.collationDepth, e.hasCollate⟩

/-- How two operands are compared: the conversion from their preferences, and the explicit
collation of the left, else of the right, else the collation of the left, else of the
right. -/
def compareSides (l r : Side) : Comparison :=
  let coll := if l.explicit then l.collation else if r.explicit then r.collation
    else l.collation.orElse fun _ => r.collation
  ⟨comparisonAffinity l.affinity r.affinity, coll.getD .binary⟩

/-- The columns of a simple select, as values; the last row of a list of value rows. -/
def coreColumns : Bound.Core → List Bound.Expr
  | .select _ _ _ _ columns _ _ _ _ _ _ _ => columns
  | .values rows => rows.getLastD []

/-- The columns of the last select of a query's chain. -/
def lastColumns : Bound.Query → List Bound.Expr
  | .mk _ first rest _ _ _ _ => coreColumns ((rest.getLast?.map (·.2)).getD first)

/-- How comparisons see the parts of a value: each item of a row of values, each column of
a subquery giving a row, or the value itself. -/
def components : Bound.Expr → List Side
  | .vector items => items.map Side.of
  | .subRow q _ => (lastColumns q).map fun e => ⟨e.affinity, none, false⟩
  | e => [Side.of e]

/-- How many values an expression is. -/
def vectorSize (e : Bound.Expr) : Nat := (components e).length

/-- Records the failure of a collation no one knows, when a comparison or an ordering uses it. -/
def useCollation (c : Collation) : Bind Unit :=
  match c with
  | .missing nm => defer (.coded .missingCollation ("no such collation sequence: " ++ nm))
  | _ => pure ()

/-- Records the failure of a row of values or a subquery of several columns used as one
value. -/
def scalarCheck (e : Bound.Expr) : Bind Unit :=
  match e with
  | .vector _ => defer (Failure.general "row value misused")
  | .subRow _ w => defer (Failure.general ("sub-select returns " ++ toString w ++ " columns - expected 1"))
  | _ => pure ()

mutual

/-- Whether an expression holds a node the test accepts, outside its subqueries. -/
def exprAny (p : Bound.Expr → Bool) : Bound.Expr → Bool
  | e@(.unary _ a) | e@(.truth a _ _) | e@(.isNull a _) | e@(.cast a _) | e@(.collate a _) =>
    p e || exprAny p a
  | e@(.binary _ l r _) | e@(.rowCompare _ l r _) => p e || exprAny p l || exprAny p r
  | e@(.between a lo hi _ _ _) => p e || exprAny p a || exprAny p lo || exprAny p hi
  | e@(.inList a items _ _) => p e || exprAny p a || listAny p items
  | e@(.inQuery es _ _ _) => p e || listAny p es
  | e@(.call _ args _) => p e || listAny p args
  | e@(.vector items) => p e || listAny p items
  | e@(.raise _ m) => p e || optAny p m
  | e@(.caseOf o bs x _) => p e || optAny p o || pairsAny p bs || optAny p x
  | e => p e

/-- Whether one of the expressions holds a node the test accepts. -/
def listAny (p : Bound.Expr → Bool) : List Bound.Expr → Bool
  | [] => false
  | e :: es => exprAny p e || listAny p es

/-- Whether the expression, if there is one, holds a node the test accepts. -/
def optAny (p : Bound.Expr → Bool) : Option Bound.Expr → Bool
  | some e => exprAny p e
  | none => false

/-- Whether one of the pairs holds a node the test accepts. -/
def pairsAny (p : Bound.Expr → Bool) : List (Bound.Expr × Bound.Expr) → Bool
  | [] => false
  | (a, b) :: rest => exprAny p a || exprAny p b || pairsAny p rest

end

/-- Whether a node is an aggregate of its select. -/
def isAggregateNode : Bound.Expr → Bool
  | .aggregate _ _ _ => true
  | _ => false

/-- Whether a node is a window function of its select. -/
def isWindowNode : Bound.Expr → Bool
  | .window _ => true
  | _ => false

/-- Whether an expression holds an aggregate of its own select. -/
def hasAggregate (e : Bound.Expr) : Bool := exprAny isAggregateNode e

/-- Whether an expression holds a window function of its own select. -/
def hasWindow (e : Bound.Expr) : Bool := exprAny isWindowNode e

/-- The collation the first argument that has one carries, as `min`, `max`, `nullif` and
`distinct` compare under. -/
def argsCollation (args : List Bound.Expr) : Collation :=
  (args.findSome? (·.collation Bound.collationDepth)).getD .binary

/-- The collation an aggregate's value carries: that of its first argument with an explicit
`collate`. -/
def aggregateCollation (args : List Bound.Expr) : Option Collation :=
  (Bound.firstWithCollate args).bind (·.collation Bound.collationDepth)

/-- Looks a name up in the scopes, innermost first: among the sources of each, then among
its aliases when unqualified. -/
def searchScopes (env : BindEnv) (table : Option String) (name : String) (offset : Nat)
    (shown : String) : List Scope → Nat → Bind Lookup
  | [], _ => pure .missing
  | s :: rest, depth => do
    match ← findInSources env s.sources table name offset shown with
    | some f => pure (.found f depth)
    | none =>
      match table, s.aliases.find? (fun (a, _, _) => sameName a name) with
      | none, some (a, term, e) => pure (.aliasOf term e depth a)
      | _, _ => searchScopes env table name offset shown rest (depth + 1)

/-- The name of the column a name finds, without recording anything: for a subquery column
named after it. -/
def peekName (scopes : List Scope) (table : Option String) (name : String) (dq : Bool) : Option String :=
  let inScope (s : Scope) : Option String :=
    let candidates := match table with
      | some t => s.sources.filter (fun (v : Visible) => sameName v.name t)
      | none => s.sources.filter (fun (v : Visible) => !v.qualifiedOnly)
    match (matchesIn candidates table name).1 with
    | (v, i) :: _ => (v.columns[i]?).map (·.name)
    | [] => if rowidNames.contains (foldName name) && candidates.any (·.rowid.isSome) then some name else none
  match scopes.findSome? inScope with
  | some n => some n
  | none => if dq && table.isNone then some name else none

/-- Pushes a scope. -/
def enterScope (env : BindEnv) (s : Scope) : BindEnv := { env with scopes := s :: env.scopes }

/-- Brings the common tables of a `with` into view, each seeing all of them; they are bound
when first named. Returns their numbers. -/
def declareCommons (env : BindEnv) (ctes : List CommonTable) : Bind (BindEnv × List Nat) := do
  let ids ← ctes.mapM fun _ => fresh
  let visible := env.ctes.length + ctes.length
  let defs := (ctes.zip ids).map fun (c, id) =>
    let name := match c with
      | .mk nm _ _ => nm
    (⟨name, id, c, env.scopes, visible⟩ : CommonDef)
  pure ({ env with ctes := defs ++ env.ctes }, ids)

/-- The common tables among `ids` that were bound, in the order their binding finished, which
puts each after those it reads. -/
def boundCommons (ids : List Nat) : Bind (List Bound.Common) := do
  pure ((← get).commons.toList.filterMap fun (id, c) => if ids.contains id then some c else none)

/-- How many times a simple select reads a table of a name directly in its `from`. -/
def armReads (name : String) : Core → Nat
  | .select _ _ (some s) _ _ _ _ =>
    let rec inSource : Source → Nat
      | .table none t _ none _ _ => if sameName t name then 1 else 0
      | .join l _ _ r _ _ => inSource l + inSource r
      | _ => 0
    inSource s
  | _ => 0

/-- Puts join conditions into the joins of a source, in the order the joins were read: the
left side's, the right side's, then the join's own. -/
def withConditions : Bound.Source → List (Option Bound.Expr) → Bound.Source × List (Option Bound.Expr)
  | .join l op r _ lw rw, cs =>
    let (l', cs) := withConditions l cs
    let (r', cs) := withConditions r cs
    match cs with
    | c :: rest => (.join l' op r' c lw rw, rest)
    | [] => (.join l' op r' none lw rw, [])
  | s, cs => (s, cs)

/-- Sets the read order of every stored table of a source; the sources' leaves meet the
visible sources in order. -/
def orderSources (catalog : Catalog) (terms : List Bound.Expr) (used : List (Nat × Nat)) :
    Bound.Source → List Visible → Bound.Source × List Visible
  | .table ref order, v :: vs =>
    match v.table with
    | some (_, t) =>
      let indexes := ((catalog.db? ref.schema).map (·.indexesOf t.name)).getD []
      let mine := (used.filter (·.1 == v.id)).map (·.2)
      let chosen := if order.isEmpty then chooseOrder t indexes v terms mine else order
      (.table ref chosen, vs)
    | none => (.table ref order, vs)
  | .join l op r on lw rw, vs =>
    let extra := (on.map conjuncts).getD []
    let (l', vs) := orderSources catalog terms used l vs
    let (r', vs) := orderSources catalog (terms ++ extra) used r vs
    (.join l' op r' on lw rw, vs)
  | .single, vs => (.single, vs)
  | s, _ :: vs => (s, vs)
  | s, [] => (s, [])

/-- A source with every stored table in it read backwards. -/
def readBackwards (catalog : Catalog) : Bound.Source → Bound.Source
  | .table ref order =>
    match (catalog.db? ref.schema).bind (·.table? ref.name) with
    | some t => .table ref (backwards t order)
    | none => .table ref order
  | .join l op r on lw rw => .join (readBackwards catalog l) op (readBackwards catalog r) on lw rw
  | s => s

/-- The order of a table read through a named index. -/
def orderByIndex (t : Table) (i : Index) : List Bound.OrderKey := indexKeys t i

/-- Takes in the named window a window refines: its partitions and ordering, or everything
when the window only names it. -/
def mergeWindow (defs : List (String × WindowSpec)) (spec : WindowSpec) : Except String WindowSpec :=
  match spec with
  | .mk none _ _ _ => pure spec
  | .mk (some b) partition order frame =>
    match defs.find? (fun (nm, _) => sameName nm b) with
    | none => throw ("no such window: " ++ b)
    | some (_, .mk _ p2 o2 f2) =>
      if partition.isEmpty && order.isEmpty && frame.isNone then pure (.mk none p2 o2 f2)
      else if !partition.isEmpty then throw ("cannot override PARTITION clause of window: " ++ b)
      else if !o2.isEmpty && !order.isEmpty then throw ("cannot override ORDER BY clause of window: " ++ b)
      else if f2.isSome then throw ("cannot override frame specification of window: " ++ b)
      else pure (.mk none p2 (if order.isEmpty then o2 else order) frame)

/-- The named windows of a select, each taking in those named before it. -/
def resolveWindowDefs (defs : List (String × WindowSpec)) : Except String (List (String × WindowSpec)) :=
  defs.foldlM (fun acc (nm, spec) => do pure (acc ++ [(nm, ← mergeWindow acc spec)])) []

/-- Fails with a text, at once. -/
def abortWith {α : Type} (env : BindEnv) (message : String) : Bind α := nameFailure env message 0

/-- The value a conjunct sets a slot equal to, when it reads no slot from `base` on. -/
def equalTo (base slot : Nat) : Bound.Expr → Option Bound.Expr
  | .binary .eq (.column 0 s _ _) q _ => if s == slot && !mentionsRange base 1000000000 q then some q else none
  | .binary .eq q (.column 0 s _ _) _ => if s == slot && !mentionsRange base 1000000000 q then some q else none
  | _ => none

/-- A source with each `pragma_` table in it taking, for its hidden columns not given as
arguments, the values the filter sets them equal to: in order, while there are such values,
each reading no source from the table on. The filter keeps the rest. Only tables joined by
inner joins take values; the source's slots start at `base`. -/
def pragmaArguments (filter : Option Bound.Expr) : Nat → Bound.Source → Bound.Source × Option Bound.Expr
  | base, .pragma name args =>
    match Pragma.find? name with
    | some spec =>
      let first := base + spec.shown.length
      let step (acc : List Bound.Expr × List Bound.Expr) (k : Nat) : List Bound.Expr × List Bound.Expr :=
        let (taken, parts) := acc
        if taken.length != k then acc
        else
          match parts.findIdx? (fun e => (equalTo base (first + k) e).isSome) with
          | some i =>
            match parts[i]?.bind (equalTo base (first + k)) with
            | some q => (taken ++ [q], parts.eraseIdx i)
            | none => acc
          | none => acc
      let parts := (filter.map conjuncts).getD []
      let (taken, rest) := (List.range spec.hidden.length).foldl step (args, parts)
      if taken.length == args.length then (.pragma name args, filter)
      else (.pragma name taken, Virtual.joinConjuncts rest)
    | none => (.pragma name args, filter)
  | base, .join l op r on lw rw =>
    if op == .inner || op == .cross then
      let (l', f1) := pragmaArguments filter base l
      let (r', f2) := pragmaArguments f1 (base + lw) r
      (.join l' op r' on lw rw, f2)
    else (.join l op r on lw rw, filter)
  | _, src => (src, filter)

/-- The result information of a chain of selects from the columns of each. -/
def infosOf (arms : List (Bound.Core × List ArmColumn)) : List ResultInfo :=
  let first := (arms.head?.map (·.2)).getD []
  let rows : List (List Bound.Expr) := arms.flatMap fun (c, cols) =>
    match c with
    | .values rs => rs
    | _ => [cols.map (·.expr)]
  first.zipIdx.map fun (col, i) =>
    let parts := rows.map fun r => r[i]?.getD (.const .null)
    let aff := chainAffinity (parts.map fun e => (e.affinity, kindsOf e))
    let last := (parts.getLast?.bind (·.affinity))
    let coll := (parts.head?.bind (·.collation Bound.collationDepth))
    let compound := (parts.findSome? (·.collation Bound.collationDepth)).getD .binary
    ⟨col.name, col.subName, aff, last, coll, compound⟩

/-- Resolves the ordering terms of a chain of selects to column numbers. Integers are
checked against the width first; then each term is matched against the selects from the
first: by alias, then by the column a bare name names. -/
def compoundOrder (env : BindEnv) (arms : List (List ArmColumn)) (infos : List ResultInfo)
    (order : List OrderTerm) (probed : List (Option Nat)) : Bind (List (Nat × Bool × Bool × Collation)) := do
  let width := infos.length
  let terms := order.zipIdx.map fun (.mk t desc nf, pos) =>
    let (inner, coll) := skipWrappers termDepth t
    (inner, coll, desc, nf, pos + 1)
  for (inner, _, _, _, pos) in terms do
    match termInteger? inner with
    | some k =>
      if k < 1 || k > width then
        abortWith env (ordinal pos ++ " ORDER BY term out of range - should be between 1 and " ++
          toString width)
    | none => pure ()
  terms.mapM fun (inner, coll, desc, nf, pos) => do
    let hit : Option Nat := match termInteger? inner with
      | some k => some (k.toNat - 1)
      | none =>
        arms.findSome? fun cols =>
          match inner with
          | .column tbl nm _ _ =>
            let byAlias := if tbl.isNone then cols.findIdx? (fun c => c.aliasName.any (sameName nm)) else none
            byAlias <|> cols.findIdx? fun c =>
              match c.origin with
              | some (src, cn) => sameName cn nm && (tbl.all (sameName src))
              | none => false
          | _ => none
    -- an expression matches the first select whose column list holds it
    let hit := hit <|> (probed[pos - 1]?).join
    match hit with
    | none => abortWith env (ordinal pos ++ " ORDER BY term does not match any column in the result set")
    | some i =>
      let c := match coll with
        | some nm => (Collation.ofName? nm).getD (.missing nm)
        | none => ((infos[i]?).map (·.compoundCollation)).getD .binary
      useCollation c
      pure (i, desc, nf.getD (!desc), c)

/-- The columns of a stored table as names see them. -/
def tableColumns (t : Table) : List VisibleColumn :=
  t.columns.toList.map fun c => ⟨c.name, some c.affinity, some c.collation, false⟩

/-- The rows of the schema table of a database. -/
def schemaRows (db : Database) : Array (Array Datum) :=
  (db.entries.map fun e =>
    #[.text e.kind.name, .text e.name, .text e.table, .integer e.page,
      (e.sql.map Datum.text).getD .null]).toArray

/-- The failure for an ordering or grouping term that names a column the list lacks. -/
def outOfRange (env : BindEnv) (clause : String) (pos width : Nat) : Bind Unit :=
  abortWith env (ordinal pos ++ " " ++ clause ++ " BY term out of range - should be between 1 and " ++
    toString width)

mutual

/-- Binds an expression; `allowAgg` when aggregates may appear. -/
def expr : Nat → BindEnv → Bool → Term → Bind Bound.Expr
  | 0, _, _, _ => tooDeep
  | n + 1, env, allowAgg, t =>
    match t with
    | .literal d => pure (.const d)
    | .param i => pure (.param i)
    | .column table name dq offset => do
      let r ← named n env allowAgg table name dq offset
      pure r.expr
    | .unary op e => do
      let e' ← expr n env allowAgg e
      scalarCheck e'
      pure (.unary op e')
    | .binary op l r => do
      let (rCore, _) := skipWrappers termDepth r
      let l' ← expr n env allowAgg l
      let r' ← expr n env allowAgg r
      let truthWord : Option Bool := match rCore with
        | .column none nm false _ =>
          if foldName nm == "true" then some true else if foldName nm == "false" then some false else none
        | _ => none
      let rIsConst := match r' with
        | .const _ => true
        | .collate (.const _) _ => true
        | _ => false
      match truthWord, (op == .isSame || op == .isNotSame) && rIsConst with
      | some v, true => pure (.truth l' v (op == .isNotSame))
      | _, _ =>
        if op.isComparison then
          let ls := components l'
          let rs := components r'
          if ls.length != rs.length then
            note env "row value misused" (leftOffset termDepth l)
            pure (.const .null)
          else if ls.length > 1 then
            let cmps := (ls.zip rs).map fun (a, b) => compareSides a b
            for c in cmps do useCollation c.collation
            pure (.rowCompare op l' r' cmps)
          else
            let cmp := Bound.compareOf l' r'
            useCollation cmp.collation
            pure (.binary op l' r' cmp)
        else
          scalarCheck l'
          scalarCheck r'
          pure (.binary op l' r' ⟨none, .binary⟩)
    | .isNull e neg => do
      let e' ← expr n env allowAgg e
      scalarCheck e'
      pure (.isNull e' neg)
    | .between e lo hi neg => do
      let e' ← expr n env allowAgg e
      let lo' ← expr n env allowAgg lo
      let hi' ← expr n env allowAgg hi
      let k := vectorSize e'
      if vectorSize lo' != k || vectorSize hi' != k then
        note env "row value misused" (leftOffset termDepth e)
        pure (.const .null)
      else if k > 1 then
        let cmpsOf (x : Bound.Expr) := ((components e').zip (components x)).map fun (a, b) => compareSides a b
        let both : Bound.Expr := .binary .and (.rowCompare .ge e' lo' (cmpsOf lo'))
          (.rowCompare .le e' hi' (cmpsOf hi')) ⟨none, .binary⟩
        pure (if neg then .unary .not both else both)
      else
        let cLo := Bound.compareOf e' lo'
        let cHi := Bound.compareOf e' hi'
        useCollation cLo.collation
        useCollation cHi.collation
        pure (.between e' lo' hi' neg cLo cHi)
    | .inList e items neg => do
      match items with
      | [.scalar q] => expr n env allowAgg (.inQuery e q neg)
      | [single] =>
        let e' ← expr n env allowAgg e
        if vectorSize e' == 1 && constantTerm termDepth single then
          let s' ← expr n env allowAgg single
          scalarCheck s'
          let rhs : Bound.Expr := .unary .plus s'
          let cmp := Bound.compareOf e' rhs
          useCollation cmp.collation
          let eq : Bound.Expr := .binary .eq e' rhs cmp
          pure (if neg then .unary .not eq else eq)
        else inList n env allowAgg e' items neg (leftOffset termDepth e)
      | _ =>
        let e' ← expr n env allowAgg e
        inList n env allowAgg e' items neg (leftOffset termDepth e)
    | .inQuery e q neg => do
      let e' ← expr n env allowAgg e
      let (q', infos) ← query n { env with recursiveSelf := [], lateral := [] } q
      let ls := components e'
      if infos.length != ls.length then
        defer (Failure.general ("sub-select returns " ++ toString infos.length ++ " columns - expected " ++
          toString ls.length))
      let rs := (lastColumns q').map Side.of
      let cmps := (ls.zip rs).map fun (a, b) => compareSides a b
      for c in cmps do useCollation c.collation
      let es := match e' with
        | .vector items => items
        | other => [other]
      pure (.inQuery es q' neg cmps)
    | .exists q => do
      let (q', _) ← query n { env with recursiveSelf := [] } q
      pure (.exists q')
    | .scalar q => do
      let (q', infos) ← query n { env with recursiveSelf := [], lateral := [] } q
      if infos.length == 1 then
        pure (.scalar q' ((lastColumns q').head?.bind (·.affinity)))
      else pure (.subRow q' infos.length)
    | .like e p esc neg => do
      let e' ← expr n env allowAgg e
      let p' ← expr n env allowAgg p
      let esc' ← optExpr n env allowAgg esc
      scalarCheck e'
      scalarCheck p'
      let c : Bound.Expr := .call .like ([p', e'] ++ esc'.toList) .binary
      pure (if neg then .unary .not c else c)
    | .call name args distinct star offset order filter window =>
      call n env allowAgg name args distinct star offset order filter window
    | .cast e ty => do
      let e' ← expr n env allowAgg e
      scalarCheck e'
      pure (.cast e' (Affinity.ofType (some ty)))
    | .caseOf operand branches otherwise => do
      let operand' ← optExpr n env allowAgg operand
      let branches' ← pairs n env allowAgg branches
      let otherwise' ← optExpr n env allowAgg otherwise
      let cmps := match operand' with
        | some o => branches'.map fun (w, _) => Bound.compareOf o w
        | none => []
      for c in cmps do useCollation c.collation
      pure (.caseOf operand' branches' otherwise' cmps)
    | .collate e c => do
      let e' ← expr n env allowAgg e
      pure (.collate e' ((Collation.ofName? c).getD (.missing c)))
    | .rowValue items => do
      let items' ← exprs n env allowAgg items
      pure (.vector items')
    | .raise action msg _ => do
      if !env.inTrigger then defer (Failure.general "RAISE() may only be used within a trigger-program")
      let msg' ← optExpr n env allowAgg msg
      pure (.raise action msg')
    | .currentTime kind =>
      pure (.call (if kind == "date" then .date else if kind == "time" then .time else .datetime) [] .binary)
termination_by structural fuel => fuel

/-- Binds `e in (items)` once `e` is bound. -/
def inList : Nat → BindEnv → Bool → Bound.Expr → List Term → Bool → Nat → Bind Bound.Expr
  | 0, _, _, _, _, _, _ => tooDeep
  | n + 1, env, allowAgg, e', items, neg, offset => do
    let k := vectorSize e'
    if k > 1 then
      match items.find? (fun it => match it with
          | .rowValue xs => xs.length != k
          | _ => true) with
      | some bad =>
        let m := match bad with
          | .rowValue xs => xs.length
          | _ => 1
        abortWith env ("IN(...) element has " ++ toString m ++ (if m > 1 then " terms" else " term") ++
          " - expected " ++ toString k)
      | none => pure ()
      let items' ← exprs n env allowAgg items
      let last := (items'.getLast?.map components).getD []
      let cmps := ((components e').zip last).map fun (a, b) => compareSides a b
      for c in cmps do useCollation c.collation
      pure (.inList e' items' neg cmps)
    else
      let items' ← exprs n env allowAgg items
      if items'.any (vectorSize · != 1) then
        note env "row value misused" offset
      let cmp : Comparison := ⟨e'.affinity, e'.collationOrBinary⟩
      useCollation cmp.collation
      pure (.inList e' items' neg [cmp])
termination_by structural fuel => fuel

/-- Binds a list of expressions. -/
def exprs : Nat → BindEnv → Bool → List Term → Bind (List Bound.Expr)
  | 0, _, _, _ => tooDeep
  | _ + 1, _, _, [] => pure []
  | n + 1, env, allowAgg, t :: ts => do
    let e ← expr n env allowAgg t
    let es ← exprs n env allowAgg ts
    pure (e :: es)
termination_by structural fuel => fuel

/-- Binds the branches of a `case`. -/
def pairs : Nat → BindEnv → Bool → List (Term × Term) → Bind (List (Bound.Expr × Bound.Expr))
  | 0, _, _, _ => tooDeep
  | _ + 1, _, _, [] => pure []
  | n + 1, env, allowAgg, (a, b) :: rest => do
    let a' ← expr n env allowAgg a
    let b' ← expr n env allowAgg b
    let rest' ← pairs n env allowAgg rest
    pure ((a', b') :: rest')
termination_by structural fuel => fuel

/-- Binds an optional expression. -/
def optExpr : Nat → BindEnv → Bool → Option Term → Bind (Option Bound.Expr)
  | 0, _, _, _ => tooDeep
  | _ + 1, _, _, none => pure none
  | n + 1, env, allowAgg, some t => some <$> expr n env allowAgg t
termination_by structural fuel => fuel

/-- Binds an optional expression that stands on its own, ending it. -/
def optTop : Nat → BindEnv → Bool → Option Term → Bind (Option Bound.Expr)
  | 0, _, _, _ => tooDeep
  | n + 1, env, allowAgg, t => do
    let e ← optExpr n env allowAgg t
    settle env
    pure e
termination_by structural fuel => fuel

/-- Looks up a name: its value and the names a result column takes from it. -/
def named : Nat → BindEnv → Bool → Option String → String → Bool → Nat → Bind Named
  | 0, _, _, _, _, _, _ => tooDeep
  | n + 1, env, allowAgg, table, name, dq, offset => do
    let shown := match table with
      | some t => t ++ "." ++ name
      | none => name
    match ← searchScopes env table name offset shown env.scopes 0 with
    | .found f depth =>
      let cols := f.slots.map fun s => Bound.Expr.column depth s f.affinity f.collation
      let e := match cols with
        | [c] => c
        | _ => .call .coalesce cols .binary
      if f.isRowid then pure ⟨e, some f.name, some name, none⟩
      else pure ⟨e, some f.name, some f.name, some (f.source, f.name)⟩
    | .aliasOf term e depth a =>
      if !allowAgg && hasAggregate e then abortWith env ("misuse of aliased aggregate " ++ a)
      else if hasWindow e && (!env.allowWindows || depth > 0) then
        abortWith env ("misuse of aliased window function " ++ a)
      else if vectorSize e != 1 then abortWith env "row value misused"
      else if depth == 0 then pure ⟨e, none, none, none⟩
      else
        let placeholders : List Scope := List.replicate depth ⟨[], []⟩
        let e' ← expr n { env with scopes := placeholders ++ env.scopes.drop depth } allowAgg term
        pure ⟨e', none, none, none⟩
    | .missing =>
      if dq && table.isNone then pure ⟨.const (.text name), none, some name, none⟩
      else if !dq && table.isNone && foldName name == "true" then pure ⟨.const (.integer 1), none, none, none⟩
      else if !dq && table.isNone && foldName name == "false" then pure ⟨.const (.integer 0), none, none, none⟩
      else nameFailure env ("no such column: " ++ shown) offset
termination_by structural fuel => fuel

/-- Binds a call: of a scalar function, of an aggregate, or of a function over a window. -/
def call : Nat → BindEnv → Bool → String → List Term → Bool → Bool → Nat → List OrderTerm →
    Option Term → Option WindowSpec → Bind Bound.Expr
  | 0, _, _, _, _, _, _, _, _, _, _ => tooDeep
  | n + 1, env, allowAgg, name, args, distinct, star, offset, order, filter, window => do
    let count := if star then 0 else args.length
    let kind := lookupFunction name count
    let isWin := window.isSome
    let aggName := AggregateFn.table.any (fun (nm, _) => sameName nm name)
    let winName := WindowFn.table.any (fun (nm, _, _) => sameName nm name)
    match kind with
    | .scalar .likelihood =>
      if !isProbability (args[1]?) then
        note env "second argument to likelihood() must be a constant between 0.0 and 1.0" offset
    | _ => pure ()
    let isAgg := match kind with
      | .aggregate _ | .window _ => true
      | _ => false
    let windowOnly := match kind with
      | .window _ => true
      | _ => false
    let scalarDef := match kind with
      | .scalar _ => true
      | .wrongCount => !aggName && !winName
      | _ => false
    let mut aggOk := isAgg
    if scalarDef && isWin then
      note env (name ++ "() may not be used as a window function") offset
    else if (isAgg && !allowAgg) || (windowOnly && !isWin) || (isAgg && isWin && !env.allowWindows) then
      note env ("misuse of " ++ (if windowOnly || isWin then "window" else "aggregate") ++ " function " ++
        name ++ "()") offset
      aggOk := false
    else match kind with
      | .unknown => note env ("no such function: " ++ name) offset
      | .wrongCount => note env ("wrong number of arguments to function " ++ name ++ "()") offset
      | _ =>
        if !isAgg && filter.isSome then
          note env ("FILTER may not be used with non-aggregate " ++ name ++ "()") offset
        else if !isAgg && !order.isEmpty then
          note env ("ORDER BY may not be used with non-aggregate " ++ name ++ "()") offset
    let argAllow := if aggOk && !isWin then false else allowAgg
    let argEnv := if aggOk then { env with allowWindows := false } else env
    let args' ← exprs n argEnv argAllow args
    for a in args' do scalarCheck a
    if !aggOk then
      match kind with
      | .scalar f => pure (.call f args' (argsCollation args'))
      | _ => pure (.const .null)
    else
      let orderKeys' ← orderKeys n argEnv argAllow order
      if isWin then
        if distinct then note env "DISTINCT is not supported for window functions" offset
        let spec := window.getD (.mk none [] [] none)
        match mergeWindow env.windowDefs spec with
        | .error m =>
          note env m 0
          pure (.const .null)
        | .ok (.mk _ partition worder frame) =>
          if windowOnly && filter.isSome then
            note env "FILTER clause may only be used with aggregate window functions" 0
          let callee : Bound.WindowCall := match kind with
            | .aggregate f => .aggregate (.mk f args' false none orderKeys' (argsCollation args'))
            | .window f => .special f args'
            | _ => .special .rowNumber args'
          let partition' ← exprs n argEnv argAllow partition
          let worder' ← orderKeys n argEnv argAllow worder
          let filter' ← optExpr n argEnv argAllow filter
          let (unit, start, finish, exclude) ← match frame with
            | some (.mk u s f x) => do
              let s' ← frameEdge n argEnv s
              let f' ← frameEdge n argEnv f
              pure (u, s', f', x)
            | none => pure (FrameUnit.range, Bound.FrameEdge.unboundedPreceding, Bound.FrameEdge.currentRow,
                FrameExclude.noOthers)
          let hasOffset := match start, finish with
            | .preceding _, _ | .following _, _ | _, .preceding _ | _, .following _ => true
            | _, _ => false
          if unit == .range && hasOffset && worder'.length != 1 then
            note env "RANGE with offset PRECEDING/FOLLOWING requires one ORDER BY expression" 0
          for p in partition' do useCollation p.collationOrBinary
          let w : Bound.Window := .mk callee (partition'.map fun p => (p, p.collationOrBinary)) worder' unit
            start finish exclude filter'
          let s ← get
          set { s with windows := s.windows.push w }
          pure (.window s.windows.size)
      else
        let filter' ← optExpr n argEnv argAllow filter
        let f := match kind with
          | .aggregate f => f
          | _ => .countAll
        if distinct && args'.length != 1 then
          defer (Failure.general "DISTINCT aggregates must have exactly one argument")
        if env.aggMisuse then defer (located env ("misuse of aggregate: " ++ name ++ "()") offset)
        let coll := argsCollation args'
        if distinct then useCollation coll
        let s ← get
        set { s with aggregates := s.aggregates.push (.mk f args' distinct filter' orderKeys' coll) }
        let explicit := Bound.anyHasCollate args'
        pure (.aggregate s.aggregates.size explicit (aggregateCollation args'))
termination_by structural fuel => fuel

/-- Binds the ordering of an aggregate or a window. -/
def orderKeys : Nat → BindEnv → Bool → List OrderTerm → Bind (List Bound.OrderKey)
  | 0, _, _, _ => tooDeep
  | _ + 1, _, _, [] => pure []
  | n + 1, env, allowAgg, .mk t desc nf :: rest => do
    let e ← expr n env allowAgg t
    let c := e.collationOrBinary
    useCollation c
    let more ← orderKeys n env allowAgg rest
    pure (.mk e desc (nf.getD (!desc)) c :: more)
termination_by structural fuel => fuel

/-- Binds one end of a window frame. -/
def frameEdge : Nat → BindEnv → FrameBound → Bind Bound.FrameEdge
  | 0, _, _ => tooDeep
  | n + 1, env, b =>
    match b with
    | .unboundedPreceding => pure .unboundedPreceding
    | .currentRow => pure .currentRow
    | .unboundedFollowing => pure .unboundedFollowing
    | .preceding t => do pure (.preceding (← expr n { env with scopes := [] } false t))
    | .following t => do pure (.following (← expr n { env with scopes := [] } false t))
termination_by structural fuel => fuel

/-- Binds a full query: its common tables, its chain of selects, ordering, limit and offset.
Returns the query and what its result columns are. -/
def query : Nat → BindEnv → Query → Bind (Bound.Query × List ResultInfo)
  | 0, _, _ => tooDeep
  | n + 1, env, .mk _ ctes first rest order limit offset => do
    let (env, ids) ← declareCommons env ctes
    let env := { env with recursiveSelf := [] }
    let noNames := { env with scopes := [], allowWindows := false }
    let limit' ← optTop n noNames false limit
    let offset' ← optTop n noNames false offset
    let isValues := match first with
      | .values _ => true
      | _ => false
    if rest.isEmpty && !isValues then
      let (core', cols, keys) ← core n env first order
      let ordering := if order.isEmpty then Bound.OrderBy.none
        else .byKeys (keys.map fun (.mk _ d nf c) => (d, nf, c))
      let commons ← boundCommons ids
      let infos := infosOf [(core', cols)]
      pure (Bound.Query.mk commons core' [] (infos.map (·.compoundCollation)) ordering limit' offset', infos)
    else
      let all := (none, first) :: rest.map fun (op, c) => (some op, c)
      let bound ← arms n env all.reverse none []
      let infos := infosOf bound
      let probed ← order.mapM fun (.mk t _ _) => probeArms n env (all.map (·.2)) t
      let orderCols ← compoundOrder env (bound.map (·.2)) infos order probed
      let ordering := if order.isEmpty then Bound.OrderBy.none else .byColumns orderCols
      let commons ← boundCommons ids
      match bound with
      | (first', _) :: more =>
        let restCores := (rest.zip more).map fun ((op, _), (c, _)) => (op, c)
        pure (Bound.Query.mk commons first' restCores (infos.map (·.compoundCollation)) ordering limit' offset',
          infos)
      | [] => abortWith env "no select"
termination_by structural fuel => fuel

/-- The column of the first select of a chain whose column list holds an ordering term that
is an expression (not a number or a bare name), the term's names looked up among that
select's sources; a select where they are not found is passed over. Nothing the looking up
does is kept. -/
def probeArms : Nat → BindEnv → List Core → Term → Bind (Option Nat)
  | 0, _, _, _ => pure none
  | _ + 1, _, [], _ => pure none
  | n + 1, env, c :: cs, t => do
    let inner := (skipWrappers termDepth t).1
    let plain := match inner with
      | .column _ _ _ _ => true
      | .literal (.integer _) => true
      | _ => false
    if plain then pure none
    else
      let saved ← get
      let found ← tryCatch (probeColumn n env c inner) (fun _ => pure none)
      set saved
      match found with
      | some i => pure (some i)
      | none => probeArms n env cs t
termination_by structural fuel => fuel

/-- The column of a select whose expression is that of a term, bound among the select's
sources, a collation on the column aside. -/
def probeColumn : Nat → BindEnv → Core → Term → Bind (Option Nat)
  | 0, _, _, _ => pure none
  | _ + 1, _, .values _, _ => pure none
  | n + 1, env, .select _ cols source _ _ _ _, t => do
    let (_, visibles, _, _) ← match source with
      | some s => from_ n env s 0
      | none => pure (Bound.Source.single, [], 0, [])
    let selectEnv := enterScope { env with aggMisuse := false, allowWindows := false } ⟨visibles, []⟩
    let (columns, _) ← resultList n selectEnv visibles cols [] []
    let e ← expr n selectEnv true t
    let bare (x : Bound.Expr) : Bound.Expr := match x with
      | .collate y _ => y
      | y => y
    pure (columns.findIdx? fun c => Bound.Expr.alike termDepth (bare c) e)
termination_by structural fuel => fuel

/-- Binds the selects of a chain from the last to the first, checking each against the one
to its right; returns them in order with their columns. -/
def arms : Nat → BindEnv → List (Option CompoundOp × Core) → Option (CompoundOp × Nat) →
    List (Bound.Core × List ArmColumn) → Bind (List (Bound.Core × List ArmColumn))
  | 0, _, _, _, _ => tooDeep
  | _ + 1, _, [], _, acc => pure acc
  | n + 1, env, (op, c) :: more, right, acc => do
    let (c', cols, _) ← core n env c []
    match right with
    | some (rop, w) =>
      if cols.length != w then
        match c with
        | .values _ => abortWith env "all VALUES must have the same number of terms"
        | _ => abortWith env ("SELECTs to the left and right of " ++ rop.name ++
            " do not have the same number of result columns")
    | none => pure ()
    arms n env more (op.map (·, cols.length)) ((c', cols) :: acc)
termination_by structural fuel => fuel

/-- The columns of a common table, binding its body when this is the first time it is named.
The body is bound where the table is defined. A chain whose last joint is `union` or
`union all` is recursive when the selects at its end, joined by that same operator, read
the table in their `from`: the selects before them are the seed, they are the steps. Any
other reading of the table in its own body is a failure. -/
def common : Nat → BindEnv → CommonDef → Bind (List VisibleColumn)
  | 0, _, _ => tooDeep
  | n + 1, env, d => do
    let st ← get
    if st.expanding.contains d.id then abortWith env ("circular reference: " ++ d.name)
    let known : Option (List VisibleColumn) :=
      if st.stepping.contains d.id then some ((st.commonColumns.lookup d.id).getD [])
      else st.commonColumns.lookup d.id
    if st.stepping.contains d.id && !env.recursiveSelf.contains d.id then
      abortWith env ("multiple recursive references: " ++ d.name)
    match known with
    | some cols => pure cols
    | none =>
      let defEnv := { env with
        scopes := d.scopes, ctes := env.ctes.drop (env.ctes.length - d.visible),
        recursiveSelf := [] }
      let .mk name cols q := d.body
      let .mk _ innerCtes first chain qOrder qLimit qOffset := q
      let lastOp := chain.getLast?.map (·.1)
      let mayRecurse := lastOp == some .union || lastOp == some .unionAll
      let stepCount := if mayRecurse then
          (chain.reverse.takeWhile (fun (op, c) => some op == lastOp && armReads name c > 0)).length
        else 0
      let checkCount (width : Nat) : Bind Unit :=
        if !cols.isEmpty && cols.length != width then
          abortWith env ("table " ++ name ++ " has " ++ toString width ++ " values for " ++
            toString cols.length ++ " columns")
        else pure ()
      let record (columns : List VisibleColumn) : Bind Unit :=
        modify fun s => { s with commonColumns := (d.id, columns) :: s.commonColumns.filter (·.1 != d.id) }
      let visibleOf (names : List String) (infos : List ResultInfo) : List VisibleColumn :=
        (names.zip infos).map fun (nm, i) => ⟨nm, i.affinity, some (i.collation.getD .binary), false⟩
      modify fun s => { s with expanding := d.id :: s.expanding }
      let c ←
        if stepCount == 0 then do
          let (q', infos) ← query n defEnv q
          checkCount infos.length
          for i in infos do useCollation (i.collation.getD .binary)
          let names := uniqueNames (if cols.isEmpty then infos.map (·.subName) else cols)
          record (visibleOf names infos)
          pure (Bound.Common.plain d.id q')
        else do
          let seedChain := chain.take (chain.length - stepCount)
          let steps := chain.drop (chain.length - stepCount)
          for (_, sc) in steps do
            if armReads name sc > 1 then abortWith env ("multiple references to recursive table: " ++ name)
          let seed := Query.mk false innerCtes first seedChain [] none none
          let (seed', seedInfos) ← query n defEnv seed
          checkCount seedInfos.length
          let names := uniqueNames (if cols.isEmpty then seedInfos.map (·.subName) else cols)
          record (names.map fun nm => ⟨nm, none, some .binary, false⟩)
          modify fun s => { s with expanding := s.expanding.filter (· != d.id), stepping := d.id :: s.stepping }
          let (stepEnv, _) ← declareCommons defEnv innerCtes
          let stepCores ← stepList n { stepEnv with recursiveSelf := [d.id] } seedInfos.length steps []
          modify fun s => { s with stepping := s.stepping.filter (· != d.id), expanding := d.id :: s.expanding }
          if stepCores.any (fun (sc, _) => match sc with
              | .select _ _ gb _ _ aggs _ _ _ _ _ _ => !gb.isEmpty || !aggs.isEmpty
              | _ => false) then
            defer (Failure.general "recursive aggregate queries not supported")
          let seedArms : List (Bound.Core × List ArmColumn) := match seed' with
            | .mk _ sf sr _ _ _ _ => (sf :: sr.map (·.2)).map fun sc =>
              (sc, (coreColumns sc).map fun e => (⟨e, "", "", none, none⟩ : ArmColumn))
          let allArms := seedArms ++ stepCores
          let infos := (infosOf allArms).zipIdx.map fun (i, k) =>
            { i with name := (names[k]?).getD i.name, subName := (names[k]?).getD i.subName,
                     collation := (seedInfos[k]?).bind (·.collation) }
          record (visibleOf names infos)
          let orderCols ← compoundOrder env (allArms.map (·.2)) infos qOrder []
          let noNames := { defEnv with scopes := [], allowWindows := false }
          let limit' ← optTop n noNames false qLimit
          let offset' ← optTop n noNames false qOffset
          let distinct := if lastOp == some .union then some (infos.map (·.compoundCollation)) else none
          let orderKeys := orderCols.map fun (i, desc, nf, c) =>
            Bound.OrderKey.mk (.column 0 i none (some c)) desc nf c
          pure (Bound.Common.recursive d.id seed' (stepCores.map (·.1)) distinct orderKeys limit' offset')
      modify fun s => { s with
        commons := s.commons.push (d.id, c),
        expanding := s.expanding.filter (· != d.id) }
      pure (((← get).commonColumns.lookup d.id).getD [])
termination_by structural fuel => fuel

/-- Binds the recursive steps of a common table, each as wide as its seed. -/
def stepList : Nat → BindEnv → Nat → List (CompoundOp × Core) → List (Bound.Core × List ArmColumn) →
    Bind (List (Bound.Core × List ArmColumn))
  | 0, _, _, _, _ => tooDeep
  | _ + 1, _, _, [], acc => pure acc.reverse
  | n + 1, env, width, (op, c) :: cs, acc => do
    let (c', cols, _) ← core n env c []
    if cols.length != width then
      abortWith env ("SELECTs to the left and right of " ++ op.name ++
        " do not have the same number of result columns")
    stepList n env width cs ((c', cols) :: acc)
termination_by structural fuel => fuel

/-- The indexes of a stored table as the planner sees them, their expressions and conditions
bound over the select's row, with what `analyze` measured of them and the table's estimated
rows; an expression that no longer binds is left out. -/
def indexViewsOf : Nat → BindEnv → Visible → Table → Statistics → Int → List Index → Bind (List Planner.IndexView)
  | 0, _, _, _, _, _, _ => tooDeep
  | _ + 1, _, _, _, _, _, [] => pure []
  | n + 1, env, v, t, st, est, i :: rest => do
    let tenv := enterScope { env with allowWindows := false, aggMisuse := false } ⟨[v], []⟩
    let bindOne (term : Term) : Bind (Option Bound.Expr) :=
      tryCatch (do
        let e ← expr n tenv false term
        pure (some (match e with
          | .collate x _ => x
          | x => x))) (fun _ => pure none)
    let exprs ← i.parts.mapM fun p => match p.source with
      | .expr term => bindOne term
      | _ => pure none
    let filter ← match i.filter with
      | some f => bindOne f
      | none => pure none
    let views ← indexViewsOf n env v t st est rest
    pure (Planner.indexView t i exprs filter (st.indexes.lookup (foldName i.name)) est :: views)
termination_by structural fuel => fuel

/-- Binds a simple select with the ordering terms that belong to it. Returns the select, its
columns and its ordering keys. -/
def core : Nat → BindEnv → Core → List OrderTerm → Bind (Bound.Core × List ArmColumn × List Bound.OrderKey)
  | 0, _, _, _ => tooDeep
  | n + 1, env, .values rows, _ => do
    let width := (rows.headD []).length
    if rows.any (·.length != width) then abortWith env "all VALUES must have the same number of terms"
    let rows' ← valueRows n { env with allowWindows := false } rows []
    let firstRow := rows'.headD []
    let cols := firstRow.zipIdx.map fun (e, i) =>
      let nm := "column" ++ toString (i + 1)
      (⟨e, nm, nm, none, none⟩ : ArmColumn)
    pure (Bound.Core.values rows', cols, [])
  | n + 1, env, .select distinct cols source filter groupBy having windowDefs, order => do
    let saved := ((← get).aggregates, (← get).windows)
    modify fun s => { s with aggregates := #[], windows := #[] }
    let recursiveSelf := env.recursiveSelf
    let env := { env with recursiveSelf := [] }
    let (source', visibles, width, pending) ← match source with
      | some s => from_ n { env with recursiveSelf := recursiveSelf } s 0
      | none => pure (Bound.Source.single, [], 0, [])
    for item in cols do
      match item with
      | .all =>
        if visibles.isEmpty then abortWith env "no tables specified"
      | .allOf t _ =>
        if !visibles.any (fun v => sameName v.name t) then abortWith env ("no such table: " ++ t)
      | _ => pure ()
    let defs ← match resolveWindowDefs windowDefs with
      | .ok ds => pure ds
      | .error m => abortWith env m
    let before ← takeDeferred
    let scope : Scope := ⟨visibles, []⟩
    let selectEnv := { env with aggMisuse := false, allowWindows := true, windowDefs := defs }
    let (columns, armCols) ← resultList n (enterScope selectEnv scope) visibles cols [] []
    let resultFailure ← takeDeferred
    let grouped := !groupBy.isEmpty || !(← get).aggregates.isEmpty
    let aliasExprs := ((cols.filterMap fun
      | .term t a _ => some (a.map (·, t))
      | _ => some none).zip columns).filterMap fun (a, e) => a.map fun (nm, t) => (nm, t, e)
    let scope' : Scope := ⟨visibles, aliasExprs⟩
    let withAliases := enterScope { selectEnv with allowWindows := false } scope'
    if having.isSome && !grouped then abortWith env "HAVING clause on a non-aggregate query"
    let having' ← optTop n withAliases true having
    let havingFailure ← takeDeferred
    let filterEnv := { withAliases with aggMisuse := true }
    let filter' ← optExpr n filterEnv grouped filter
    let conditions ← joinConditions n { filterEnv with noOffsets := true } grouped pending []
    settle env
    let source' := (withConditions source' conditions).1
    let (source', filter') := Virtual.answerSearches visibles filter' 0 source'
    let (source', filter') := pragmaArguments filter' 0 source'
    let auxes := Virtual.auxSources visibles 0 source'
    let columns := columns.map (Virtual.withAuxiliaries auxes)
    let filter' := filter'.map (Virtual.withAuxiliaries auxes)
    let having' := having'.map (Virtual.withAuxiliaries auxes)
    let filterFailure ← takeDeferred
    let ownEnv := { withAliases with scopes := [scope'], allowWindows := true }
    let keys ← orderTerms n { ownEnv with aggMisuse := !grouped } columns cols order 1 [] []
    let keys := keys.map fun (.mk e d nf c) => Bound.OrderKey.mk (Virtual.withAuxiliaries auxes e) d nf c
    let orderFailure ← takeDeferred
    let groupBy' ← groupTerms n { ownEnv with allowWindows := false } columns groupBy 1 [] []
    if groupBy'.any (fun (e, _) => hasAggregate e) then
      abortWith env "aggregate functions are not allowed in the GROUP BY clause"
    let groupFailure ← takeDeferred
    let failure := lastFailure [before, filterFailure, groupFailure, havingFailure, resultFailure, orderFailure]
    modify fun s => { s with deferred := failure }
    let aggs := (← get).aggregates
    let wins := (← get).windows
    modify fun s => { s with aggregates := saved.1, windows := saved.2 }
    let grouped := !groupBy'.isEmpty || !aggs.isEmpty
    let terms := (filter'.map conjuncts).getD []
    let (ordered, _) := orderSources env.catalog terms (← get).used source' visibles
    let groupExprs := groupBy'.map (·.1)
    let planned ← match Planner.storedChain source' with
      | some chain =>
        if !wins.isEmpty || chain.length != visibles.length then pure none
        else do
          let saved ← get
          let sources ← (chain.zip visibles).mapM fun ((ref, on), v) => do
            match v.table with
            | some (_, t) =>
              if t.withoutRowid then pure none
              else
                let indexes := ((env.catalog.db? ref.schema).map (·.indexesOf t.name)).getD []
                let st := ((env.catalog.db? ref.schema).map (·.statistics)).getD {}
                let est := Planner.tableEstimate st t indexes
                let views ← indexViewsOf n env v t st est indexes
                pure (some ((v, ref, t, views, on), (est, st.sampled.contains (foldName t.name))))
            | none => pure none
          set saved
          if sources.any (·.isNone) then pure none
          else
            let sources := sources.filterMap id
            pure (Planner.planSelect
              { sources := sources.map (·.1), measures := sources.map (·.2),
                filter := filter', columns := columns, keys := keys,
                groupBy := groupBy', distinct := distinct, aggregated := grouped, aggregates := aggs.toList,
                having := having', used := saved.used, forced := saved.forced,
                caseSensitive := env.catalog.settings.caseSensitiveLike,
                reverseUnordered := env.catalog.settings.has .reverseUnorderedSelects })
      | none => pure none
    let (source'', scanGrouped) := match planned with
      | some (src, n) => (src, n == groupBy'.length)
      | none =>
        let scanGrouped := match ordered, visibles with
          | .table _ order, [v] =>
            match v.table with
            | some (_, t) => groupedByScan t v order terms groupExprs
            | none => false
          | _, _ => false
        let reverse := env.catalog.settings.has .reverseUnorderedSelects && keys.isEmpty &&
          groupBy'.isEmpty && !distinct
        (if reverse then readBackwards env.catalog ordered else ordered, scanGrouped)
    let distinctColls := if distinct then some (columns.map (·.collationOrBinary)) else none
    match distinctColls with
    | some cs => for c in cs do useCollation c
    | none => pure ()
    pure (Bound.Core.select source'' filter' groupBy' having' columns aggs.toList wins.toList grouped scanGrouped
      distinctColls (keys.map fun (.mk e _ _ _) => e) width, armCols, keys)
termination_by structural fuel => fuel

/-- Binds rows of values. -/
def valueRows : Nat → BindEnv → List (List Term) → List (List Bound.Expr) → Bind (List (List Bound.Expr))
  | 0, _, _, _ => tooDeep
  | _ + 1, _, [], acc => pure acc.reverse
  | n + 1, env, r :: rs, acc => do
    let r' ← exprs n env false r
    settle env
    for e in r' do scalarCheck e
    valueRows n env rs (r' :: acc)
termination_by structural fuel => fuel

/-- Binds a column list, expanding stars. Returns the expressions and the columns. -/
def resultList : Nat → BindEnv → List Visible → List ResultColumn → List Bound.Expr → List ArmColumn →
    Bind (List Bound.Expr × List ArmColumn)
  | 0, _, _, _, _, _ => tooDeep
  | _ + 1, _, _, [], es, cs => pure (es.reverse, cs.reverse)
  | n + 1, env, visibles, item :: items, es, cs => do
    match item with
    | .all => do
      let shown := visibles.filter (!·.qualifiedOnly)
      let (es', cs') ← starColumns n env shown (shown.zipIdx.flatMap fun (v, vi) =>
        v.columns.zipIdx.map fun (c, ci) => (v, vi, c, ci)) es cs
      resultList n env visibles items es' cs'
    | .allOf t _ =>
      match visibles.find? (fun v => sameName v.name t) with
      | some v =>
        let mut es := es
        let mut cs := cs
        for (c, ci) in v.columns.zipIdx do
          if !c.hidden then
            markUsed v.id ci
            let e := Bound.Expr.column 0 (v.offset + ci) c.affinity c.collation
            es := e :: es
            cs := ⟨e, c.name, c.name, none, some (v.name, c.name)⟩ :: cs
        resultList n env visibles items es cs
      | none => abortWith env ("no such table: " ++ t)
    | .term t aliasName span => do
      let nm ← match t with
        | .column table name dq offset => named n env true table name dq offset
        | other => do
          let e ← expr n env true other
          let sub := match (skipWrappers termDepth other).1 with
            | .column tbl nm dq _ => peekName env.scopes tbl nm dq
            | _ => none
          pure ⟨e, none, sub, none⟩
      settle env
      scalarCheck nm.expr
      let col : ArmColumn := ⟨nm.expr, aliasName.getD (nm.top.getD span), aliasName.getD (nm.sub.getD span),
        aliasName, nm.origin⟩
      resultList n env visibles items (nm.expr :: es) (col :: cs)
termination_by structural fuel => fuel

/-- The columns `*` stands for: every column of every source, but a column that a join
matches by name only once, on its left side unless a later right or full join takes it. -/
def starColumns : Nat → BindEnv → List Visible → List (Visible × Nat × VisibleColumn × Nat) →
    List Bound.Expr → List ArmColumn → Bind (List Bound.Expr × List ArmColumn)
  | 0, _, _, _, _, _ => tooDeep
  | _ + 1, _, _, [], es, cs => pure (es, cs)
  | n + 1, env, shown, (v, vi, c, ci) :: more, es, cs => do
    let onRight := vi > 0 && v.matchedNames.any (sameName · c.name)
    if onRight || c.hidden then starColumns n env shown more es cs
    else
      let later := (shown.drop (vi + 1)).any fun w =>
        w.matchedNames.any (sameName · c.name) && (w.joinOp == .right || w.joinOp == .full)
      let e ← if later then do pure (← named n env true none c.name false 0).expr
        else do
          markUsed v.id ci
          pure (Bound.Expr.column 0 (v.offset + ci) c.affinity c.collation)
      starColumns n env shown more (e :: es) (⟨e, c.name, c.name, none, some (v.name, c.name)⟩ :: cs)
termination_by structural fuel => fuel

/-- Binds grouping terms; an integer names a column of the list. An integer below 1 or above
65535 fails at once, one past the list once all terms are bound. -/
def groupTerms : Nat → BindEnv → List Bound.Expr → List Term → Nat → List (Nat × Int) →
    List (Bound.Expr × Collation) → Bind (List (Bound.Expr × Collation))
  | 0, _, _, _, _, _, _ => tooDeep
  | _ + 1, env, columns, [], _, numbers, acc => do
    for (pos, k) in numbers.reverse do
      if k.toNat > columns.length then outOfRange env "GROUP" pos columns.length
    pure acc.reverse
  | n + 1, env, columns, t :: ts, pos, numbers, acc => do
    let (inner, coll) := skipWrappers termDepth t
    match termInteger? inner with
    | some k =>
      if k < 1 || k > 65535 then outOfRange env "GROUP" pos columns.length
      let base := columns[k.toNat - 1]?.getD (.const .null)
      let e : Bound.Expr := match coll with
        | some c => .collate base ((Collation.ofName? c).getD (.missing c))
        | none => base
      useCollation e.collationOrBinary
      groupTerms n env columns ts (pos + 1) ((pos, k) :: numbers) ((e, e.collationOrBinary) :: acc)
    | none =>
      let e ← expr n env true t
      settle env
      useCollation e.collationOrBinary
      groupTerms n env columns ts (pos + 1) numbers ((e, e.collationOrBinary) :: acc)
termination_by structural fuel => fuel

/-- Binds the ordering terms of a simple select: a bare alias or an integer names a column
of the list, keeping a `collate` written after it; anything else is an expression. An
integer below 1 or above 65535 fails at once, one past the list once all terms are bound. -/
def orderTerms : Nat → BindEnv → List Bound.Expr → List ResultColumn → List OrderTerm → Nat →
    List (Nat × Int) → List Bound.OrderKey → Bind (List Bound.OrderKey)
  | 0, _, _, _, _, _, _, _ => tooDeep
  | _ + 1, env, columns, _, [], _, numbers, acc => do
    for (pos, k) in numbers.reverse do
      if k.toNat > columns.length then outOfRange env "ORDER" pos columns.length
    pure acc.reverse
  | n + 1, env, columns, cols, .mk t desc nf :: ts, pos, numbers, acc => do
    let (inner, coll) := skipWrappers termDepth t
    let keyOf (base : Bound.Expr) : Bind Bound.OrderKey := do
      let e : Bound.Expr := match coll with
        | some c => .collate base ((Collation.ofName? c).getD (.missing c))
        | none => base
      useCollation e.collationOrBinary
      pure (.mk e desc (nf.getD (!desc)) e.collationOrBinary)
    let aliasHit : Option Nat := match inner with
      | .column none nm _ _ =>
        (cols.filterMap fun
          | .term _ a _ => some a
          | _ => some none).findIdx? (fun a => a.any (sameName nm))
      | _ => none
    match aliasHit, termInteger? inner with
    | some i, _ =>
      let k ← keyOf (columns[i]?.getD (.const .null))
      orderTerms n env columns cols ts (pos + 1) numbers (k :: acc)
    | none, some k =>
      if k < 1 || k > 65535 then outOfRange env "ORDER" pos columns.length
      let key ← keyOf (columns[k.toNat - 1]?.getD (.const .null))
      orderTerms n env columns cols ts (pos + 1) ((pos, k) :: numbers) (key :: acc)
    | none, none =>
      let e ← expr n env true t
      settle env
      useCollation e.collationOrBinary
      orderTerms n env columns cols ts (pos + 1) numbers (.mk e desc (nf.getD (!desc)) e.collationOrBinary :: acc)
termination_by structural fuel => fuel

/-- Binds the conditions of the joins of a select, in the order the joins were read. -/
def joinConditions : Nat → BindEnv → Bool → List (Option Term) → List (Option Bound.Expr) →
    Bind (List (Option Bound.Expr))
  | 0, _, _, _, _ => tooDeep
  | _ + 1, _, _, [], acc => pure acc.reverse
  | n + 1, env, allowAgg, c :: cs, acc => do
    let c' ← optExpr n env allowAgg c
    joinConditions n env allowAgg cs (c' :: acc)
termination_by structural fuel => fuel

/-- Binds a `from` clause starting at a slot. Returns the source, what names see of it, its
width and the join conditions still to bind. -/
def from_ : Nat → BindEnv → Source → Nat → Bind (Bound.Source × List Visible × Nat × List (Option Term))
  | 0, _, _, _ => tooDeep
  | n + 1, env, src, offset =>
    match src with
    | .table schema name aliasName args indexed tokenOffset => do
      let (s, v, w) ← tableSource n env schema name aliasName args indexed tokenOffset offset
      pure (s, [v], w, [])
    | .query q aliasName => do
      let id ← fresh
      let (q', infos) ← query n { env with recursiveSelf := [], lateral := [] } q
      for i in infos do useCollation (i.collation.getD .binary)
      let names := uniqueNames (infos.map (·.subName))
      let cols := (names.zip infos).map fun (nm, i) =>
        (⟨nm, i.affinity, some (i.collation.getD .binary), false⟩ : VisibleColumn)
      let shownName := aliasName.getD ("(subquery-" ++ toString id ++ ")")
      pure (Bound.Source.derived q', [⟨shownName, cols, offset, id, none, none, false, [], .inner⟩],
        cols.length, [])
    | .join l op natural r on usingCols => do
      let (l', lv, lw, lc) ← from_ n env l offset
      let (r', rv, rw, rc) ← from_ n { env with lateral := env.lateral ++ lv } r (offset + lw)
      if natural && (on.isSome || !usingCols.isEmpty) then
        abortWith env "a NATURAL join may not have an ON or USING clause"
      let matched : List String :=
        if natural then
          (rv.flatMap (·.columns)).filterMap fun c =>
            if !c.hidden && lv.any (fun v => v.columns.any (fun d => sameName d.name c.name && !d.hidden)) then some c.name
            else none
        else usingCols
      let rv := rv.map fun v => { v with matchedNames := matched, joinOp := op }
      let condition ← match on with
        | some c => pure (some c)
        | none =>
          if matched.isEmpty then pure none
          else do
            let eqs ← matched.mapM fun c => do
              let has (v : Visible) := v.columns.any (sameName c ·.name)
              match lv.find? has, rv.find? has with
              | some lsrc, some rsrc =>
                pure (Term.binary .eq (.column (some lsrc.name) c false 0) (.column (some rsrc.name) c false 0))
              | _, _ => abortWith env ("cannot join using column " ++ c ++
                  " - column not present in both tables")
            pure (some (eqs.tail.foldl (fun acc e => Term.binary .and acc e) (eqs.headD (.literal (.integer 1)))))
      let op' := if op == .cross then JoinOp.inner else op
      pure (Bound.Source.join l' op' r' none lw rw, lv ++ rv, lw + rw, lc ++ rc ++ [condition])
termination_by structural fuel => fuel

/-- Binds a named source: a common table, a table-valued pragma, the schema table, a stored
table or a view. -/
def tableSource : Nat → BindEnv → Option String → String → Option String → Option (List Term) →
    Option (Option String) → Nat → Nat → Bind (Bound.Source × Visible × Nat)
  | 0, _, _, _, _, _, _, _, _ => tooDeep
  | n + 1, env, schema, name, aliasName, args, indexed, tokenOffset, offset => do
    let id ← fresh
    let shownName := aliasName.getD name
    let plain (cols : List VisibleColumn) : Visible := ⟨shownName, cols, offset, id, none, none, false, [], .inner⟩
    let cte := if schema.isNone && args.isNone && env.ddlSchema.isNone then
        env.ctes.find? (fun c => sameName c.name name)
      else none
    match cte with
    | some d =>
      let cols ← common n env d
      pure (Bound.Source.common d.id, plain cols, cols.length)
    | none =>
      let missing : Bind (Bound.Source × Visible × Nat) :=
        let qualified := match schema, env.ddlSchema with
          | some s, _ => s ++ "." ++ name
          | none, some s => s ++ "." ++ name
          | none, none => name
        let _ := tokenOffset
        abortWith env ("no such table: " ++ qualified)
      let lookIn := schema.orElse fun _ => env.ddlSchema
      let folded := foldName name
      if (folded.startsWith "pragma_") && (lookIn.isNone || lookIn == some "main") then
        match Pragma.tableSpec? folded with
        | some spec =>
          let given := args.getD []
          if given.length > spec.hidden.length then
            abortWith env ("too many arguments on " ++ name ++ "() - max " ++ toString spec.hidden.length)
          let argEnv := { env with scopes := ⟨env.lateral, []⟩ :: env.scopes, lateral := [] }
          let bound ← given.mapM fun a => expr n argEnv false a
          let cols := (spec.shown.map fun c => (⟨c, none, some .binary, false⟩ : VisibleColumn)) ++
            spec.hidden.map fun c => (⟨c, none, some .binary, true⟩ : VisibleColumn)
          let v : Visible := { plain cols with rowid := some (offset + cols.length) }
          pure (Bound.Source.pragma spec.name bound, v, cols.length + 1)
        | none => missing
      else if (folded == "json_each" || folded == "json_tree") && (lookIn.isNone || lookIn == some "main") then
        let given := args.getD []
        if given.length > 2 then abortWith env ("too many arguments on " ++ folded ++ "() - max 2")
        let argEnv := { env with scopes := ⟨env.lateral, []⟩ :: env.scopes, lateral := [] }
        let bound ← given.mapM fun a => expr n argEnv false a
        let cols := JsonTable.columnNames.zipIdx.map fun (c, k) =>
          (⟨c, none, some .binary, k ≥ 8⟩ : VisibleColumn)
        let v : Visible := { plain cols with rowid := some (offset + cols.length) }
        pure (Bound.Source.jsonEach (folded == "json_tree") bound, v, cols.length + 1)
      else if args.isSome then missing
      else
        let schemaTable : Option Database :=
          if folded == "sqlite_schema" || folded == "sqlite_master" then
            match lookIn with
            | some s => env.catalog.db? s
            | none => env.catalog.db? "main"
          else if folded == "sqlite_temp_schema" || folded == "sqlite_temp_master" then
            if lookIn.isNone || lookIn == some "temp" then env.catalog.db? "temp" else none
          else none
        match schemaTable with
        | some db =>
          let cols := ["type", "name", "tbl_name", "rootpage", "sql"].map fun c =>
            (⟨c, none, some .binary, false⟩ : VisibleColumn)
          pure (Bound.Source.rows (schemaRows db), plain cols, cols.length)
        | none =>
          match env.catalog.table? lookIn name with
          | some (dbName, t) =>
            let ref : TableRef := ⟨dbName, t.name⟩
            if t.virtual.isSome then
              let cols := Virtual.visibleColumns t
              let v : Visible := ⟨shownName, cols, offset, id, some (offset + cols.length), some (ref, t), false, [],
                .inner⟩
              return (Bound.Source.virtual ref [], v, cols.length + 1)
            let forced ← match indexed with
              | some (some iname) =>
                match ((env.catalog.db? dbName).bind (·.index? iname)) with
                | some i => do
                  modify fun s => { s with forced := (id, some i.name) :: s.forced }
                  pure (some (orderByIndex t i))
                | none => abortWith env ("no such index: " ++ iname)
              | some none => do
                modify fun s => { s with forced := (id, none) :: s.forced }
                pure (some (naturalKeys t))
              | none => pure none
            let forcedOrder := match forced with
              | some [] => [Bound.OrderKey.mk (.column 0 t.columns.size none none) false true .binary]
              | some ks => ks
              | none => []
            let v : Visible := ⟨shownName, tableColumns t, offset, id,
              (if t.withoutRowid then none else some (offset + t.columns.size)), some (ref, t), false, [], .inner⟩
            pure (Bound.Source.table ref forcedOrder, v, t.columns.size + 1)
          | none =>
            match env.catalog.view? lookIn name with
            | some (dbName, view) =>
              let viewEnv : BindEnv := {
                catalog := env.catalog, sql := env.sql, scopes := [], ctes := [],
                noOffsets := true, aggMisuse := false, ddlSchema := some dbName }
              let (q', infos) ← query n viewEnv view.query
              if !view.columns.isEmpty && view.columns.length != infos.length then
                abortWith env ("expected " ++ toString view.columns.length ++ " columns for '" ++ view.name ++
                  "' but got " ++ toString infos.length)
              let names := uniqueNames (if view.columns.isEmpty then infos.map (·.subName) else view.columns)
              let cols := (names.zip infos).map fun (nm, i) =>
                (⟨nm, i.affinity, some (i.collation.getD .binary), false⟩ : VisibleColumn)
              pure (Bound.Source.derived q', plain cols, cols.length)
            | none => missing
termination_by structural fuel => fuel

end

end Binder

end QueryDoc.Store
