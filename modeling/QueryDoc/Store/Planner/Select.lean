import QueryDoc.Store.Planner.Layout
import QueryDoc.Store.Scope

/-!
Planning the `from` of a select of stored tables.

A `from` that joins stored tables with row ids, left to right, by inner, cross and left joins,
is read by nested loops in the order and the ways the planner finds cheapest. The planner is
told the tables' indexes with their estimates, the terms of the filter and of the join
conditions, the columns the statement reads, and the ordering the statement would like its
rows in: its `order by`; its `group by`, in the directions of an `order by` of as many terms;
or, for `distinct`, its columns.

The estimates are defaults unless `analyze` measured the tables: a table of about a million
rows, an equality on the first column of an index leaving ten, then nine, eight, seven, six and
five for the columns after it. Measured counts take their place, and a table some index of
which went unmeasured counts at least a thousand rows, so that such an index is not passed
over for looking too costly.
-/

namespace QueryDoc.Store

namespace Planner

/-- The stored tables of a `from` that is a chain of inner and left joins of stored tables,
left to right, with the condition of each table's join; none for a `from` of another shape. -/
def storedChain : Bound.Source → Option (List (TableRef × Option Bound.Expr))
  | .table ref _ => some [(ref, none)]
  | .join l op (.table ref _) on _ _ =>
    if op == .inner || op == .left then (storedChain l).map (· ++ [(ref, on)]) else none
  | _ => none

/-- The estimated room a column takes. -/
def columnRoom (c : Column) : Nat := Estimate.columnWidth c.declaredType c.affinity

/-- The estimated size of a table's row: its columns' room, and one more for a row id that no
column names. -/
def tableWidth (t : Table) : Int :=
  let room := t.columns.foldl (fun w c => w + columnRoom c) 0
  Estimate.ofCount (4 * (room + (if t.rowidColumn.isNone then 1 else 0)))

/-- The estimated rows of a table: the rows `analyze` counted, else about a million; at least
a thousand when some index of it has no counts. -/
def tableEstimate (st : Statistics) (t : Table) (indexes : List Index) : Int :=
  let est := ((st.tableRows.lookup (foldName t.name)).map Estimate.ofCount).getD 200
  let unmeasured := indexes.any fun i => ((st.indexes.lookup (foldName i.name)).map (·.counts.isEmpty)).getD true
  if unmeasured && est < 99 then 99 else est

/-- The preference a value sought in an index column takes: the column's, numbers all alike
and no preference as none. -/
def searchAffinity (aff : Option Affinity) : Affinity :=
  match aff with
  | some .integer | some .real | some .numeric => .numeric
  | some .text => .text
  | _ => .blob

/-- An index of a table as the planner sees it: its key columns (a named row id counts as the
column that is the row id, when there is one), then the row id; estimates of its rows, by
default the table's (half of them for a partial index), ten rows an equality on the first
column leaves, then nine, eight, seven, six and five, and one for a full key of a unique index,
and those `analyze` counted in their place; its expressions and condition as bound over the
select's row; and its samples. -/
def indexView (t : Table) (i : Index) (exprs : List (Option Bound.Expr)) (filter : Option Bound.Expr)
    (stats : Option IndexStats) (tableEst : Int) : IndexView :=
  let parts := i.parts.zip (exprs ++ List.replicate i.parts.length none)
  let keyOps : List Operand := parts.map fun (p, e) =>
    match p.source with
    | .column c => .column c
    | .rowid => match t.rowidColumn with
      | some c => .column c
      | none => .rowid
    | .expr _ => .expr (e.getD (.const .null))
  let nKey := i.parts.length
  let room (p : IndexPart) : Nat := match p.source with
    | .column c => ((t.columns[c]?).map columnRoom).getD 1
    | _ => 1
  let width := (i.parts.map room).foldl (· + ·) 0 + 1
  let defaults : List Int := (if filter.isSome then tableEst - 10 else tableEst) ::
    (List.range nKey).map fun k => if i.unique && k + 1 == nKey then 0 else ([33, 32, 30, 28, 26].getD k 23)
  let counts := ((stats.map (·.counts)).getD []).take (nKey + 1)
  let measured := !counts.isEmpty
  let est := counts.map Estimate.ofCount ++ defaults.drop counts.length
  let lowQuality := measured && est.headD 0 > 66 && est.headD 0 ≤ est.getLastD 0
  let affinities := keyOps.map (fun op => match op with
    | .column c => searchAffinity ((t.columns[c]?).map (·.affinity))
    | .rowid => .numeric
    | .expr e => searchAffinity e.affinity) ++ [.numeric]
  let notNull (p : IndexPart) : Bool := match p.source with
    | .column c => t.rowidColumn == some c || ((t.columns[c]?).map (·.notNull)).getD false
    | .rowid => true
    | .expr _ => false
  { index := i, columns := keyOps ++ [.rowid], keyCount := nKey,
    collations := i.parts.map (·.collation) ++ [.binary], descending := i.parts.map (·.descending) ++ [false],
    filter := filter.map (splitAt .and), rowEst := est,
    width := Estimate.ofCount (((stats.bind (·.entrySize)).filter (fun _ => measured)).getD (4 * width)),
    unique := i.unique, uniqueNotNull := i.unique && i.parts.all notNull, primaryKey := false,
    measured := measured,
    histogram := stats.bind fun st => Histogram.of? st (nKey + 1) nKey
      (i.parts.map (·.collation) ++ [.binary]) (i.parts.map (·.descending) ++ [false]) affinities,
    unordered := measured && ((stats.map (·.unordered)).getD false),
    lowQuality := lowQuality, noSkipScan := measured && ((stats.map (·.noSkipScan)).getD false) }

/-- What planning a select needs to know of it. -/
structure SelectShape where
  /-- The sources of the `from`, each with its stored table, its indexes, and the condition of
  its join. -/
  sources : List (Visible × TableRef × Table × List IndexView × Option Bound.Expr)
  filter : Option Bound.Expr
  columns : List Bound.Expr
  keys : List Bound.OrderKey
  groupBy : List (Bound.Expr × Collation)
  distinct : Bool
  aggregated : Bool
  aggregates : List Bound.Aggregate
  having : Option Bound.Expr
  /-- The columns the statement reads, by source number. -/
  used : List (Nat × Nat)
  /-- The index `indexed by` names, or none for `not indexed`, by source number. -/
  forced : List (Nat × Option String)
  caseSensitive : Bool
  /-- Whether the connection reads rows backwards where no ordering is wanted. -/
  reverseUnordered : Bool := false
  /-- For each source, its estimated rows and whether `analyze` kept samples of it. -/
  measures : List (Int × Bool) := []

/-- Every expression of a select that may read its sources. -/
def SelectShape.expressions (sh : SelectShape) : List Bound.Expr :=
  sh.columns ++ sh.filter.toList ++ sh.sources.filterMap (·.2.2.2.2) ++ sh.groupBy.map (·.1) ++
    sh.having.toList ++ sh.keys.map (fun (.mk e _ _ _) => e) ++
    sh.aggregates.flatMap fun (.mk _ args _ f order _) => args ++ f.toList ++ order.map fun (.mk e _ _ _) => e

/-- The sources of a select as the planner sees them. -/
def SelectShape.leaves (sh : SelectShape) : Array Leaf :=
  let exprs := sh.expressions
  (sh.sources.zipIdx.map fun ((v, _, t, views, _), k) =>
    let isRowid (c : Nat) : Bool := c ≥ t.columns.size || t.rowidColumn == some c
    let used := ((sh.used.filter (·.1 == v.id)).map (·.2)).filter (!isRowid ·)
    let forced : Option (Option Nat) := (sh.forced.lookup v.id).map fun name =>
      name.bind fun nm => (views.findIdx? (·.index.name == nm))
    let leaf : Leaf :=
      { offset := v.offset, width := t.columns.size + 1, table := some t, indexes := views,
        rows := ((sh.measures[k]?).map (·.1)).getD 200,
        rowWidth := tableWidth t, join := v.joinOp, depends := 0, forced := forced, function := false,
        used := used.eraseDups.mergeSort (· ≤ ·), exprCovered := [],
        measured := ((sh.measures[k]?).map (·.2)).getD false }
    { leaf with exprCovered := coverage leaf exprs }).toArray

/-- The ordering the statement would like its rows in, and what else bears on choosing loops
for it. -/
def SelectShape.demand (sh : SelectShape) (s : Setting) : List OrderTerm × Demand :=
  let ofKey (k : Bound.OrderKey) : OrderTerm := match k with
    | .mk e desc nullsFirst coll => ⟨e, desc, nullsFirst == desc, coll⟩
  let base : Demand := { columns := sh.columns.length }
  if !sh.groupBy.isEmpty then
    let same := sh.keys.length == sh.groupBy.length
    let order := sh.groupBy.zipIdx.map fun ((e, coll), k) =>
      let desc := if same then ((sh.keys[k]?).map fun (.mk _ d _ _) => d).getD false else false
      (⟨e, desc, false, coll⟩ : OrderTerm)
    let sortByGroup := same && (sh.keys.zip order).all fun (k, o) => match k with
      | .mk e d nf _ => Bound.Expr.alike Reads.budget e o.expr && d == o.descending && nf != d
    (order, { base with aim := { grouping := true }, sortByGroup := sortByGroup })
  else if sh.aggregated then ([], base)
  else if sh.distinct && sh.keys.isEmpty then
    if distinctRedundant s sh.columns then ([], { base with distinct := true })
    else
      (sh.columns.map fun e => ⟨e, false, false, e.collationOrBinary⟩,
        { base with aim := { distinct := true }, distinct := true })
  else (sh.keys.map ofKey, { base with distinct := sh.distinct })

mutual

/-- An access read backwards: each order in the other direction. -/
def accessBackwards : Bound.Access → Bound.Access
  | .sorted keys => .sorted (keys.map fun (.mk e d nf c) => .mk e (!d) (!nf) c)
  | .anyOf arms => .anyOf (armsBackwards arms)

/-- The arms of a search by several indexes, each read backwards. -/
def armsBackwards : List (Bound.Expr × Bound.Access) → List (Bound.Expr × Bound.Access)
  | [] => []
  | (e, a) :: rest => (e, accessBackwards a) :: armsBackwards rest

end

/-- The source that reads a select's tables by the cheapest loops, and how many leading terms
of the ordering the loops give; none when the `from` is not one the planner reads. When no
ordering is wanted and the connection asks for it, every table is read backwards. -/
def planSelect (sh : SelectShape) : Option (Bound.Source × Nat) :=
  let leaves := sh.leaves
  let onTerms : List (Bound.Expr × Option Nat) := sh.sources.zipIdx.flatMap fun ((v, _, _, _, on), i) =>
    (on.toList.flatMap (splitAt .and)).map fun e => (e, if v.joinOp == .left then some i else none)
  let whereTerms : List (Bound.Expr × Option Nat) := (sh.filter.toList.flatMap (splitAt .and)).map (·, none)
  let (leaves, terms) := simplifyJoins leaves (whereTerms ++ onTerms)
  let base := terms.map fun (e, outer) => baseTerm leaves outer e
  let s : Setting :=
    { leaves := leaves, main := clause Reads.budget leaves true sh.caseSensitive base, order := [],
      caseSensitive := sh.caseSensitive }
  let (order, d) := sh.demand s
  let s := { s with order := order }
  let reverse := sh.reverseUnordered && order.isEmpty
  (layout s d).map fun lay =>
    let parts := sh.sources.zipIdx.map fun ((v, ref, t, _, on), i) =>
      let outer := if ((leaves[i]?).map (·.join)) == some .left then some on else none
      let access := (lay.reads[i]?).getD (.sorted [])
      Bound.Part.mk ref v.offset (t.columns.size + 1) outer (if reverse then accessBackwards access else access)
    let conds := sh.sources.zipIdx.filterMap fun ((_, _, _, _, on), i) =>
      if ((leaves[i]?).map (·.join)) == some .left then none else on
    (.nested parts lay.nesting conds, lay.ordered)

end Planner

end QueryDoc.Store
