import QueryDoc.Store.Window
import QueryDoc.Store.Scope
import QueryDoc.Store.JsonTable
import QueryDoc.Store.Virtual
import QueryDoc.Store.Pragma.Run

/-!
Evaluating bound queries.

A select reads the rows of its source: a stored table in its reading order, a subquery, a
common table, fixed rows, or two sources joined (each left row with the right rows the join
condition holds for; a left join keeps a left row without partner, a right join adds the right
rows without partner after the others, a full join does both). It keeps the rows its filter
holds for. A grouped select sorts its rows into groups by the grouping values (unless they
arrive grouped), computes each aggregate over the group's rows (those its own filter keeps, in
its own order), takes bare columns from a representative row, and keeps the groups its group
filter holds for. Window functions are computed next, each window sorting the rows stably by
its partition and ordering, the last window first. Last come the result columns, the ordering
keys, and the removal of repeated rows under `distinct`.

A chain of selects combines left to right: `union all` appends; `union` keeps one row of each
set of equal rows (the last met), sorted; `intersect` and `except` give the left rows, once
each and sorted, that the right rows hold or do not. Sorting is stable, nulls first unless asked
otherwise; then the offset and the limit apply, both evaluated before anything is read.

A recursive common table keeps a queue filled first by its seed: it takes one row at a time
(the first queued, or the least under its ordering), gives it out, and queues the rows its steps
produce from that row alone; under `union` a row queued once is not queued again. Its limit
counts the rows given out, its offset those taken but not given out. Evaluation takes a depth
budget that every step reduces, far larger than any statement needs.
-/

namespace QueryDoc.Store

/-- The conversion of a cast in a database that stores text in an encoding: a text or a
number becomes the bytes of its text in that encoding, and bytes become the text they
encode. -/
def castIn (enc : TextEncoding) (aff : Affinity) (d : Datum) : Datum :=
  match enc, aff, d with
  | .utf8, _, _ => d.cast aff
  | _, .blob, .text _ | _, .blob, .rawText _ | _, .blob, .integer _ | _, .blob, .real _ =>
    .blob (enc.bytesOf d)
  | _, .text, .blob bs => enc.decode bs
  | _, _, _ => d.cast aff

/-- What evaluation reads besides the rows: the databases, the bound parameters, the rows of
the common tables in view, and the connection's counts. -/
structure Context where
  catalog : Catalog
  params : Array Datum
  ctes : List (Nat × Array (Array Datum))
  call : CallContext

/-- The row of one select, with the aggregate values of its current group and the window
values of its current row. -/
structure Frame where
  row : Array Datum
  aggregates : Array Datum := #[]
  /-- Whether each aggregate value is marked as JSON. -/
  aggregateMarks : Array Bool := #[]
  windows : Array Datum := #[]
  deriving Inhabited

/-- The frames of the selects around an expression, innermost first. -/
abbrev Frames := List Frame

/-- A frame holding only a row. -/
def Frame.ofRow (r : Array Datum) : Frame := { row := r }

/-- A slot of the row `depth` selects out. -/
def Frames.lookup (env : Frames) (depth slot : Nat) : Datum :=
  ((env[depth]?).bind (·.row[slot]?)).getD .null

/-- An aggregate value of the innermost select. -/
def Frames.aggregate (env : Frames) (i : Nat) : Datum :=
  ((env.head?).bind (·.aggregates[i]?)).getD .null

/-- Whether an aggregate value of the innermost select is marked as JSON. -/
def Frames.aggregateMarked (env : Frames) (i : Nat) : Bool :=
  ((env.head?).bind (·.aggregateMarks[i]?)).getD false

/-- A window value of the innermost select. -/
def Frames.window (env : Frames) (i : Nat) : Datum :=
  ((env.head?).bind (·.windows[i]?)).getD .null

/-- Whether an expression's value is marked as JSON whatever it is: a call of a JSON function
that always marks its result. -/
def producesJson : Bound.Expr → Bool
  | .call f _ _ => JsonCall.marksResult f
  | _ => false

/-- Whether an aggregate's value is marked as JSON. -/
def Bound.Aggregate.marksJson : Bound.Aggregate → Bool
  | .mk f _ _ _ _ _ => f == .jsonGroupArray || f == .jsonGroupObject

/-- Whether the first value of a subquery is marked as JSON: its first column is a JSON
function's marked result or a JSON aggregate, or `json_extract` whose text is an array or an
object. -/
def queryMarksJson (q : Bound.Query) (v : Datum) : Bool :=
  let looksContainer : Bool := match v with
    | .text s => s.startsWith "[" || s.startsWith "\x7b"
    | _ => false
  let rec marks : Nat → List Bound.Aggregate → Bound.Expr → Bool
    | 0, _, _ => false
    | n + 1, aggs, e =>
      match e with
      | .call f _ _ => JsonCall.marksResult f || (f == .jsonExtract && looksContainer)
      | .aggregate i _ _ => ((aggs[i]?).map Bound.Aggregate.marksJson).getD false
      | .collate a _ => marks n aggs a
      | _ => false
  match q with
  | .mk _ (.select _ _ _ _ (c :: _) aggs _ _ _ _ _ _) [] _ _ _ _ => marks 8 aggs c
  | _ => false

/-- The direction, null placement and collation of an ordering key. -/
def orderFlags : Bound.OrderKey → Bool × Bool × Collation
  | .mk _ d nf c => (d, nf, c)

/-- The expression of an ordering key. -/
def orderExpr : Bound.OrderKey → Bound.Expr
  | .mk e _ _ _ => e

/-- Sorts stably by keys under per-key flags. -/
def sortKeyed {α : Type} (flags : List (Bool × Bool × Collation)) (items : List (List Datum × α)) :
    List (List Datum × α) :=
  items.mergeSort fun a b => Window.compareKeys flags a.1 b.1 != .gt

/-- Whether two rows hold equal values, position by position under collations. -/
def sameRow (colls : List Collation) (a b : Array Datum) : Bool :=
  a.size == b.size && Window.sameKeys colls a.toList b.toList

/-- Rows once each under collations, sorted on all columns; of equal rows the last one met
stays. -/
def lastOfEqual (colls : List Collation) (rows : Array (Array Datum)) : Array (Array Datum) :=
  let flags := colls.map fun c => (false, true, c)
  let sorted := sortKeyed flags (rows.toList.map fun r => (r.toList, r))
  let groups := Window.runs (fun a b => sameRow colls a.2 b.2) sorted
  (groups.filterMap fun g => g.getLast?.map (·.2)).toArray

/-- Rows in order, each once: later rows equal to an earlier one under collations go. -/
def firstOfEqual (colls : List Collation) (rows : List (Array Datum × Array Datum)) :
    List (Array Datum × Array Datum) :=
  (rows.foldl (fun (acc : Array (Array Datum × Array Datum)) r =>
    if acc.any (fun x => sameRow colls x.1 r.1) then acc else acc.push r) #[]).toList

/-- Combines the rows of a chain so far with the rows of the next select. -/
def combineRows (colls : List Collation) (op : CompoundOp) (acc rows : Array (Array Datum)) :
    Array (Array Datum) :=
  match op with
  | .unionAll => acc ++ rows
  | .union => lastOfEqual colls (acc ++ rows)
  | .intersect => (lastOfEqual colls acc).filter fun r => rows.any (sameRow colls · r)
  | .except => (lastOfEqual colls acc).filter fun r => !rows.any (sameRow colls · r)

/-- Sorts rows stably by some of their columns. -/
def sortByColumns (cols : List (Nat × Bool × Bool × Collation)) (rows : Array (Array Datum)) :
    Array (Array Datum) :=
  let flags := cols.map (·.2)
  ((sortKeyed flags (rows.toList.map fun r => (cols.map fun c => r[c.1]?.getD .null, r))).map (·.2)).toArray

/-- The failure for a budget that ran out. -/
def exhausted {α : Type} : Outcome α := throw (Failure.general "statement too complex")

/-- The integer a limit or offset must be. -/
def countValue (d : Datum) : Outcome Int :=
  match d.numberIfNumeric with
  | .integer n => pure n
  | .real x =>
    match integralValue? x with
    | some n => pure n
    | none => throw (.coded .mismatch "datatype mismatch")
  | _ => throw (.coded .mismatch "datatype mismatch")

/-- Whether two rows of values are equal: false when a position differs, else unknown when
a position is unknown, else true. -/
def rowEquals : List Comparison → List Datum → List Datum → Option Bool
  | c :: cs, a :: as, b :: bs => andTruth (compareValues .eq c a b).truth? (rowEquals cs as bs)
  | _, _, _ => some true

/-- The strict form of an ordering comparison. -/
def strictOp : BinaryOp → BinaryOp
  | .le => .lt
  | .ge => .gt
  | op => op

/-- Two rows of values compared in order: the first position where they differ decides; a
null met before that makes the answer unknown. -/
def rowOrder (op : BinaryOp) : List Comparison → List Datum → List Datum → Option Bool
  | [c], [a], [b] => (compareValues op c a b).truth?
  | c :: cs, a :: as, b :: bs =>
    if a.isNull || b.isNull then none
    else if (compareValues .eq c a b).truth? == some true then rowOrder op cs as bs
    else (compareValues (strictOp op) c a b).truth?
  | _, _, _ => some (op == .le || op == .ge)

/-- Two rows of values under a comparison operator. -/
def compareRows (op : BinaryOp) (cmps : List Comparison) (ls rs : List Datum) : Datum :=
  match op with
  | .eq => .ofTruth (rowEquals cmps ls rs)
  | .ne => .ofTruth ((rowEquals cmps ls rs).map (!·))
  | .isSame | .isNotSame =>
    let same := ((cmps.zip (ls.zip rs)).all fun (c, a, b) => (compareValues .isSame c a b).truth? == some true)
    .ofTruth (some (if op == .isSame then same else !same))
  | _ => .ofTruth (rowOrder op cmps ls rs)

/-- The verdict of `in` from the comparisons with each candidate: true when one holds, else
unknown when one is unknown, else false; then negated when asked. -/
def inVerdict (results : List (Option Bool)) (negated : Bool) : Datum :=
  let r : Option Bool :=
    if results.any (· == some true) then some true
    else if results.any (· == none) then none
    else some false
  .ofTruth (if negated then r.map (!·) else r)

/-- The row whose values the bare columns of a group take. They are loaded from the group's
first row, then again each time the select's last `min` or `max` takes a new value: at a
null before any value, at the first value, and at each value strictly beyond the extreme so
far. A group without rows leaves them null. -/
def representative (rows : List (Array Datum)) (extreme : Option (Bool × Collation × List (Array Datum × Datum)))
    (width : Nat) : Array Datum :=
  let blank := Array.replicate width Datum.null
  match extreme with
  | none => rows.head?.getD blank
  | some (isMax, coll, seen) =>
    let step (st : Option Datum × Array Datum) (rv : Array Datum × Datum) :=
      let v := rv.2
      match st.1 with
      | none => if v.isNull then (none, rv.1) else (some v, rv.1)
      | some best =>
        let c := best.compareWith coll v
        if !v.isNull && ((isMax && c == .lt) || (!isMax && c == .gt)) then (some v, rv.1) else st
    (seen.foldl step (none, rows.head?.getD blank)).2

/-- The rows of a stored table, each with its row id after its values, in row id order. -/
def storedRows (t : Table) : Array (Array Datum) := t.rows.map fun r => r.values.push (.integer r.rowid)

/-- The least of queued rows under an ordering, the first queued among equals, and the rest. -/
def takeLeast (flags : List (Bool × Bool × Collation)) (queue : List (List Datum × Array Datum)) :
    Option (Array Datum × List (List Datum × Array Datum)) :=
  let best := queue.zipIdx.foldl (fun (b : Option (Nat × List Datum)) (x, i) =>
    match b with
    | none => some (i, x.1)
    | some (j, k) => if Window.compareKeys flags x.1 k == .lt then some (i, x.1) else some (j, k)) none
  best.bind fun (i, _) => queue[i]?.map fun (_, r) => (r, queue.eraseIdx i)

/-- How many rows a recursive common table takes from its queue at most. -/
def recursionCap : Nat := 200000

/-- A stored table's rows made ready for nested loops: in the order its loop reads them, or
split into arms, each read under its own condition. -/
inductive LoopSource where
  | rows (rows : List (Array Datum))
  | anyOf (arms : List (Bound.Expr × LoopSource))

/-- A row with values written into its slots from `offset` on. -/
def placeAt (row : Array Datum) (offset : Nat) (vals : Array Datum) : Array Datum :=
  vals.zipIdx.foldl (fun r (v, k) => r.setIfInBounds (offset + k) v) row

/-- The row id of a stored row, kept in its last slot. -/
def storedRowid (r : Array Datum) : Int :=
  match r.back? with
  | some (.integer i) => i
  | _ => 0

/-- A table of nested loops made ready to read: its slots, its join condition when it is the
right side of a left join, and its rows. -/
structure ReadyPart where
  offset : Nat
  width : Nat
  outer : Option (Option Bound.Expr)
  rows : LoopSource

/-- The rows a table-valued function gives for the values of its arguments: the elements of a
JSON value, or a pragma's rows. -/
def functionRows (ctx : Context) (src : Bound.Source) (vals : List Datum) : Outcome (List (Array Datum)) :=
  match src with
  | .jsonEach recursive _ => JsonTable.rows recursive vals
  | .pragma name _ => Pragma.tableRows ctx.catalog name vals
  | _ => pure []

mutual

/-- The value of an expression. -/
def eval : Nat → Context → Frames → Bound.Expr → Outcome Datum
  | 0, _, _, _ => exhausted
  | n + 1, ctx, env, e =>
    match e with
    | .const d => pure d
    | .param i => pure (ctx.params[i - 1]?.getD .null)
    | .column d s _ _ => pure (env.lookup d s)
    | .aggregate i _ _ => pure (env.aggregate i)
    | .window i => pure (env.window i)
    | .unary op a => do pure (applyUnary op (← eval n ctx env a))
    | .binary op l r cmp =>
      match op with
      | .and => do
        let a ← eval n ctx env l
        if a.truth? == some false then pure (.integer 0)
        else
          let b ← eval n ctx env r
          pure (.ofTruth (andTruth a.truth? b.truth?))
      | .or => do
        let a ← eval n ctx env l
        if a.truth? == some true then pure (.integer 1)
        else
          let b ← eval n ctx env r
          pure (.ofTruth (orTruth a.truth? b.truth?))
      | .eq | .ne | .lt | .le | .gt | .ge | .isSame | .isNotSame => do
        let a ← eval n ctx env l
        let b ← eval n ctx env r
        pure (compareValues op cmp a b)
      | _ => do
        let a ← eval n ctx env l
        let b ← eval n ctx env r
        pure (applyBinary op a b)
    | .truth a value negated => do
      let v ← eval n ctx env a
      match v.truth? with
      | some b => pure (.ofTruth (some ((b == value) != negated)))
      | none => pure (.ofTruth (some negated))
    | .isNull a neg => do
      let v ← eval n ctx env a
      pure (.ofTruth (some (v.isNull != neg)))
    | .between a lo hi neg cLo cHi => do
      let v ← eval n ctx env a
      let l ← eval n ctx env lo
      let h ← eval n ctx env hi
      let r := andTruth (compareValues .ge cLo v l).truth? (compareValues .le cHi v h).truth?
      pure (.ofTruth (if neg then r.map (!·) else r))
    | .inList a items neg cmps => do
      let ls ← evalRow n ctx env a
      let results ← inItems n ctx env cmps ls items []
      pure (inVerdict results neg)
    | .inQuery es q neg cmps => do
      let ls ← evalList n ctx env es
      let rows ← runQuery n ctx env q
      pure (inVerdict (rows.toList.map fun r => rowEquals cmps ls r.toList) neg)
    | .rowCompare op l r cmps => do
      let ls ← evalRow n ctx env l
      let rs ← evalRow n ctx env r
      pure (compareRows op cmps ls rs)
    | .subRow q _ => do
      let rows ← runQuery n ctx env q
      pure ((rows[0]?.bind (·[0]?)).getD .null)
    | .exists q => do
      let rows ← runQuery n ctx env q
      pure (.integer (if rows.isEmpty then 0 else 1))
    | .scalar q _ => do
      let rows ← runQuery n ctx env q
      pure ((rows[0]?.bind (·[0]?)).getD .null)
    | .call f args coll => do pure (← evalCall n ctx env f args coll).1
    | .cast a aff => do pure (castIn ctx.call.encoding aff (← eval n ctx env a))
    | .caseOf operand branches otherwise cmps => do
      let subject ← match operand with
        | some o => some <$> eval n ctx env o
        | none => pure none
      let chosen ← chooseBranch n ctx env subject cmps branches
      match chosen with
      | some r => pure r.1
      | none =>
        match otherwise with
        | some o => eval n ctx env o
        | none => pure .null
    | .collate a _ => eval n ctx env a
    | .raise action msg => do
      let text ← match msg with
        | some m => do pure ((← eval n ctx env m).toText?.getD "")
        | none => pure ""
      throw (.raised action text)
    | .vector items =>
      match items with
      | first :: _ => eval n ctx env first
      | [] => pure .null
termination_by structural fuel => fuel

/-- The values of an expression that may stand for several: a row of values, the first row
of a subquery (nulls when it has none), or a single value. -/
def evalRow : Nat → Context → Frames → Bound.Expr → Outcome (List Datum)
  | 0, _, _, _ => exhausted
  | n + 1, ctx, env, e =>
    match e with
    | .vector items => evalList n ctx env items
    | .subRow q width => do
      let rows ← runQuery n ctx env q
      match rows[0]? with
      | some r => pure r.toList
      | none => pure (List.replicate width .null)
    | other => do pure [← eval n ctx env other]
termination_by structural fuel => fuel

/-- The comparisons of a value, or a row of values, with each item of an `in` list. -/
def inItems : Nat → Context → Frames → List Comparison → List Datum → List Bound.Expr →
    List (Option Bool) → Outcome (List (Option Bool))
  | 0, _, _, _, _, _, _ => exhausted
  | _ + 1, _, _, _, _, [], acc => pure acc.reverse
  | n + 1, ctx, env, cmps, ls, item :: rest, acc => do
    let rs ← evalRow n ctx env item
    inItems n ctx env cmps ls rest (rowEquals cmps ls rs :: acc)
termination_by structural fuel => fuel

/-- The first argument that is not null, evaluating no further, with its mark. -/
def firstPresent : Nat → Context → Frames → List Bound.Expr → Outcome (Datum × Bool)
  | 0, _, _, _ => exhausted
  | _ + 1, _, _, [] => pure (.null, false)
  | n + 1, ctx, env, a :: rest => do
    let v ← evalTagged n ctx env a
    if v.1.isNull then firstPresent n ctx env rest else pure v
termination_by structural fuel => fuel

/-- The value of a call of a scalar function, and whether it is marked as JSON. -/
def evalCall : Nat → Context → Frames → Builtin → List Bound.Expr → Collation → Outcome (Datum × Bool)
  | 0, _, _, _, _, _ => exhausted
  | n + 1, ctx, env, f, args, coll =>
    match f with
    | .coalesce | .ifnull => firstPresent n ctx env args
    | .iif => do
      match args with
      | c :: a :: rest => do
        let t ← eval n ctx env c
        if t.truth? == some true then evalTagged n ctx env a
        else
          match rest with
          | b :: _ => evalTagged n ctx env b
          | [] => pure (.null, false)
      | _ => pure (.null, false)
    | .rowHighlight | .rowBm25 | .rowSnippet => do
      let vals ← evalList n ctx env args
      pure (← Virtual.auxiliary ctx.catalog f vals, false)
    | _ => do
      let vals ← evalTaggedList n ctx env args
      applyTagged f (vals.map (·.1)) ctx.call coll (vals.map (·.2))
termination_by structural fuel => fuel

/-- The value of an expression and whether it is marked as JSON: a JSON function's result, or
one that `coalesce`, `iif`, a collation, a scalar subquery or an aggregate passes on. -/
def evalTagged : Nat → Context → Frames → Bound.Expr → Outcome (Datum × Bool)
  | 0, _, _, _ => exhausted
  | n + 1, ctx, env, e =>
    match e with
    | .call f args coll => evalCall n ctx env f args coll
    | .collate a _ => evalTagged n ctx env a
    | .scalar q _ => do
      let rows ← runQuery n ctx env q
      let v := (rows[0]?.bind (·[0]?)).getD .null
      pure (v, queryMarksJson q v)
    | .aggregate i _ _ => pure (env.aggregate i, env.aggregateMarked i)
    | .unary .plus a => evalTagged n ctx env a
    | .cast a aff => do
      let (v, marked) ← evalTagged n ctx env a
      let r := castIn ctx.call.encoding aff v
      pure (r, marked && match r with
        | .text _ => true
        | _ => false)
    | .caseOf operand branches otherwise cmps => do
      let subject ← match operand with
        | some o => some <$> eval n ctx env o
        | none => pure none
      match ← chooseBranch n ctx env subject cmps branches with
      | some r => pure r
      | none =>
        match otherwise with
        | some o => evalTagged n ctx env o
        | none => pure (.null, false)
    | other => do pure (← eval n ctx env other, false)
termination_by structural fuel => fuel

/-- The values of a list of expressions, each with whether it is marked as JSON. -/
def evalTaggedList : Nat → Context → Frames → List Bound.Expr → Outcome (List (Datum × Bool))
  | 0, _, _, _ => exhausted
  | _ + 1, _, _, [] => pure []
  | n + 1, ctx, env, e :: es => do
    let v ← evalTagged n ctx env e
    let vs ← evalTaggedList n ctx env es
    pure (v :: vs)
termination_by structural fuel => fuel

/-- The result of the first branch of a `case` that applies, if one does, with its mark. -/
def chooseBranch : Nat → Context → Frames → Option Datum → List Comparison → List (Bound.Expr × Bound.Expr) →
    Outcome (Option (Datum × Bool))
  | 0, _, _, _, _, _ => exhausted
  | _ + 1, _, _, _, _, [] => pure none
  | n + 1, ctx, env, subject, cmps, (w, r) :: rest => do
    let c ← eval n ctx env w
    let hit := match subject with
      | some s => (compareValues .eq (cmps.headD ⟨none, .binary⟩) s c).truth? == some true
      | none => c.truth? == some true
    if hit then some <$> evalTagged n ctx env r else chooseBranch n ctx env subject cmps.tail rest
termination_by structural fuel => fuel

/-- The values of a list of expressions. -/
def evalList : Nat → Context → Frames → List Bound.Expr → Outcome (List Datum)
  | 0, _, _, _ => exhausted
  | _ + 1, _, _, [] => pure []
  | n + 1, ctx, env, e :: es => do
    let v ← eval n ctx env e
    let vs ← evalList n ctx env es
    pure (v :: vs)
termination_by structural fuel => fuel

/-- The values of expressions for each of several frames. -/
def perFrame : Nat → Context → Frames → List Bound.Expr → List Frame → List (List Datum) →
    Outcome (List (List Datum))
  | 0, _, _, _, _, _ => exhausted
  | _ + 1, _, _, _, [], acc => pure acc.reverse
  | n + 1, ctx, env, es, f :: fs, acc => do
    let vs ← evalList n ctx (f :: env) es
    perFrame n ctx env es fs (vs :: acc)
termination_by structural fuel => fuel

/-- The values of expressions for each of several frames, each with whether it is marked as
JSON. -/
def perFrameTagged : Nat → Context → Frames → List Bound.Expr → List Frame → List (List (Datum × Bool)) →
    Outcome (List (List (Datum × Bool)))
  | 0, _, _, _, _, _ => exhausted
  | _ + 1, _, _, _, [], acc => pure acc.reverse
  | n + 1, ctx, env, es, f :: fs, acc => do
    let vs ← evalTaggedList n ctx (f :: env) es
    perFrameTagged n ctx env es fs (vs :: acc)
termination_by structural fuel => fuel

/-- The rows of a query. -/
def runQuery : Nat → Context → Frames → Bound.Query → Outcome (Array (Array Datum))
  | 0, _, _, _ => exhausted
  | n + 1, ctx, env, .mk ctes first rest colls order limit offset => do
    let lim ← match limit with
      | some l => do countValue (← eval n ctx env l)
      | none => pure (-1)
    let off ← match offset with
      | some o => do countValue (← eval n ctx env o)
      | none => pure 0
    if lim == 0 then pure #[]
    else
      let ctx ← materialize n ctx env ctes
      let firstRows ← runCore n ctx env first
      let rows ← match rest with
        | [] =>
          match order with
          | .byKeys flags =>
            pure ((sortKeyed flags (firstRows.toList.map fun (r, k) => (k.toList, r))).map (·.2)).toArray
          | .byColumns cols => pure (sortByColumns cols (firstRows.map (·.1)))
          | .none => pure (firstRows.map (·.1))
        | _ => do
          let combined ← chain n ctx env colls rest (firstRows.map (·.1))
          match order with
          | .byColumns cols => pure (sortByColumns cols combined)
          | _ => pure combined
      let rows := if off > 0 then rows.extract off.toNat rows.size else rows
      pure (if lim > 0 then rows.extract 0 lim.toNat else rows)
termination_by structural fuel => fuel

/-- Combines the later selects of a chain into the rows so far. -/
def chain : Nat → Context → Frames → List Collation → List (CompoundOp × Bound.Core) → Array (Array Datum) →
    Outcome (Array (Array Datum))
  | 0, _, _, _, _, _ => exhausted
  | _ + 1, _, _, _, [], acc => pure acc
  | n + 1, ctx, env, colls, (op, c) :: rest, acc => do
    let rows ← runCore n ctx env c
    chain n ctx env colls rest (combineRows colls op acc (rows.map (·.1)))
termination_by structural fuel => fuel

/-- Computes the common tables of a `with`, each seeing those before it. -/
def materialize : Nat → Context → Frames → List Bound.Common → Outcome Context
  | 0, _, _, _ => exhausted
  | _ + 1, ctx, _, [] => pure ctx
  | n + 1, ctx, env, c :: rest =>
    match c with
    | .plain id q => do
      let rows ← runQuery n ctx env q
      materialize n { ctx with ctes := (id, rows) :: ctx.ctes } env rest
    | .recursive id seed steps distinct order limit offset => do
      let lim ← match limit with
        | some l => do countValue (← eval n ctx env l)
        | none => pure (-1)
      let off ← match offset with
        | some o => do countValue (← eval n ctx env o)
        | none => pure 0
      let seedRows ← runQuery n ctx env seed
      let colls := distinct.getD []
      let seedList := match distinct with
        | some _ => (firstOfEqual colls (seedRows.toList.map fun r => (r, r))).map (·.1)
        | none => seedRows.toList
      let keys ← perFrame n ctx [] (order.map orderExpr) (seedList.map Frame.ofRow) []
      let all ← grow n ctx env id steps distinct (order.map orderFlags) (order.map orderExpr)
        (keys.zip seedList) seedList #[] off lim recursionCap
      materialize n { ctx with ctes := (id, all) :: ctx.ctes } env rest
termination_by structural fuel => fuel

/-- Takes rows from the queue of a recursive common table until it is empty or the limit is
reached, queueing what the steps make of each. -/
def grow : Nat → Context → Frames → Nat → List Bound.Core → Option (List Collation) →
    List (Bool × Bool × Collation) → List Bound.Expr → List (List Datum × Array Datum) → List (Array Datum) →
    Array (Array Datum) → Int → Int → Nat → Outcome (Array (Array Datum))
  | 0, _, _, _, _, _, _, _, _, _, _, _, _, _ => exhausted
  | n + 1, ctx, env, id, steps, distinct, flags, keyExprs, queue, seen, out, off, lim, cap =>
    let next := if flags.isEmpty then queue.head?.map fun (_, r) => (r, queue.tail)
      else takeLeast flags queue
    match next, cap with
    | none, _ => pure out
    | _, 0 => pure out
    | some (r, queue), cap' + 1 =>
      let (out, off) := if off > 0 then (out, off - 1) else (out.push r, off)
      if lim ≥ 0 && out.size ≥ lim.toNat then pure out
      else do
        let ctx' := { ctx with ctes := (id, #[r]) :: ctx.ctes }
        let produced ← stepRows n ctx' env steps #[]
        let (fresh, seen) := match distinct with
          | some colls => produced.foldl (fun (acc : Array (Array Datum) × List (Array Datum)) p =>
              if acc.2.any (sameRow colls · p) then acc else (acc.1.push p, p :: acc.2)) (#[], seen)
          | none => (produced, seen)
        let keys ← perFrame n ctx [] keyExprs (fresh.toList.map Frame.ofRow) []
        grow n ctx env id steps distinct flags keyExprs (queue ++ keys.zip fresh.toList) seen out off lim cap'
termination_by structural fuel => fuel

/-- The rows of the steps of a recursive common table, in order. -/
def stepRows : Nat → Context → Frames → List Bound.Core → Array (Array Datum) →
    Outcome (Array (Array Datum))
  | 0, _, _, _, _ => exhausted
  | _ + 1, _, _, [], acc => pure acc
  | n + 1, ctx, env, c :: cs, acc => do
    let rows ← runCore n ctx env c
    stepRows n ctx env cs (acc ++ rows.map (·.1))
termination_by structural fuel => fuel

/-- The rows of a simple select, each with its ordering keys. -/
def runCore : Nat → Context → Frames → Bound.Core → Outcome (Array (Array Datum × Array Datum))
  | 0, _, _, _ => exhausted
  | n + 1, ctx, env, .values rows => do
    let out ← valueRows n ctx env rows #[]
    pure (out.map fun r => (r, #[]))
  | n + 1, ctx, env, .select source filter groupBy having columns aggs wins grouped scanGrouped distinct
      orderKeys width => do
    let rows ← readSource n ctx env 0 source
    let kept ← keepRows n ctx env filter rows.toList []
    let frames ← if grouped then groupFrames n ctx env groupBy having aggs width scanGrouped kept
      else pure (kept.map Frame.ofRow)
    let frames ← if wins.isEmpty then pure frames else windowFrames n ctx env wins frames
    let out ← project n ctx env columns orderKeys frames []
    match distinct with
    | some colls => pure (firstOfEqual colls out).toArray
    | none => pure out.toArray
termination_by structural fuel => fuel

/-- Evaluates rows of values. -/
def valueRows : Nat → Context → Frames → List (List Bound.Expr) → Array (Array Datum) →
    Outcome (Array (Array Datum))
  | 0, _, _, _, _ => exhausted
  | _ + 1, _, _, [], acc => pure acc
  | n + 1, ctx, env, r :: rs, acc => do
    let vals ← evalList n ctx env r
    valueRows n ctx env rs (acc.push vals.toArray)
termination_by structural fuel => fuel

/-- The rows a filter holds for. -/
def keepRows : Nat → Context → Frames → Option Bound.Expr → List (Array Datum) → List (Array Datum) →
    Outcome (List (Array Datum))
  | 0, _, _, _, _, _ => exhausted
  | _ + 1, _, _, _, [], acc => pure acc.reverse
  | n + 1, ctx, env, filter, r :: rs, acc => do
    let keep ← match filter with
      | some f => do pure ((← eval n ctx (Frame.ofRow r :: env) f).truth? == some true)
      | none => pure true
    keepRows n ctx env filter rs (if keep then r :: acc else acc)
termination_by structural fuel => fuel

/-- Sorts rows stably by ordering keys computed over each row alone. -/
def orderRows : Nat → Context → List Bound.OrderKey → List (Array Datum) → Outcome (List (Array Datum))
  | 0, _, _, _ => exhausted
  | n + 1, ctx, keys, rows =>
    if keys.isEmpty then pure rows
    else do
      let ks ← perFrame n ctx [] (keys.map orderExpr) (rows.map Frame.ofRow) []
      pure ((sortKeyed (keys.map orderFlags) (ks.zip rows)).map (·.2))
termination_by structural fuel => fuel

/-- The frames of the groups of rows that the group filter keeps. -/
def groupFrames : Nat → Context → Frames → List (Bound.Expr × Collation) → Option Bound.Expr →
    List Bound.Aggregate → Nat → Bool → List (Array Datum) → Outcome (List Frame)
  | 0, _, _, _, _, _, _, _, _ => exhausted
  | n + 1, ctx, env, groupBy, having, aggs, width, scanGrouped, rows => do
    let groups ←
      if groupBy.isEmpty then pure [rows]
      else do
        let keys ← perFrame n ctx env (groupBy.map (·.1)) (rows.map Frame.ofRow) []
        let colls := groupBy.map (·.2)
        let keyed := keys.zip rows
        let sorted := if scanGrouped then keyed else sortKeyed (colls.map fun c => (false, true, c)) keyed
        pure ((Window.runs (fun a b => Window.sameKeys colls a.1 b.1) sorted).map (·.map (·.2)))
    groupList n ctx env having aggs width groups []
termination_by structural fuel => fuel

/-- The frame of each group, kept when the group filter holds for it. -/
def groupList : Nat → Context → Frames → Option Bound.Expr → List Bound.Aggregate → Nat →
    List (List (Array Datum)) → List Frame → Outcome (List Frame)
  | 0, _, _, _, _, _, _, _ => exhausted
  | _ + 1, _, _, _, _, _, [], acc => pure acc.reverse
  | n + 1, ctx, env, having, aggs, width, g :: gs, acc => do
    let (values, extreme) ← aggregateValues n ctx env aggs g [] none
    let marks := (aggs.map Bound.Aggregate.marksJson).toArray
    let frame : Frame := { row := representative g extreme width, aggregates := values.toArray, aggregateMarks := marks }
    let keep ← match having with
      | some h => do pure ((← eval n ctx (frame :: env) h).truth? == some true)
      | none => pure true
    groupList n ctx env having aggs width gs (if keep then frame :: acc else acc)
termination_by structural fuel => fuel

/-- The values of the aggregates over the rows of a group, with what the last `min` or `max`
saw, row by row. -/
def aggregateValues : Nat → Context → Frames → List Bound.Aggregate → List (Array Datum) → List Datum →
    Option (Bool × Collation × List (Array Datum × Datum)) →
    Outcome (List Datum × Option (Bool × Collation × List (Array Datum × Datum)))
  | 0, _, _, _, _, _, _ => exhausted
  | _ + 1, _, _, [], _, acc, extreme => pure (acc.reverse, extreme)
  | n + 1, ctx, env, .mk f args distinct filter order coll :: rest, rows, acc, extreme => do
    let kept ← keepRows n ctx env filter rows []
    let sorted ← if order.isEmpty then pure kept
      else do
        let ks ← perFrame n ctx env (order.map orderExpr) (kept.map Frame.ofRow) []
        pure ((sortKeyed (order.map orderFlags) (ks.zip kept)).map (·.2))
    let tagged ← if f == .jsonGroupArray || f == .jsonGroupObject || f == .jsonbGroupArray || f == .jsonbGroupObject then
        perFrameTagged n ctx env args (sorted.map Frame.ofRow) []
      else do
        let rows ← perFrame n ctx env args (sorted.map Frame.ofRow) []
        pure (rows.map fun r => r.map fun d => (d, false))
    let argRows := tagged.map fun r => r.map (·.1)
    let v ← finishAggregate f distinct coll argRows (tagged.map fun r => r.map (·.2))
    let extreme := if f == .min || f == .max then
        some (f == .max, coll, sorted.zip (argRows.map fun r => r.headD .null))
      else extreme
    aggregateValues n ctx env rest rows (v :: acc) extreme
termination_by structural fuel => fuel

/-- The frames of a select with the values of its window functions, in the order the first
window leaves them. -/
def windowFrames : Nat → Context → Frames → List Bound.Window → List Frame → Outcome (List Frame)
  | 0, _, _, _, _ => exhausted
  | n + 1, ctx, env, wins, frames => do
    let arr := frames.toArray
    let blank := Array.replicate wins.length Datum.null
    let (order, values) ← windowPasses n ctx env arr wins.zipIdx.reverse (List.range arr.size)
      (Array.replicate arr.size blank)
    pure (order.filterMap fun i => (arr[i]?).map fun (f : Frame) => { f with windows := values[i]?.getD blank })
termination_by structural fuel => fuel

/-- Computes windows one by one, each sorting the frames stably from the order the one
before left. -/
def windowPasses : Nat → Context → Frames → Array Frame → List (Bound.Window × Nat) → List Nat →
    Array (Array Datum) → Outcome (List Nat × Array (Array Datum))
  | 0, _, _, _, _, _, _ => exhausted
  | _ + 1, _, _, _, [], order, values => pure (order, values)
  | n + 1, ctx, env, frames, (.mk call partition order unit start finish exclude filter, k) :: rest, current,
      values => do
    let inOrder := current.filterMap (frames[·]?)
    let parts ← perFrame n ctx env (partition.map (·.1)) inOrder []
    let ords ← perFrame n ctx env (order.map orderExpr) inOrder []
    let (kind, args, ownFilter) : WindowKind × List Bound.Expr × Option Bound.Expr := match call with
      | .aggregate (.mk f args distinct afilter _ coll) =>
        (.aggregate f distinct coll (args.map producesJson), args, afilter)
      | .special f args => (.special f, args, none)
    let argVals ← perFrame n ctx env args inOrder []
    let keeps ← match filter.orElse fun _ => ownFilter with
      | some fe => do
        let vs ← perFrame n ctx env [fe] inOrder []
        pure (vs.map fun v => (v.headD .null).truth? == some true)
      | none => pure (inOrder.map fun _ => true)
    let s ← frameEnd n ctx env start
    let e ← frameEnd n ctx env finish
    let inputs := (((current.zip parts).zip (ords.zip argVals)).zip keeps).map
      fun (((i, p), (o, a)), keep) => ({ partition := p, order := o, args := a, keep := keep, index := i } : WindowInput)
    let shape : WindowShape := {
      partitionCollations := partition.map (·.2), orderFlags := order.map orderFlags,
      unit := unit, start := s, finish := e, exclude := exclude }
    let computed ← Window.compute kind shape inputs
    let values := computed.foldl (fun (acc : Array (Array Datum)) (i, v) =>
      acc.modify i fun row => row.modify k fun _ => v) values
    windowPasses n ctx env frames rest (computed.map (·.1)) values
termination_by structural fuel => fuel

/-- One end of a window frame, its offset evaluated. -/
def frameEnd : Nat → Context → Frames → Bound.FrameEdge → Outcome FrameEnd
  | 0, _, _, _ => exhausted
  | n + 1, ctx, env, edge =>
    match edge with
    | .unboundedPreceding => pure .unboundedPreceding
    | .preceding x => do pure (.preceding (← eval n ctx env x))
    | .currentRow => pure .currentRow
    | .following x => do pure (.following (← eval n ctx env x))
    | .unboundedFollowing => pure .unboundedFollowing
termination_by structural fuel => fuel

/-- The result columns and ordering keys of each frame. -/
def project : Nat → Context → Frames → List Bound.Expr → List Bound.Expr → List Frame →
    List (Array Datum × Array Datum) → Outcome (List (Array Datum × Array Datum))
  | 0, _, _, _, _, _, _ => exhausted
  | _ + 1, _, _, _, _, [], acc => pure acc.reverse
  | n + 1, ctx, env, columns, keys, f :: fs, acc => do
    let vals ← evalList n ctx (f :: env) columns
    let ks ← evalList n ctx (f :: env) keys
    project n ctx env columns keys fs ((vals.toArray, ks.toArray) :: acc)
termination_by structural fuel => fuel

/-- The rows of a source whose first slot is `base` in the select's row. -/
def readSource : Nat → Context → Frames → Nat → Bound.Source → Outcome (Array (Array Datum))
  | 0, _, _, _, _ => exhausted
  | n + 1, ctx, env, base, src =>
    match src with
    | .single => pure #[#[]]
    | .table ref order =>
      match (ctx.catalog.db? ref.schema).bind (·.table? ref.name) with
      | some t => do
        let keys := if order.isEmpty then Binder.naturalKeys t else order
        let rows ← orderRows n ctx keys (storedRows t).toList
        pure rows.toArray
      | none => throw (Failure.general ("no such table: " ++ ref.name))
    | .derived q => runQuery n ctx env q
    | .common id => pure ((ctx.ctes.lookup id).getD #[])
    | .rows rs => pure rs
    | .virtual ref searches =>
      match (ctx.catalog.db? ref.schema).bind (·.table? ref.name) with
      | some t => do
        let qs ← evalList n ctx (Frame.ofRow (Array.replicate base .null) :: env) (searches.map (·.2))
        Virtual.readRows t ((searches.map (·.1)).zip qs)
      | none => throw (Failure.general ("no such table: " ++ ref.name))
    | .jsonEach recursive args => do
      let vals ← evalList n ctx (Frame.ofRow (Array.replicate base .null) :: env) args
      pure (← functionRows ctx (.jsonEach recursive args) vals).toArray
    | .pragma name args => do
      let vals ← evalList n ctx (Frame.ofRow (Array.replicate base .null) :: env) args
      pure (← functionRows ctx (.pragma name args) vals).toArray
    | .join l op (.jsonEach recursive args) on _ rw => do
      let ls ← readSource n ctx env base l
      lateralJoin n ctx env op on (Array.replicate base Datum.null) rw (.jsonEach recursive args) args ls.toList #[]
    | .join l op (.pragma name args) on _ rw => do
      let ls ← readSource n ctx env base l
      lateralJoin n ctx env op on (Array.replicate base Datum.null) rw (.pragma name args) args ls.toList #[]
    | .join l op r on lw rw => do
      let ls ← readSource n ctx env base l
      let rs ← readSource n ctx env (base + lw) r
      let pad := Array.replicate base Datum.null
      let (joined, matched) ← joinRows n ctx env op on pad rw rs.toList ls.toList #[] []
      if op == .right || op == .full then
        let unmatched := rs.toList.zipIdx.filterMap fun (row, j) =>
          if matched.contains j then none else some (Array.replicate lw Datum.null ++ row)
        pure (joined ++ unmatched.toArray)
      else pure joined
    | .nested parts loops conds => do
      let total := parts.foldl (fun w p => match p with | .mk _ o wd _ _ => max w (o + wd)) base
      let ready ← readyParts n ctx env total parts #[]
      let rows ← nestedRows n ctx env ready loops (Array.replicate total .null) #[]
      let kept ← keepAll n ctx env conds rows.toList
      pure (kept.map (·.extract base total)).toArray
termination_by structural fuel => fuel

/-- The tables of nested loops made ready, each read in its loop's order. -/
def readyParts : Nat → Context → Frames → Nat → List Bound.Part → Array ReadyPart → Outcome (Array ReadyPart)
  | 0, _, _, _, _, _ => exhausted
  | _ + 1, _, _, _, [], acc => pure acc
  | n + 1, ctx, env, total, .mk ref offset width outer access :: rest, acc =>
    match (ctx.catalog.db? ref.schema).bind (·.table? ref.name) with
    | some t => do
      let p ← readyAccess n ctx env offset total (storedRows t).toList access
      readyParts n ctx env total rest (acc.push ⟨offset, width, outer, p⟩)
    | none => throw (Failure.general ("no such table: " ++ ref.name))
termination_by structural fuel => fuel

/-- A stored table's rows in the order a read order gives them; its keys read the rows placed
at their slots of a row of `total` slots. -/
def readyAccess : Nat → Context → Frames → Nat → Nat → List (Array Datum) → Bound.Access → Outcome LoopSource
  | 0, _, _, _, _, _, _ => exhausted
  | n + 1, ctx, env, offset, total, rows, .sorted keys =>
    if keys.isEmpty then pure (.rows rows)
    else do
      let frames := rows.map fun r => Frame.ofRow (placeAt (Array.replicate total .null) offset r)
      let ks ← perFrame n ctx env (keys.map orderExpr) frames []
      pure (.rows ((sortKeyed (keys.map orderFlags) (ks.zip rows)).map (·.2)))
  | n + 1, ctx, env, offset, total, rows, .anyOf arms => do
    pure (.anyOf (← readyArms n ctx env offset total rows arms []))
termination_by structural fuel => fuel

/-- The arms of a read order made ready. -/
def readyArms : Nat → Context → Frames → Nat → Nat → List (Array Datum) → List (Bound.Expr × Bound.Access) →
    List (Bound.Expr × LoopSource) → Outcome (List (Bound.Expr × LoopSource))
  | 0, _, _, _, _, _, _, _ => exhausted
  | _ + 1, _, _, _, _, _, [], acc => pure acc.reverse
  | n + 1, ctx, env, offset, total, rows, (e, a) :: rest, acc => do
    let p ← readyAccess n ctx env offset total rows a
    readyArms n ctx env offset total rows rest ((e, p) :: acc)
termination_by structural fuel => fuel

/-- The rows a loop reads with the row made so far. Arms are read in turn, each giving the
rows its condition holds for, less the rows an earlier arm gave, known by their row id. -/
def candidates : Nat → Context → Frames → Nat → Array Datum → LoopSource → Outcome (List (Array Datum))
  | 0, _, _, _, _, _ => exhausted
  | _ + 1, _, _, _, _, .rows rs => pure rs
  | n + 1, ctx, env, offset, row, .anyOf arms => armRows n ctx env offset row arms [] []
termination_by structural fuel => fuel

/-- The rows of the arms from the first of `arms` on, after those in `acc` (reversed). -/
def armRows : Nat → Context → Frames → Nat → Array Datum → List (Bound.Expr × LoopSource) → List Int →
    List (Array Datum) → Outcome (List (Array Datum))
  | 0, _, _, _, _, _, _, _ => exhausted
  | _ + 1, _, _, _, _, [], _, acc => pure acc.reverse
  | n + 1, ctx, env, offset, row, (cond, p) :: rest, seen, acc => do
    let rs ← candidates n ctx env offset row p
    let (seen, acc) ← armKeep n ctx env offset row cond rs seen acc
    armRows n ctx env offset row rest seen acc
termination_by structural fuel => fuel

/-- The rows of one arm its condition holds for and no earlier arm gave. -/
def armKeep : Nat → Context → Frames → Nat → Array Datum → Bound.Expr → List (Array Datum) → List Int →
    List (Array Datum) → Outcome (List Int × List (Array Datum))
  | 0, _, _, _, _, _, _, _, _ => exhausted
  | _ + 1, _, _, _, _, _, [], seen, acc => pure (seen, acc)
  | n + 1, ctx, env, offset, row, cond, r :: rs, seen, acc => do
    let id := storedRowid r
    if seen.contains id then armKeep n ctx env offset row cond rs seen acc
    else
      let holds := (← eval n ctx (Frame.ofRow (placeAt row offset r) :: env) cond).truth? == some true
      if holds then armKeep n ctx env offset row cond rs (id :: seen) (r :: acc)
      else armKeep n ctx env offset row cond rs seen acc
termination_by structural fuel => fuel

/-- The rows nested loops make, the loops from the first of `loops` on reading with the row
made so far by the loops outside them. The right side of a left join whose condition no row
meets gives one row of nulls. -/
def nestedRows : Nat → Context → Frames → Array ReadyPart → List Nat → Array Datum →
    Array (Array Datum) → Outcome (Array (Array Datum))
  | 0, _, _, _, _, _, _ => exhausted
  | _ + 1, _, _, _, [], row, acc => pure (acc.push row)
  | n + 1, ctx, env, parts, j :: rest, row, acc =>
    match parts[j]? with
    | none => pure acc
    | some p => do
      let rs ← candidates n ctx env p.offset row p.rows
      match p.outer with
      | none => eachRow n ctx env parts rest row p.offset rs acc
      | some on => do
        let hits ← joinHits n ctx env on row p.offset rs []
        if hits.isEmpty then
          nestedRows n ctx env parts rest (placeAt row p.offset (Array.replicate p.width .null)) acc
        else eachRow n ctx env parts rest row p.offset hits acc
termination_by structural fuel => fuel

/-- Runs the loops in `rest` once for each row a loop read. -/
def eachRow : Nat → Context → Frames → Array ReadyPart → List Nat → Array Datum → Nat →
    List (Array Datum) → Array (Array Datum) → Outcome (Array (Array Datum))
  | 0, _, _, _, _, _, _, _, _ => exhausted
  | _ + 1, _, _, _, _, _, _, [], acc => pure acc
  | n + 1, ctx, env, parts, rest, row, offset, r :: rs, acc => do
    let acc ← nestedRows n ctx env parts rest (placeAt row offset r) acc
    eachRow n ctx env parts rest row offset rs acc
termination_by structural fuel => fuel

/-- The rows a join condition holds for with the row made so far. -/
def joinHits : Nat → Context → Frames → Option Bound.Expr → Array Datum → Nat → List (Array Datum) →
    List (Array Datum) → Outcome (List (Array Datum))
  | 0, _, _, _, _, _, _, _ => exhausted
  | _ + 1, _, _, _, _, _, [], acc => pure acc.reverse
  | n + 1, ctx, env, on, row, offset, r :: rs, acc => do
    let holds ← match on with
      | some c => do pure ((← eval n ctx (Frame.ofRow (placeAt row offset r) :: env) c).truth? == some true)
      | none => pure true
    joinHits n ctx env on row offset rs (if holds then r :: acc else acc)
termination_by structural fuel => fuel

/-- The rows every condition holds for. -/
def keepAll : Nat → Context → Frames → List Bound.Expr → List (Array Datum) → Outcome (List (Array Datum))
  | 0, _, _, _, _ => exhausted
  | _ + 1, _, _, [], rows => pure rows
  | n + 1, ctx, env, c :: cs, rows => do
    let rows ← keepRows n ctx env (some c) rows []
    keepAll n ctx env cs rows
termination_by structural fuel => fuel

/-- Joins each left row with the rows a table-valued function gives for it, its arguments
read in the left row; a left join keeps a left row without partner, with nulls on the
right. -/
def lateralJoin : Nat → Context → Frames → JoinOp → Option Bound.Expr → Array Datum → Nat →
    Bound.Source → List Bound.Expr → List (Array Datum) → Array (Array Datum) → Outcome (Array (Array Datum))
  | 0, _, _, _, _, _, _, _, _, _, _ => exhausted
  | _ + 1, _, _, _, _, _, _, _, _, [], acc => pure acc
  | n + 1, ctx, env, op, on, pad, rw, src, args, l :: ls, acc => do
    let vals ← evalList n ctx (Frame.ofRow (pad ++ l) :: env) args
    let rs ← functionRows ctx src vals
    let (joined, _) ← joinRows n ctx env op on pad rw rs [l] acc []
    lateralJoin n ctx env op on pad rw src args ls joined
termination_by structural fuel => fuel

/-- Joins each left row with the right rows the condition holds for; a left or full join
keeps a left row without partner, with nulls on the right. Also gives which right rows met
a partner. -/
def joinRows : Nat → Context → Frames → JoinOp → Option Bound.Expr → Array Datum → Nat →
    List (Array Datum) → List (Array Datum) → Array (Array Datum) → List Nat →
    Outcome (Array (Array Datum) × List Nat)
  | 0, _, _, _, _, _, _, _, _, _, _ => exhausted
  | _ + 1, _, _, _, _, _, _, _, [], acc, matched => pure (acc, matched)
  | n + 1, ctx, env, op, on, pad, rw, rs, l :: ls, acc, matched => do
    let hits ← partners n ctx env on (pad ++ l) rs.zipIdx []
    let acc := if hits.isEmpty && (op == .left || op == .full) then acc.push (l ++ Array.replicate rw .null)
      else acc ++ (hits.filterMap fun j => rs[j]?.map (l ++ ·)).toArray
    joinRows n ctx env op on pad rw rs ls acc (matched ++ hits)
termination_by structural fuel => fuel

/-- The positions of the right rows a join condition holds for with a left row. -/
def partners : Nat → Context → Frames → Option Bound.Expr → Array Datum → List (Array Datum × Nat) →
    List Nat → Outcome (List Nat)
  | 0, _, _, _, _, _, _ => exhausted
  | _ + 1, _, _, _, _, [], acc => pure acc.reverse
  | n + 1, ctx, env, on, left, (r, j) :: rest, acc => do
    let holds ← match on with
      | some c => do pure ((← eval n ctx (Frame.ofRow (left ++ r) :: env) c).truth? == some true)
      | none => pure true
    partners n ctx env on left rest (if holds then j :: acc else acc)
termination_by structural fuel => fuel

end

end QueryDoc.Store
