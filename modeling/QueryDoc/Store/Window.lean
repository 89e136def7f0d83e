import QueryDoc.Store.Accumulate

/-!
Window functions over the rows of a select.

Rows are sorted by their partition values, then by the window's ordering; rows of equal
partition values form a partition, and within it rows of equal ordering values are peers.
Each row sees a frame of rows of its partition: by rows counted from it (`rows`), by peer
groups counted from its own (`groups`), or by ordering values near its own (`range`), some
of which may be left out (`exclude`). An aggregate over a window folds the frame's rows;
`row_number`, `rank`, `dense_rank`, `percent_rank`, `cume_dist` and `ntile` depend only on
the row's place among the partition's rows and peers; `lag` and `lead` read another row of
the partition; `first_value`, `last_value` and `nth_value` read a row of the frame.
-/

namespace QueryDoc.Store

/-- One end of a window frame, its offset evaluated. -/
inductive FrameEnd where
  | unboundedPreceding
  | preceding (k : Datum)
  | currentRow
  | following (k : Datum)
  | unboundedFollowing

/-- A window function's input for one row: its partition and ordering values, its arguments,
whether its filter keeps it, and its place among the select's rows. -/
structure WindowInput where
  partition : List Datum
  order : List Datum
  args : List Datum
  keep : Bool
  index : Nat

/-- What a window function computes. -/
inductive WindowKind where
  | aggregate (f : AggregateFn) (distinct : Bool) (collation : Collation) (jsonArgs : List Bool)
  | special (f : WindowFn)

/-- How a window sorts and frames rows. -/
structure WindowShape where
  partitionCollations : List Collation
  /-- For each ordering value: descending, nulls first, collation. -/
  orderFlags : List (Bool × Bool × Collation)
  unit : FrameUnit
  start : FrameEnd
  finish : FrameEnd
  exclude : FrameExclude

namespace Window

/-- Orders two values as a key: under a collation, nulls where asked, maybe descending. -/
def compareKey (desc nullsFirst : Bool) (coll : Collation) (a b : Datum) : Ordering :=
  match a.isNull, b.isNull with
  | true, true => .eq
  | true, false => if nullsFirst then .lt else .gt
  | false, true => if nullsFirst then .gt else .lt
  | false, false =>
    let c := a.compareWith coll b
    if desc then c.swap else c

/-- Orders two lists of values key by key. -/
def compareKeys : List (Bool × Bool × Collation) → List Datum → List Datum → Ordering
  | (d, nf, c) :: fs, a :: as, b :: bs =>
    match compareKey d nf c a b with
    | .eq => compareKeys fs as bs
    | o => o
  | _, _, _ => .eq

/-- Whether two lists of values are equal under their collations. -/
def sameKeys : List Collation → List Datum → List Datum → Bool
  | c :: cs, a :: as, b :: bs => (a.isNull && b.isNull || (!a.isNull && !b.isNull && a.sameWith c b)) &&
      sameKeys cs as bs
  | _, _, _ => true

/-- Splits a list into runs of neighbours the test puts together. -/
def runs {α : Type} (same : α → α → Bool) : List α → List (List α)
  | [] => []
  | x :: xs =>
    let step (acc : List (List α)) (y : α) : List (List α) :=
      match acc with
      | (z :: zs) :: rest => if same z y then (y :: z :: zs) :: rest else [y] :: (z :: zs) :: rest
      | _ => [y] :: acc
    ((xs.foldl step [[x]]).map List.reverse).reverse

/-- The integer an offset is, when it is a non-negative integer. -/
def offsetCount (d : Datum) : Option Nat :=
  match d.numberIfNumeric with
  | .integer k => if k ≥ 0 then some k.toNat else none
  | .real x =>
    match integralValue? x with
    | some k => if k ≥ 0 then some k.toNat else none
    | none => none
  | _ => none

/-- Checks the offsets of a frame: whole numbers for `rows` and `groups`, numbers for
`range`, never negative. -/
def checkOffsets (shape : WindowShape) : Outcome Unit := do
  let check (e : FrameEnd) (which : String) : Outcome Unit :=
    match e with
    | .preceding k | .following k =>
      if shape.unit == .range then
        match k.numberIfNumeric with
        | .integer i => if i ≥ 0 then pure () else throw (Failure.general ("frame " ++ which ++ " offset must be a non-negative number"))
        | .real x => if x ≥ 0.0 then pure () else throw (Failure.general ("frame " ++ which ++ " offset must be a non-negative number"))
        | _ => throw (Failure.general ("frame " ++ which ++ " offset must be a non-negative number"))
      else if (offsetCount k).isSome then pure ()
      else throw (Failure.general ("frame " ++ which ++ " offset must be a non-negative integer"))
    | _ => pure ()
  check shape.start "starting"
  check shape.finish "ending"

/-- The numeric value of an ordering value, for frames by value. -/
def numericOf (d : Datum) : Option Float :=
  match d.numberIfNumeric with
  | .integer i => some (intToFloat i)
  | .real x => some x
  | _ => none

/-- The first and the last position, within a partition, of a row's frame before rows are
excluded from it; the frame is empty when the first comes after the last. -/
def frameBounds (shape : WindowShape) (orderVals : Array (List Datum)) (groupOf : Array Nat)
    (groupStart groupEnd : Array Nat) (m p : Nat) : Int × Int :=
  let g := groupOf[p]?.getD 0
  let gs := groupStart[g]?.getD p
  let ge := groupEnd[g]?.getD p
  let groups := groupStart.size
  let asInt (k : Datum) : Int := ((offsetCount k).getD 0 : Nat)
  let valueBound (k : Datum) (forward : Bool) (isStart : Bool) : Int :=
    -- rows whose single ordering value lies within `k` of this row's
    let desc := ((shape.orderFlags.head?).map (·.1)).getD false
    match (orderVals[p]?.bind List.head?).bind numericOf, numericOf k with
    | some v, some kk =>
      let target := if forward != desc then v + kk else v - kk
      let inRange (r : Nat) : Bool :=
        match (orderVals[r]?.bind List.head?).bind numericOf with
        | some w =>
          if isStart then (if desc then w ≤ target else w ≥ target)
          else (if desc then w ≥ target else w ≤ target)
        | none => false
      if isStart then
        ((List.range m).find? inRange).map (fun r => (r : Int)) |>.getD m
      else
        ((List.range m).reverse.find? inRange).map (fun r => (r : Int)) |>.getD (-1)
    | _, _ => if isStart then gs else ge
  let lo : Int := match shape.start with
    | .unboundedPreceding => 0
    | .currentRow => if shape.unit == .rows then p else gs
    | .preceding k =>
      match shape.unit with
      | .rows => (p : Int) - asInt k
      | .groups => groupStart[(((g : Int) - asInt k).toNat)]?.getD 0
      | .range => valueBound k false true
    | .following k =>
      match shape.unit with
      | .rows => (p : Int) + asInt k
      | .groups =>
        let t := (g : Int) + asInt k
        if t ≥ groups then m else groupStart[t.toNat]?.getD m
      | .range => valueBound k true true
    | .unboundedFollowing => m
  let hi : Int := match shape.finish with
    | .unboundedFollowing => (m : Int) - 1
    | .currentRow => if shape.unit == .rows then p else ge
    | .preceding k =>
      match shape.unit with
      | .rows => (p : Int) - asInt k
      | .groups =>
        let t := (g : Int) - asInt k
        if t < 0 then -1 else groupEnd[t.toNat]?.getD 0
      | .range => valueBound k false false
    | .following k =>
      match shape.unit with
      | .rows => (p : Int) + asInt k
      | .groups =>
        let t := (g : Int) + asInt k
        if t ≥ groups then (m : Int) - 1 else groupEnd[t.toNat]?.getD 0
      | .range => valueBound k true false
    | .unboundedPreceding => -1
  (max lo 0, min hi ((m : Int) - 1))

/-- The positions, within a partition, of the rows of a row's frame. -/
def frameRows (shape : WindowShape) (orderVals : Array (List Datum)) (groupOf : Array Nat)
    (groupStart groupEnd : Array Nat) (m p : Nat) : List Nat :=
  let g := groupOf[p]?.getD 0
  let gs := groupStart[g]?.getD p
  let ge := groupEnd[g]?.getD p
  let (lo, hi) := frameBounds shape orderVals groupOf groupStart groupEnd m p
  let rows : List Nat := if lo > hi then [] else (List.range (hi - lo + 1).toNat).map fun (i : Nat) => (lo + (i : Int)).toNat
  match shape.exclude with
  | .noOthers => rows
  | .currentRow => rows.filter (· != p)
  | .group => rows.filter fun r => r < gs || r > ge
  | .ties => rows.filter fun r => r == p || r < gs || r > ge

/-- The running sums of a frame that slides along a partition, row by row. As the frame
moves on, the rows that leave it are taken out of the sum and the rows that enter it are
added, so a sum that has once held a double stays a double. A row that the frame passes over
without holding it is never added. `value` gives a row's argument, none when the filter
drops the row. -/
def slidingSums (bounds : List (Int × Int)) (value : Nat → Option Datum) : List SumState :=
  let apply (op : SumState → Datum → SumState) (s : SumState) (rows : List Nat) : SumState :=
    rows.foldl (fun s r => match value r with
      | some d => op s d
      | none => s) s
  let move (acc : List SumState × SumState × Nat × Nat) (b : Int × Int) :
      List SumState × SumState × Nat × Nat :=
    let (out, s, added, removed) := acc
    let lo := b.1.toNat
    let next := (b.2 + 1).toNat
    let s := apply SumState.unstep s (List.range' removed (min lo added - removed))
    let removed := max removed lo
    let start := max added lo
    let s := apply SumState.step s (List.range' start (next - start))
    (s :: out, s, max added next, removed)
  (bounds.foldl move ([], SumState.empty, 0, 0)).1.reverse

/-- Whether an aggregate over a frame is kept as a running sum as the frame slides: `sum`,
`total` and `avg` over a frame whose start moves and that excludes no rows. -/
def slides (f : AggregateFn) (shape : WindowShape) : Bool :=
  (f == .sum || f == .total || f == .avg) && shape.exclude == .noOthers &&
    match shape.start with
    | .unboundedPreceding => false
    | _ => true

/-- The values of a window function for the rows of one partition, in order. -/
def partitionValues (kind : WindowKind) (shape : WindowShape) (rows : List WindowInput) :
    Outcome (List Datum) := do
  let m := rows.length
  let arr := rows.toArray
  let orderColls := shape.orderFlags.map (·.2.2)
  let peerRuns := runs (fun (a b : WindowInput) => sameKeys orderColls a.order b.order) rows
  let groupSizes := peerRuns.map List.length
  let groupStart := (groupSizes.foldl (fun (acc : Array Nat × Nat) k => (acc.1.push acc.2, acc.2 + k)) (#[], 0)).1
  let groupEnd := (groupStart.toList.zip groupSizes).toArray.map fun (s, k) => s + k - 1
  let groupOf := (groupSizes.zipIdx.flatMap fun (k, g) => List.replicate k g).toArray
  let orderVals := arr.map (·.order)
  let arg (p i : Nat) : Datum := ((arr[p]?).bind (·.args[i]?)).getD .null
  let sums : Array SumState := match kind with
    | .aggregate f false _ _ =>
      if slides f shape then
        let bounds := (List.range m).map (frameBounds shape orderVals groupOf groupStart groupEnd m)
        (slidingSums bounds fun r => (arr[r]?).bind fun i => if i.keep then some (arg r 0) else none).toArray
      else #[]
    | _ => #[]
  (List.range m).mapM fun (p : Nat) => do
    let g := groupOf[p]?.getD 0
    let gs := groupStart[g]?.getD p
    let ge := groupEnd[g]?.getD p
    match kind with
    | .special f =>
      match f with
      | .rowNumber => pure (.integer (p + 1))
      | .rank => pure (.integer (gs + 1))
      | .denseRank => pure (.integer (g + 1))
      | .percentRank =>
        pure (.real (if m ≤ 1 then 0.0 else intToFloat gs / intToFloat (m - 1)))
      | .cumeDist => pure (.real (intToFloat (ge + 1) / intToFloat m))
      | .ntile =>
        match offsetCount (arg 0 0) with
        | some nt =>
          if nt == 0 then throw (Failure.general "argument of ntile must be a positive integer")
          else
            let base := m / nt
            let extra := m % nt
            let bucket := if base == 0 then p + 1
              else if p < extra * (base + 1) then p / (base + 1) + 1
              else extra + (p - extra * (base + 1)) / base + 1
            pure (.integer bucket)
        | none => throw (Failure.general "argument of ntile must be a positive integer")
      | .lag | .lead =>
        let k : Int := match (arr[p]?).bind (·.args[1]?) with
          | some d => match d.numberIfNumeric with
            | .integer i => i
            | _ => 1
          | none => 1
        let target : Int := if f == .lag then (p : Int) - k else (p : Int) + k
        if target ≥ 0 && target < m then pure (arg target.toNat 0) else pure (arg p 2)
      | .firstValue | .lastValue | .nthValue =>
        let frame := frameRows shape orderVals groupOf groupStart groupEnd m p
        match f with
        | .firstValue => pure ((frame.head?.map (arg · 0)).getD .null)
        | .lastValue => pure ((frame.getLast?.map (arg · 0)).getD .null)
        | _ =>
          match offsetCount (arg p 1) with
          | some nth =>
            if nth == 0 then throw (Failure.general "second argument to nth_value must be a positive integer")
            else pure (((frame[nth - 1]?).map (arg · 0)).getD .null)
          | none => throw (Failure.general "second argument to nth_value must be a positive integer")
    | .aggregate f distinct coll jsonArgs =>
      match sums[p]? with
      | some s => SumState.finish f s
      | none =>
        let frame := frameRows shape orderVals groupOf groupStart groupEnd m p
        let argRows := frame.filterMap fun r => (arr[r]?).bind fun i => if i.keep then some i.args else none
        finishAggregate f distinct coll argRows (argRows.map fun _ => jsonArgs)

/-- The values of a window function for the rows of a select: the rows sorted by partition
and ordering (ties keep their order), each with its value. -/
def compute (kind : WindowKind) (shape : WindowShape) (inputs : List WindowInput) :
    Outcome (List (Nat × Datum)) := do
  checkOffsets shape
  let partFlags := shape.partitionCollations.map fun c => (false, true, c)
  let flags := partFlags ++ shape.orderFlags
  let sorted := inputs.mergeSort fun a b => compareKeys flags (a.partition ++ a.order) (b.partition ++ b.order) != .gt
  let parts := runs (fun (a b : WindowInput) => sameKeys shape.partitionCollations a.partition b.partition) sorted
  let values ← parts.mapM fun rows => do
    let vs ← partitionValues kind shape rows
    pure (rows.zip vs)
  pure (values.flatten.map fun (i, v) => (i.index, v))

end Window

end QueryDoc.Store
