import QueryDoc.Store.Function

/-!
Aggregates: folding the values of a group's rows into one.

`count` counts the rows, or the rows whose argument is not null. A sum of integers stays an
integer unless it overflows, which is a failure; once a double or a non-integer joins, the sum
is a double kept with a running error term. `total` is the sum as a double, zero for no rows;
`avg` the double sum divided by the count. `min` and `max` compare under the argument's
collation and skip nulls. `group_concat` joins the texts of its argument, by a comma or the
separator given with each row. `json_group_array` and `json_group_object` gather values into
a JSON array or object.

With `distinct`, each value counts once, values being the same under the collation: the
integer 1 and the double 1.0 are the same, the text '2' and the integer 2 are not.
-/

namespace QueryDoc.Store

/-- A running sum: an exact integer until a double, a non-integer or an overflow joins, then a
double with an error term. -/
structure SumState where
  count : Nat
  exact : Int
  approximate : Bool
  overflowed : Bool
  sum : Float
  err : Float
  deriving Inhabited

namespace SumState

/-- The empty sum. -/
def empty : SumState := ⟨0, 0, false, false, 0.0, 0.0⟩

/-- Adds a double to the running double with its error term. -/
def addReal (s : SumState) (r : Float) : SumState :=
  let t := s.sum + r
  let err := if s.sum.abs > r.abs then s.err + ((s.sum - t) + r) else s.err + ((r - t) + s.sum)
  { s with sum := t, err := err }

/-- Adds an integer to the running double, split when it is too large for a double's
mantissa. -/
def addIntegerReal (s : SumState) (i : Int) : SumState :=
  if i ≤ -4503599627370496 || i ≥ 4503599627370496 then
    let small := i.tmod 16384
    (s.addReal (intToFloat (i - small))).addReal (intToFloat small)
  else s.addReal (intToFloat i)

/-- Starts the running double from the exact sum so far. -/
def toApproximate (s : SumState) : SumState :=
  let i := s.exact
  if i ≤ -4503599627370496 || i ≥ 4503599627370496 then
    let small := i.tmod 16384
    { s with approximate := true, sum := intToFloat (i - small), err := intToFloat small }
  else { s with approximate := true, sum := intToFloat i, err := 0.0 }

/-- Adds one value; nulls are skipped. -/
def step (s : SumState) (d : Datum) : SumState :=
  match numericValue d with
  | .null => s
  | v =>
    let s := { s with count := s.count + 1 }
    if !s.approximate then
      match v with
      | .integer i =>
        if fitsInteger (s.exact + i) then { s with exact := s.exact + i }
        else ({ s with overflowed := true }.toApproximate).addIntegerReal i
      | other => s.toApproximate.addReal other.toReal
    else
      match v with
      | .integer i => s.addIntegerReal i
      | other => { s with overflowed := false }.addReal other.toReal

/-- Takes out a value that was added, as a window frame that moves on does; nulls are
skipped. A sum that has become a double stays one, so its result is a double even when only
integers are left in it. -/
def unstep (s : SumState) (d : Datum) : SumState :=
  match numericValue d with
  | .null => s
  | v =>
    let s := { s with count := s.count - 1 }
    if !s.approximate then
      match v with
      | .integer i => { s with exact := s.exact - i }
      | _ => s
    else
      match v with
      | .integer i =>
        if i == minInteger then (s.addIntegerReal maxInteger).addIntegerReal 1
        else s.addIntegerReal (-i)
      | other => s.addReal (-other.toReal)

/-- Whether a double is infinite or NaN. -/
def isOverflow (x : Float) : Bool := x.isInf || x.isNaN

/-- The double total of a sum. -/
def total (s : SumState) : Float :=
  if s.approximate then (if isOverflow s.err then s.sum else s.sum + s.err) else intToFloat s.exact

/-- The result of `sum`, `total` or `avg` from a running sum: `sum` is null over no values,
an integer while exact and a failure once an overflow left it a double; `total` is always a
double; `avg` divides the double total by the count. -/
def finish (f : AggregateFn) (s : SumState) : Outcome Datum :=
  match f with
  | .total => pure (Datum.ofReal s.total)
  | .avg => if s.count == 0 then pure .null else pure (Datum.ofReal (s.total / intToFloat s.count))
  | _ =>
    if s.count == 0 then pure .null
    else if s.approximate then
      if s.overflowed then throw (Failure.general "integer overflow")
      else pure (Datum.ofReal s.total)
    else pure (.integer s.exact)

end SumState

/-- The first values of the argument rows, each once under a collation when `distinct`;
nulls are dropped then. -/
def distinctValues (coll : Collation) (values : List Datum) : List Datum :=
  (values.filter (!·.isNull)).foldl (fun acc d => if acc.any (·.sameWith coll d) then acc else acc ++ [d]) []

/-- The result of an aggregate over the argument lists of a group's rows; `marks` says, row by
row, which arguments are marked as JSON. -/
def finishAggregate (f : AggregateFn) (distinct : Bool) (coll : Collation)
    (argRows : List (List Datum)) (marks : List (List Bool)) : Outcome Datum := do
  let marks := if distinct && f != .countAll then [] else marks
  let argRows := if distinct && f != .countAll then
      (distinctValues coll (argRows.map fun r => r.headD .null)).map fun d => [d]
    else argRows
  let marked := argRows.zipIdx.map fun (r, i) => (r, (marks[i]?).getD [])
  let firsts := argRows.map fun r => r.headD .null
  match f with
  | .countAll => pure (.integer argRows.length)
  | .count => pure (.integer (firsts.filter (!·.isNull)).length)
  | .sum | .total | .avg => SumState.finish f (firsts.foldl SumState.step SumState.empty)
  | .min | .max =>
    let vals := firsts.filter (!·.isNull)
    match vals with
    | [] => pure .null
    | v :: vs => pure (vs.foldl (fun best x =>
        let c := best.compareWith coll x
        if f == .max then (if c == .lt then x else best) else (if c == .gt then x else best)) v)
  | .groupConcat =>
    let pieces := argRows.filterMap fun r =>
      match r with
      | x :: rest => if x.isNull then none else some (x, rest.head?.getD (.text ","))
      | [] => none
    match pieces with
    | [] => pure .null
    | (t, _) :: more => pure (Datum.joinTexts (t :: more.flatMap fun (t', sep) => [sep, t']))
  | .jsonGroupArray | .jsonbGroupArray =>
    JsonCall.groupArray (f == .jsonbGroupArray)
      (marked.map fun (r, m) => (r.headD .null, m.headD false))
  | .jsonGroupObject | .jsonbGroupObject =>
    JsonCall.groupObject (f == .jsonbGroupObject)
      (marked.map fun (r, m) => (r.headD .null, r[1]?.getD .null, m[1]?.getD false))

end QueryDoc.Store
