import QueryDoc.Store.Planner.Cost
import QueryDoc.Store.Bound

/-!
What an index's samples say of the entries a search reads.

`analyze` keeps a few entries of an index as samples, each with three counts per leading
column: the entries equal to it up to that column (`eq`), the entries before them (`lt`), and
the distinct prefixes before them (`dlt`). The planner reads them as a histogram. A sought
prefix of values is placed among the samples by a binary search; when it equals a sample the
sample's counts are exact, and otherwise the entries before it are guessed a third of the way
(two thirds when rounding up) between the samples around it, and the entries equal to it are
the average run of a value that no sample holds.

That average comes from the counts of `sqlite_stat1` when the index has them: the entries, less
those the samples hold, shared among the distinct values, less those the samples hold. Without
them the last sample's counts stand in, and that sample is left out of the sum.

Only values known before the statement runs can be sought: literals, negated or cast, with the
preference of the index column applied.
-/

namespace QueryDoc.Store

namespace Planner

/-- An index's samples as the planner searches them. -/
structure Histogram where
  samples : Array StoredSample
  /-- How many leading columns of an entry the samples count: the key, and the row id. -/
  columns : Nat
  /-- For each column, how many entries share a value of their prefix that no sample holds. -/
  avgEq : Array Nat
  /-- How many entries the samples stand for. -/
  total : Nat
  collations : List Collation
  descending : List Bool
  /-- The preference a value sought in each column takes. -/
  affinities : List Affinity

/-- A count of a sample for a column, zero when the sample has none. -/
def countAt (counts : List Nat) (k : Nat) : Nat := counts[k]?.getD 0

/-- The average runs of values no sample holds, one per column, and the entries the samples
stand for; `counts` are the numbers of `sqlite_stat1`, empty when the index has none. -/
def averages (counts : List Nat) (samples : Array StoredSample) (columns keyCount : Nat) :
    Array Nat × Nat :=
  let n := samples.size
  let final : Option StoredSample := samples[n - 1]?
  let width := if columns > 1 then columns - 1 else 1
  let one (col : Nat) : Nat × Nat :=
    let stat := countAt counts (col + 1)
    let (rows, distinct100, used) :=
      if counts.isEmpty || col ≥ keyCount || stat == 0 then
        ((final.map fun s => countAt s.lt col).getD 0, 100 * (final.map fun s => countAt s.dlt col).getD 0, n - 1)
      else (countAt counts 0, 100 * countAt counts 0 / stat, n)
    let (sumEq, sum100) := (List.range used).foldl (fun (acc : Nat × Nat) i =>
      let here := (samples[i]?.map fun s => countAt s.dlt col).getD 0
      let next := (samples[i + 1]?.map fun s => countAt s.dlt col).getD 0
      if i + 1 == n || here != next then
        (acc.1 + (samples[i]?.map fun s => countAt s.eq col).getD 0, acc.2 + 100)
      else acc) (0, 0)
    let avg := if distinct100 > sum100 && sumEq < rows then 100 * (rows - sumEq) / (distinct100 - sum100) else 0
    (if avg == 0 then 1 else avg, rows)
  let per := (List.range width).map one
  let avgs := per.map (·.1) ++ (if columns > 1 then [1] else [])
  (avgs.toArray, (per.getLast?.map (·.2)).getD 0)

/-- The histogram of an index with samples: `columns` counts the key and the row id, and
`keyCount` the key alone. -/
def Histogram.of? (stats : IndexStats) (columns keyCount : Nat) (collations : List Collation)
    (descending : List Bool) (affinities : List Affinity) : Option Histogram :=
  if stats.samples.isEmpty then none
  else
    let samples := stats.samples.toArray
    let (avgEq, total) := averages stats.counts samples columns keyCount
    some ⟨samples, columns, avgEq, total, collations, descending, affinities⟩

/-- How a sample's entry compares with the first `n` values sought: value by value under each
column's collation, the other way on a descending column. -/
def Histogram.compareTo (h : Histogram) (entry sought : List Datum) (n : Nat) : Ordering :=
  let rec go : Nat → List Datum → List Datum → Nat → Ordering
    | 0, _, _, _ => .eq
    | k + 1, e :: es, s :: ss, col =>
      let c := e.compareWith ((h.collations[col]?).getD .binary) s
      let c := if (h.descending[col]?).getD false then c.swap else c
      if c != .eq then c else go k es ss (col + 1)
    | _, _, _, _ => .eq
  go n entry sought 0

/-- The state of the search for a sought prefix among the samples: the first effective sample
not yet tested, the first known to be no less, the entries known to be before the prefix, the
column of the last sample found no less, and the last comparison. -/
structure Bracket where
  low : Nat
  high : Nat
  before : Nat
  column : Nat
  last : Ordering

/-- Places a sought prefix among the samples by a binary search. The search runs over each
sample cut to each number of its leading columns, `width` to a sample; a cut is lengthened
while it equals the cut before it, so each stands for a distinct prefix. -/
def Histogram.bracket (h : Histogram) (sought : List Datum) (width : Nat) : Nat → Bracket → Bracket
  | 0, b => b
  | fuel + 1, b =>
    let test := (b.low + b.high) / 2
    let samp := test / width
    let ltAt (i k : Nat) : Nat := (h.samples[i]?.map fun s => countAt s.lt k).getD 0
    let eqAt (i k : Nat) : Nat := (h.samples[i]?.map fun s => countAt s.eq k).getD 0
    let n :=
      if samp > 0 then
        let rec grow : Nat → Nat → Nat
          | 0, n => n
          | f + 1, n => if n < width && ltAt (samp - 1) (n - 1) == ltAt samp (n - 1) then grow f (n + 1) else n
        grow width (test % width + 1)
      else test + 1
    let entry := (h.samples[samp]?.map (·.values)).getD []
    let res := h.compareTo entry sought n
    let b :=
      if res == .lt then { b with before := ltAt samp (n - 1) + eqAt samp (n - 1), low := test + 1, last := .lt }
      else if res == .eq && n < width then { b with before := ltAt samp (n - 1), low := test + 1, last := .lt }
      else { b with high := test, column := n - 1, last := res }
    if b.last != .eq && b.low < b.high then Histogram.bracket h sought width fuel b else b

/-- The entries of the index before a sought prefix and those equal to it, and the sample the
search ended at. An exact match gives the sample's own counts; otherwise the entries before
are guessed between the samples around the prefix, a third of the way or two thirds when
rounding up, and those equal are the average run. -/
def Histogram.keyStats (h : Histogram) (sought : List Datum) (roundUp : Bool) : Nat × Nat × Nat :=
  let count := h.samples.size
  let width := min sought.length count
  if width == 0 then (0, 1, 0)
  else
    let b := h.bracket sought width (count * width + 1) ⟨0, count * width, 0, 0, .lt⟩
    let i := b.high / width
    let ltAt (k : Nat) : Nat := (h.samples[i]?.map fun s => countAt s.lt k).getD 0
    let eqAt (k : Nat) : Nat := (h.samples[i]?.map fun s => countAt s.eq k).getD 0
    if b.last == .eq then (ltAt b.column, eqAt b.column, i)
    else
      let upper := if i ≥ count then h.total else ltAt b.column
      let gap := if b.before ≥ upper then 0 else upper - b.before
      let gap := if roundUp then gap * 2 / 3 else gap / 3
      (b.before + gap, (h.avgEq[width - 1]?).getD 1, i)

/-- A number negated: an integer that has no negation becomes a double; a text reads as the
number it begins with. -/
def negateNumber (d : Datum) : Datum :=
  let d := match d with
    | .text s => (numberOfText? s).getD (.integer 0)
    | _ => d
  match d with
  | .integer n => if n == -9223372036854775808 then .real 9223372036854775808.0 else .integer (-n)
  | .real x => .real (-x)
  | _ => d

/-- The value an expression stands for before the statement runs, taken as a search of an
index column of preference `aff` takes it: a literal, possibly negated or cast, with the
preference applied to it. Anything else has no known value. -/
def knownValue : Nat → Affinity → Bound.Expr → Option Datum
  | 0, _, _ => none
  | n + 1, aff, e =>
    match e with
    | .const .null => some .null
    | .const (.blob bs) => some (.blob bs)
    | .const d => some (Datum.store aff d)
    | .collate x _ | .unary .plus x => knownValue n aff x
    | .unary .neg x => (knownValue n aff x).map fun d => Datum.store aff (negateNumber d)
    | .cast x a => (knownValue n a x).map fun d => Datum.store aff (Datum.cast a d)
    | _ => none

/-- How deep `knownValue` looks into an expression. -/
def valueDepth : Nat := 64

/-- The entries a search fixing the first `fixed` columns of the index to `known` and the next
to a value finds, when the value is known: none when it is not, or when the earlier columns'
values are not all known. -/
def Histogram.equalEst (h : Histogram) (known : List Datum) (fixed : Nat) (value : Bound.Expr) :
    Option (Nat × List Datum) :=
  if known.length < fixed then none
  else if fixed + 1 ≥ h.columns then some (1, known)
  else
    let aff := (h.affinities[fixed]?).getD .blob
    match knownValue valueDepth aff value with
    | none => none
    | some v =>
      let sought := known.take fixed ++ [v]
      let (_, eq, _) := h.keyStats sought false
      some (eq, sought)

/-- The entries a search for any of several values of the next column finds: the sum of each
value's, at most all the entries; none when some value is not known. -/
def Histogram.inEst (h : Histogram) (known : List Datum) (fixed : Nat) (rows : Int)
    (values : List Bound.Expr) : Option Nat :=
  let all := Estimate.toCount rows
  let sum := values.foldlM (fun (acc : Nat) v => (h.equalEst known fixed v).map fun (n, _) => acc + n) 0
  sum.map fun n => min n all

/-- The estimate of the entries a range of the column after the `fixed` known ones keeps, when
the samples can say: the lower and upper bounds, each its value and whether the entries equal
to the value lie on the bound's far side (for `>` and `<=`), and the estimate before the
range. Returns the estimate and which
bounds it used; a bound it did not use is left to the general rule. -/
def Histogram.rangeEst (h : Histogram) (known : List Datum) (fixed : Nat)
    (lower upper : Option (Bound.Expr × Bool)) (rows : Int) : Int × Bool × Bool :=
  let desc := (h.descending[fixed]?).getD false
  let (lo, hi) := if desc then (upper, lower) else (lower, upper)
  let (below, above) :=
    if fixed == 0 then (0, h.total)
    else
      let (a0, a1, _) := h.keyStats (known.take fixed) false
      (a0, a0 + a1)
  let aff := (h.affinities[fixed]?).getD .blob
  let valueOf (b : Option (Bound.Expr × Bool)) : Option (Datum × Bool) :=
    b.bind fun (e, withEqual) => (knownValue valueDepth aff e).map (·, withEqual)
  let loValue := valueOf lo
  let hiValue := valueOf hi
  let (below, lowIdx, rows1) := match loValue with
    | some (v, withEqual) =>
      let (a0, a1, i) := h.keyStats (known.take fixed ++ [v]) false
      (max below (a0 + (if withEqual then a1 else 0)), some i, rows - 1)
    | none => (below, none, rows)
  let (above, highIdx, rows2) := match hiValue with
    | some (v, withEqual) =>
      let (a0, a1, i) := h.keyStats (known.take fixed ++ [v]) true
      (min above (a0 + (if withEqual then a1 else 0)), some i, rows1 - 1)
    | none => (above, none, rows1)
  let fresh : Int :=
    if above > below then
      Estimate.ofCount (above - below) - (if lowIdx.isSome && lowIdx == highIdx then 20 else 0)
    else 10
  let usedLo := loValue.isSome
  let usedHi := hiValue.isSome
  let (usedLower, usedUpper) := if desc then (usedHi, usedLo) else (usedLo, usedHi)
  (min rows2 fresh, usedLower, usedUpper)

/-- The estimate of a range of the column after `fixed` columns whose values are not all
known, from the share of samples between the bounds' values: none when neither value is
known, or when both are and no sample lies between them. -/
def Histogram.skipRangeEst (h : Histogram) (fixed : Nat) (lower upper : Option Bound.Expr) (rows : Int) :
    Option Int :=
  let aff := (h.affinities[fixed]?).getD .blob
  let coll := (h.collations[fixed]?).getD .binary
  let lo := lower.bind (knownValue valueDepth aff)
  let hi := upper.bind (knownValue valueDepth aff)
  if lo.isNone && hi.isNone then none
  else
    let count := h.samples.size
    let column (s : StoredSample) : Datum := (s.values[fixed]?).getD .null
    let atOrBelow (v : Option Datum) : Nat :=
      match v with
      | some d => (h.samples.toList.filter fun s => d.compareWith coll (column s) != .lt).length
      | none => 0
    let nLower : Int := if lower.isSome then atOrBelow lo else -1
    let nUpper : Int := if upper.isSome then (if hi.isSome then atOrBelow hi else count) else count + 1
    let diff : Nat := if nUpper - nLower ≤ 0 then 1 else (nUpper - nLower).toNat
    if diff != 1 || upper.isNone || lower.isNone then
      some (rows - (Estimate.ofCount count - Estimate.ofCount diff))
    else none

end Planner

end QueryDoc.Store
