import QueryDoc.Store.Planner.Terms

/-!
The ways a source may be read, each with its estimated cost.

For each source of a `from` the planner lists the loops that could read it: a full scan by
row id; a scan of an index whose entries are smaller than the table's rows, or that may give
an order the statement wants; a search of the row id or of an index by terms that constrain
its leading columns; a search of an index the statement builds when a term equates a column
with a value known before the loop; and a search by several indexes, one for each branch of an
`or`. A loop carries the sources that must be read before it, the cost of setting it up and
of running it once, and the rows it gives, all as estimates.

A new loop is kept only when no loop listed for the same source and order is at least as good
on every count, and it replaces a listed loop it is at least as good as on every count. A
search that uses a proper subset of another's terms is made to look cheaper than it, or
costlier, so that the two are never taken for equal.
-/

namespace QueryDoc.Store

namespace Planner

/-- Where a term is: the clause, named by the path of `or` terms and branches that leads to it
from the main clause, and its place there. -/
structure TermRef where
  clause : List Nat
  index : Nat
  deriving BEq, Inhabited

/-- The clauses a search sees, the innermost first, each with its path. -/
abbrev Clauses := List (List Nat × Array Term)

/-- The term a reference names. -/
def Clauses.term? (cs : Clauses) (r : TermRef) : Option Term :=
  (cs.find? (·.1 == r.clause)).bind fun (_, ts) => ts[r.index]?

/-- Every source of `a` but those of `b`. -/
def Mask.minus (a b : Mask) : Mask := a - (a &&& b)

/-- One term of an ordering the statement wants: its expression, whether it is descending,
whether its nulls go the other way than by default, and its collation. -/
structure OrderTerm where
  expr : Bound.Expr
  descending : Bool
  bigNull : Bool
  collation : Collation

/-- What building loops needs to know of the statement. -/
structure Setting where
  leaves : Array Leaf
  /-- The terms of the filter and the join conditions. -/
  main : Array Term
  /-- The ordering the statement would like the rows in: its `order by`, `group by`, or its
  columns for `distinct`. -/
  order : List OrderTerm
  caseSensitive : Bool
  /-- Planning one branch of an `or` alone, where no index is built for the statement. -/
  branch : Bool := false

/-- An index as a search probes it; the row id is an index of one column. -/
structure Probe where
  /-- Its place among the source's indexes; none for the row id. -/
  index : Option Nat
  /-- What each column holds, the key first. -/
  columns : List Operand
  keyCount : Nat
  collations : List Collation
  descending : List Bool
  /-- The preference each column gives a comparison: a table column's, an expression's. -/
  affinities : List (Option Affinity)
  rowEst : List Int
  width : Int
  unique : Bool
  uniqueNotNull : Bool
  primaryKey : Bool
  filtered : Bool
  /-- Whether its estimates come from `analyze`. -/
  measured : Bool := false
  histogram : Option Histogram := none
  unordered : Bool := false
  lowQuality : Bool := false
  noSkipScan : Bool := false

/-- Whether a probe is the row id. -/
def Probe.isRowid (p : Probe) : Bool := p.index.isNone

/-- The row id of a source as an index. -/
def rowidProbe (l : Leaf) : Probe :=
  { index := none, columns := [.rowid], keyCount := 1, collations := [.binary], descending := [false],
    affinities := [none], rowEst := [l.rows, 0], width := 3, unique := true, uniqueNotNull := false,
    primaryKey := false, filtered := false }

/-- The preference an operand of a source gives a comparison. -/
def operandAffinity (l : Leaf) : Operand → Option Affinity
  | .rowid => none
  | .column c => (l.table.bind (·.columns[c]?)).map (·.affinity)
  | .expr e => e.affinity

/-- An index of a source as a probe. -/
def indexProbe (l : Leaf) (k : Nat) (ix : IndexView) : Probe :=
  { index := some k, columns := ix.columns, keyCount := ix.keyCount, collations := ix.collations,
    descending := ix.descending, affinities := ix.columns.map (operandAffinity l), rowEst := ix.rowEst,
    width := ix.width, unique := ix.unique, uniqueNotNull := ix.uniqueNotNull, primaryKey := ix.primaryKey,
    filtered := ix.filter.isSome, measured := ix.measured, histogram := ix.histogram, unordered := ix.unordered,
    lowQuality := ix.lowQuality, noSkipScan := ix.noSkipScan }

/-- A way to read one source. -/
structure Loop where
  leaf : Nat
  /-- The index read; none for the row id, an index built for the statement, or a search by
  several indexes. -/
  index : Option Nat := none
  /-- Read through an index the statement builds on the columns its terms equate. -/
  automatic : Bool := false
  /-- A search by several indexes, one for each branch of this `or` term. -/
  anyOf : Option TermRef := none
  /-- The terms the loop uses, in the order its search uses them. -/
  terms : List TermRef := []
  /-- How many leading columns of the index the terms fix to values, those it steps over
  included. -/
  fixed : Nat := 0
  /-- How many leading columns of the index a skip scan steps over, each value in turn. -/
  skipped : Nat := 0
  /-- Whether a term bounds the next column from below, and from above. -/
  lower : Bool := false
  upper : Bool := false
  /-- The sources to be read before it. -/
  prereq : Mask := 0
  setup : Int := 0
  run : Int := 0
  rows : Int := 0
  /-- The order the loop was listed for: 0 unless its index may give an order the statement
  wants, and then the index's place among the probes, from 1. -/
  sortIdx : Nat := 0
  /-- Reads the table by row id. -/
  byRowid : Bool := false
  /-- Reads an index of the table. -/
  indexed : Bool := false
  /-- Needs nothing of the table but what the index holds. -/
  indexOnly : Bool := false
  /-- Needs nothing of the table but what the index holds, some of it through the index's
  expressions. -/
  exprIndex : Bool := false
  /-- Gives at most one row. -/
  oneRow : Bool := false
  columnEq : Bool := false
  columnIn : Bool := false
  columnNull : Bool := false
  columnRange : Bool := false
  deriving Inhabited

/-- The cost of one way to read a branch of an `or`. -/
structure OrCost where
  prereq : Mask
  run : Int
  rows : Int

/-- Where a new cost goes among those kept: in the place of one it is at least as cheap as
and needs no more than, nowhere when one kept is that to it, else none decided. -/
def orPlace : List OrCost → OrCost → Nat → Option (Option Nat)
  | [], _, _ => none
  | p :: ps, c, i =>
    if c.run ≤ p.run && c.prereq.within p.prereq then some (some i)
    else if p.run ≤ c.run && p.prereq.within c.prereq then some none
    else orPlace ps c (i + 1)

/-- Keeps the cost of a way to read a branch: at most three are kept, none that another is at
least as cheap as and needs no more than. -/
def orInsert (set : Array OrCost) (c : OrCost) : Array OrCost :=
  let put (i : Nat) : Array OrCost :=
    set.modify i fun p => { prereq := c.prereq, run := c.run, rows := min p.rows c.rows }
  match orPlace set.toList c 0 with
  | some (some i) => put i
  | some none => set
  | none =>
    if set.size < 3 then set.push c
    else
      let cheapest := (set.toList.zipIdx.foldl (fun (best : Option (OrCost × Nat)) (p, i) =>
        match best with
        | some (b, _) => if b.run > p.run then some (p, i) else best
        | none => some (p, i)) none)
      match cheapest with
      | some (p, i) => if p.run ≤ c.run then set else put i
      | none => set

/-- Whether loop `x` uses a proper subset of the terms of loop `y` and is no costlier or gives
no more rows. -/
def cheaperSubset (x y : Loop) : Bool :=
  x.terms.length < y.terms.length && !(x.run > y.run && x.rows > y.rows) && y.skipped ≤ x.skipped &&
    x.terms.all (fun r => y.terms.contains r) && !(x.indexOnly && !y.indexOnly)

/-- Makes a new index loop cheaper than the listed loops of its source whose terms are a
proper subset of its own, and costlier than those it is such a subset of. -/
def adjustCost (loops : Array Loop) (t : Loop) : Loop :=
  if !t.indexed then t
  else loops.foldl (fun t p =>
    if p.leaf != t.leaf || !p.indexed then t
    else if cheaperSubset p t then { t with run := min p.run t.run, rows := min (p.rows - 1) t.rows }
    else if cheaperSubset t p then { t with run := max p.run t.run, rows := max (p.rows + 1) t.rows }
    else t) t

/-- What the listed loops say of a new one. -/
inductive Verdict where
  /-- A listed loop is at least as good: the new one is dropped. -/
  | worse
  /-- The new loop takes the place of the listed loop here. -/
  | replace (i : Nat)
  /-- The new loop goes at the end. -/
  | append

/-- The first listed loop from `i` on that decides about a new one. A loop of another source
or order decides nothing. A loop by an index built for the statement gives way to a search
of a real index by equality that needs no more. A loop that needs no more, costs no more to
set up and run and gives no more rows is at least as good; one that needs at least as much,
costs at least as much to run and gives at least as many rows gives way. -/
def findLesser (loops : Array Loop) (t : Loop) : Nat → Nat → Verdict
  | 0, _ => .append
  | fuel + 1, i =>
    match loops[i]? with
    | none => .append
    | some p =>
      if p.leaf != t.leaf || p.sortIdx != t.sortIdx then findLesser loops t fuel (i + 1)
      else if p.automatic && t.skipped == 0 && t.indexed && t.columnEq && t.prereq.within p.prereq then .replace i
      else if p.prereq.within t.prereq && p.setup ≤ t.setup && p.run ≤ t.run && p.rows ≤ t.rows then .worse
      else if t.prereq.within p.prereq && p.run ≥ t.run && p.rows ≥ t.rows then .replace i
      else findLesser loops t fuel (i + 1)

/-- Drops the listed loops from `i` on that a new loop supplants, until one is at least as
good as it. -/
def prune (t : Loop) : Nat → Array Loop → Nat → Array Loop
  | 0, loops, _ => loops
  | fuel + 1, loops, i =>
    match findLesser loops t loops.size i with
    | .replace j => prune t fuel (loops.eraseIdxIfInBounds j) j
    | _ => loops

/-- Lists a new loop: dropped, in the place of the first loop it supplants (those after that
it also supplants dropped), or at the end. -/
def insertLoop (loops : Array Loop) (t : Loop) : Array Loop :=
  match findLesser loops t loops.size 0 with
  | .worse => loops
  | .append => loops.push t
  | .replace i => (prune t loops.size loops (i + 1)).set! i t

/-- The loops listed so far, and while a branch of an `or` is built, the costs kept for it;
and the terms of the statement's clause whose index samples show they hold for at least half
the rows. -/
structure Listing where
  loops : Array Loop
  branch : Option (Array OrCost) := none
  highTruth : List TermRef := []

/-- Lists a loop, or while a branch is built, keeps its cost when it uses a term. -/
def Listing.insert (st : Listing) (t : Loop) : Listing :=
  let t := adjustCost st.loops t
  match st.branch with
  | some set => if t.terms.isEmpty then st else { st with branch := some (orInsert set ⟨t.prereq, t.run, t.rows⟩) }
  | none => { st with loops := insertLoop st.loops t }

/-- The source and operand a slot of the select's row is. -/
def slotOperand (leaves : Array Leaf) (s : Nat) : Option (Nat × Operand) :=
  (owner leaves s).map fun (i, c) =>
    match (leaves[i]?).bind (·.table) with
    | some t => if c == t.columns.size || t.rowidColumn == some c then (i, .rowid) else (i, .column c)
    | none => (i, .column c)

/-- The source and operand a plain column of the select's row is. -/
def plainColumn (leaves : Array Leaf) : Bound.Expr → Option (Nat × Operand)
  | .column 0 s _ _ => slotOperand leaves s
  | _ => none

/-- An expression without the `collate`s and `likely`s around it. -/
def skipWrappers : Nat → Bound.Expr → Bound.Expr
  | 0, e => e
  | n + 1, e =>
    match e with
    | .collate x _ => skipWrappers n x
    | .call .likely (x :: _) _ | .call .unlikely (x :: _) _ | .call .likelihood (x :: _) _ => skipWrappers n x
    | _ => e

/-- Whether a comparison under a preference may use an index column with another: any does
when the comparison converts nothing, a text comparison needs a text column, a numeric one a
numeric column. -/
def affinityFits (cmp : Option Affinity) (column : Option Affinity) : Bool :=
  match cmp with
  | none | some .blob => true
  | some .text => column == some .text
  | some _ => column.any Affinity.isNumeric

/-- The terms a search for values of an operand may use, in the order a search meets them:
those on the operand in each clause from the innermost out, then those on each column an
equality of two columns makes equivalent to it, in the order such columns are found. `check`
gives the preference and collation an index column asks of a comparison; a term whose
comparison differs is passed over, as is an equality whose value is the operand itself. -/
def scanTerms (leaves : Array Leaf) (clauses : Clauses) (start : Nat × Operand)
    (check : Option (Option Affinity × Collation)) : List (TermRef × Term) :=
  let all : List (TermRef × Term) :=
    clauses.flatMap fun (path, ts) => ts.toList.zipIdx.map fun (t, i) => (⟨path, i⟩, t)
  let same (a b : Nat × Operand) : Bool := a.1 == b.1 && a.2.same b.2
  let rec visit : Nat → Array (Nat × Operand) → Nat → List (TermRef × Term) → List (TermRef × Term)
    | 0, _, _, acc => acc.reverse
    | fuel + 1, members, k, acc =>
      match members[k]? with
      | none => acc.reverse
      | some member =>
        let step (st : Array (Nat × Operand) × List (TermRef × Term)) (rt : TermRef × Term) :=
          let (members, acc) := st
          let t := rt.2
          match t.target with
          | some (tl, tOffset, rel) =>
            if same (tl, tOffset) member && (k == 0 || t.outerOf.isNone) then
              let members :=
                if t.equiv && members.size < 11 then
                  match (t.value.map (skipWrappers Reads.budget)).bind (plainColumn leaves) with
                  | some m => if members.any (same m) then members else members.push m
                  | none => members
                else members
              let fits := match check with
                | some (aff, coll) => rel == .isNull || (affinityFits t.cmp.affinity aff && t.cmp.collation == coll)
                | none => true
              let backToStart := rel.isEquality && (match t.value.bind (plainColumn leaves) with
                | some m => same m start
                | none => false)
              (members, if fits && !backToStart then rt :: acc else acc)
            else (members, acc)
          | none => (members, acc)
        let (members, acc) := all.foldl step (members, acc)
        visit fuel members (k + 1) acc
  visit 12 #[start] 0 []

/-- The number of terms up to the last one the statement itself has. -/
def baseCount (ts : Array Term) : Nat :=
  (ts.toList.zipIdx.foldl (fun n (t, i) => if t.isVirtual then n else i + 1) 0)

/-- The rows a loop gives once the terms of its clause that it does not use, but that only
read sources it may see, are counted: each such term halves the rows a little, or by its
given likelihood, and an unused equality caps them at the table's rows less a tenth or a
twentieth of its size by the estimate's scale. -/
def outputAdjust (clauses : Clauses) (l : Loop) (nRow : Int) : Int :=
  match clauses with
  | [] => l.rows
  | (path, ts) :: _ =>
    let self := bit l.leaf
    let allowed := l.prereq ||| self
    let usedBy (i : Nat) : Bool :=
      l.terms.any fun r => r == ⟨path, i⟩ || ((clauses.term? r).bind (·.parent)) == some i
    let (rows, reduce) := (ts.toList.zipIdx.take (baseCount ts)).foldl (fun (acc : Int × Int) (t, i) =>
      let (rows, reduce) := acc
      if !t.prereqAll.within allowed || !t.prereqAll.meets self || t.isVirtual || usedBy i then acc
      else if t.truthProb ≤ 0 then (rows + t.truthProb, reduce)
      else
        match t.target with
        | some (_, _, rel) =>
          if rel.isEquality && !t.highTruth then
            let k : Int := match t.value.bind integerLiteral with
              | some v => if -1 ≤ v && v ≤ 1 then 10 else 20
              | none => 20
            (rows - 1, max reduce k)
          else (rows - 1, reduce)
        | none => (rows - 1, reduce)) (l.rows, 0)
    if rows > nRow - reduce then nRow - reduce else rows

/-- The rows a range of an index column leaves, from the rows before it: each bound keeps a
quarter, or its given likelihood, and two bounds keep a quarter more; never fewer than two
rows, nor more than before less one for each bound. -/
def rangeEst (lower upper : Option Term) (rows : Int) : Int :=
  let adjust (t : Option Term) (x : Int) : Int :=
    match t with
    | some t => if t.truthProb ≤ 0 then x + t.truthProb else if !t.vnull then x - 20 else x
    | none => x
  let nNew := adjust upper (adjust lower rows)
  let both := match lower, upper with
    | some l, some u => l.truthProb > 0 && u.truthProb > 0
    | _, _ => false
  let nNew := if both then nNew - 20 else nNew
  let out := rows - (if lower.isSome then 1 else 0) - (if upper.isSome then 1 else 0)
  let nNew := max nNew 10
  if nNew < out then nNew else out

/-- Whether an index column can never hold null: the row id, or a column declared not null. -/
def columnNotNull (l : Leaf) : Operand → Bool
  | .rowid => true
  | .column c => ((l.table.bind (·.columns[c]?)).map (·.notNull)).getD false
  | .expr _ => false

/-- Whether a term of a join condition may drive a search of a source: only terms of the
source's own condition may when it is the right side of a left join. -/
def joinAllows (l : Leaf) (i : Nat) (t : Term) : Bool :=
  l.join != .left || t.outerOf == some i

/-- The values of an `in` term's list. -/
def inItems (t : Term) : Option (List Bound.Expr) :=
  match t.expr with
  | .inList _ items _ _ => some items
  | _ => none

/-- The rows a range of an index column leaves, from the rows before it, when the index's
samples can say: directly when the values of the columns before are all `known`, else from the
share of samples between the bounds' values; the general rule for what they leave open. -/
def sampledRange (h : Histogram) (known : List Datum) (fixed : Nat) (lower upper : Option Term)
    (rows : Int) : Int :=
  -- with `>` and `<=` the entries equal to the bound's value lie before the bound
  let withValue (t : Option Term) : Option (Bound.Expr × Bool) :=
    t.bind fun t => t.value.map fun v =>
      (v, match t.target with
        | some (_, _, r) => r == .gt || r == .le
        | none => false)
  if known.length == fixed then
    let (est, usedLower, usedUpper) := h.rangeEst known fixed (withValue lower) (withValue upper) rows
    rangeEst (if usedLower then none else lower) (if usedUpper then none else upper) est
  else
    match h.skipRangeEst fixed (lower.bind (·.value)) (upper.bind (·.value)) rows with
    | some est => est
    | none => rangeEst lower upper rows

/-- Lists the searches of an index that extend `cur` by a term on the index's next column,
and those that extend these further. `known` holds the values of the leading columns that
equalities fix to values known before the statement runs, as far as they are all known. -/
def addIndexTerms : Nat → Setting → Clauses → Probe → Leaf → Loop → Int → List Datum → Listing → Listing
  | 0, _, _, _, _, _, _, _, st => st
  | fuel + 1, s, clauses, probe, leaf, cur, nInMul, known, st =>
    match probe.columns[cur.fixed]? with
    | none => st
    | some col =>
      let i := cur.leaf
      let check : Option (Option Affinity × Collation) := match col with
        | .rowid => none
        | _ => some ((probe.affinities[cur.fixed]?).getD none, (probe.collations[cur.fixed]?).getD .binary)
      let rSize := probe.rowEst.headD 0
      let rLogSize := Estimate.depth rSize
      let estAt (k : Nat) : Int := (probe.rowEst[k]?).getD 0
      let isColumn : Bool := match col with
        | .column _ => true
        | _ => false
      let st := (scanTerms s.leaves clauses (i, col) check).foldl (fun st (r, t) =>
        match t.target with
        | none => st
        | some (_, _, rel) =>
          if cur.lower && !(rel == .lt || rel == .le) then st
          else if (rel == .isNull || t.vnull) && columnNotNull leaf col then st
          else if t.prereqRight.has i then st
          else if t.likeBound && rel == .lt then st
          else if !joinAllows leaf i t then st
          else if probe.unordered && (rel.isLower || rel.isUpper) then st
          else if probe.lowQuality && !(leaf.forced matches some (some _)) && (rel.isEquality || rel.isIn) then st
          else
            let nIn : Int := match rel with
              | .inValues k => Estimate.ofCount k
              | .inQuery => 46
              | _ => 0
            -- with measured estimates, an `in` that would find more rows than scanning the rows
            -- the columns before it leave is tested on them instead, unless another `in` comes first
            let scanned := rel.isIn && probe.measured && rLogSize ≥ 10 &&
              estAt cur.fixed + Estimate.depth nIn + 10 - (nIn + rLogSize) < 0 && nInMul ≥ 2
            if scanned then st else
            let base : Loop :=
              { cur with terms := cur.terms ++ [r], prereq := (cur.prereq ||| t.prereqRight).minus (bit i) }
            let isRange := rel == .lt || rel == .le || rel == .gt || rel == .ge
            let new : Loop :=
              if rel.isIn then { base with columnIn := true }
              else if rel.isEquality then
                let unique := col matches .rowid ||
                  (isColumn && nInMul == 0 && cur.fixed + 1 == probe.keyCount)
                let one := col matches .rowid || probe.uniqueNotNull ||
                  (probe.keyCount == 1 && probe.unique && rel == .eq)
                { base with columnEq := true, oneRow := cur.oneRow || (unique && one) }
              else if rel == .isNull then { base with columnNull := true }
              else if rel == .gt || rel == .ge then
                let pair : Option TermRef := if t.likeBound then some { r with index := r.index + 1 } else none
                { base with columnRange := true, lower := true, upper := pair.isSome,
                            terms := base.terms ++ pair.toList }
              else { base with columnRange := true, upper := true }
            let sampled : Option (Nat × List Datum) :=
              if isRange || (t.truthProb ≤ 0 && isColumn) || nInMul != 0 || rel == .inQuery then none
              else probe.histogram.bind fun h =>
                if cur.fixed + 1 > h.columns then none
                else
                  match rel with
                  | .inValues _ => ((inItems t).bind (h.inEst known cur.fixed rSize)).map (·, known)
                  | .isNull => h.equalEst known cur.fixed (.const .null)
                  | _ => t.value.bind (h.equalEst known cur.fixed)
            let sampled := sampled.filter (·.1 > 0)
            let high := match sampled with
              | some (n, _) => cur.fixed == 0 && Estimate.ofCount n + 10 > rSize
              | none => false
            let st := if high then { st with highTruth := st.highTruth ++ [r] } else st
            let rows : Int :=
              if isRange then
                let lowerTerm : Option Term :=
                  if rel == .gt || rel == .ge then some t
                  else if cur.lower then (cur.terms.getLast?).bind (clauses.term? ·)
                  else none
                let upperTerm : Option Term :=
                  if rel == .lt || rel == .le then some t
                  else if t.likeBound then clauses.term? { r with index := r.index + 1 }
                  else none
                match probe.histogram with
                | some h =>
                  if cur.fixed < h.columns then sampledRange h known cur.fixed lowerTerm upperTerm cur.rows
                  else rangeEst lowerTerm upperTerm cur.rows
                | none => rangeEst lowerTerm upperTerm cur.rows
              else if t.truthProb ≤ 0 && isColumn then cur.rows + t.truthProb - nIn
              else
                match sampled with
                | some (n, _) => min (Estimate.ofCount n) cur.rows - nIn
                | none =>
                  cur.rows + (estAt (cur.fixed + 1) - estAt cur.fixed) + (if rel == .isNull then 10 else 0)
            let known := match sampled with
              | some (_, k) => k
              | none => known
            let fixed := if isRange then cur.fixed else cur.fixed + 1
            let costIdx : Int :=
              if probe.isRowid then rows + 16 else rows + 1 + 15 * probe.width / leaf.rowWidth
            let costIdx := Estimate.add rLogSize costIdx
            let run := if cur.indexOnly || probe.isRowid || cur.exprIndex then costIdx
              else Estimate.add costIdx (rows + 16)
            let made : Loop :=
              { new with fixed := fixed, run := run + nInMul + nIn, rows := rows + nInMul + nIn }
            let made := { made with rows := outputAdjust clauses made rSize }
            let st := st.insert made
            let next : Loop := { made with rows := if isRange then cur.rows else rows }
            if !next.upper && next.fixed < probe.columns.length &&
                (next.fixed < probe.keyCount || !probe.primaryKey) then
              addIndexTerms fuel s clauses probe leaf next (nInMul + nIn) known st
            else st) st
      -- a skip scan: when no term fixes the leading columns and `analyze` found each value of
      -- the next column repeated at least eighteen times, the search steps over each distinct
      -- value of the column and searches the columns after it within it
      let skips := cur.fixed == cur.skipped && cur.fixed + 1 < probe.keyCount && cur.terms.isEmpty &&
        !probe.noSkipScan && probe.measured && estAt (cur.fixed + 1) ≥ 42
      if skips then
        let steps := estAt cur.fixed - estAt (cur.fixed + 1)
        let next : Loop := { cur with fixed := cur.fixed + 1, skipped := cur.skipped + 1, rows := cur.rows - steps }
        addIndexTerms fuel s clauses probe leaf next (nInMul + steps + 5) known st
      else st

/-- Whether an index of a source may give an order the statement wants: some term of the
ordering is the row id, a key column of the index, or one of its key expressions. -/
def mightHelpOrder (s : Setting) (i : Nat) (probe : Probe) : Bool :=
  s.order.any fun o =>
    let e := skipWrappers Reads.budget o.expr
    match plainColumn s.leaves e with
    | some (li, op) =>
      li == i && (op matches .rowid || (probe.columns.take probe.keyCount).any (·.same op))
    | none =>
      (probe.columns.take probe.keyCount).any fun c =>
        match c with
        | .expr x => Bound.Expr.alike Reads.budget (skipWrappers Reads.budget x) e
        | _ => false

mutual

/-- Whether an expression, when true, shows another is not null. -/
def impliesNotNull : Nat → Bound.Expr → Bound.Expr → Bool → Bool
  | 0, _, _, _ => false
  | n + 1, p, nn, seenNot =>
    if Bound.Expr.alike Reads.budget p nn then !(nn matches .const .null)
    else
      match p with
      | .inList a _ _ _ => impliesNotNull n a nn true
      | .inQuery (a :: _) _ neg _ => if seenNot || neg then false else impliesNotNull n a nn true
      | .between a lo hi neg _ _ =>
        if seenNot || neg then false
        else impliesNotNull n lo nn true || impliesNotNull n hi nn true || impliesNotNull n a nn true
      | .binary op l r _ =>
        if op == .eq || op == .ne || op == .lt || op == .le || op == .gt || op == .ge || op == .add ||
            op == .sub || op == .bitOr || op == .shiftLeft || op == .shiftRight || op == .concat then
          impliesNotNull n r nn true || impliesNotNull n l nn true
        else if op == .mul || op == .rem || op == .bitAnd || op == .div then
          impliesNotNull n r nn seenNot || impliesNotNull n l nn seenNot
        else false
      | .collate a _ | .unary .plus a | .unary .neg a => impliesNotNull n a nn seenNot
      | .truth a _ negated => if seenNot || negated then false else impliesNotNull n a nn true
      | .unary .not a | .unary .bitNot a => impliesNotNull n a nn true
      | _ => false

/-- Whether a term, when true, shows a condition true: it is the condition, a branch of it when
it is an `or`, or shows its operand not null when it is `is not null`. -/
def implies : Nat → Bound.Expr → Bound.Expr → Bool
  | 0, _, _ => false
  | n + 1, e, cond =>
    Bound.Expr.alike Reads.budget e cond ||
      match cond with
      | .binary .or l r _ => implies n e l || implies n e r
      | .isNull x true => impliesNotNull n e x false
      | _ => false

end

/-- Whether a partial index may serve: a term of the clause implies each `and`ed part of its
condition. On the right side of a left join only the join's own condition counts. -/
def usablePartial (clause : Array Term) (i : Nat) (l : Leaf) (filter : List Bound.Expr) : Bool :=
  filter.all fun f => clause.any fun t =>
    (t.outerOf.isNone || t.outerOf == some i) && (l.join != .left || t.outerOf.isSome) &&
      implies Reads.budget t.expr f && !t.vnull

/-- Whether a term may drive an index built for the statement: an equality or `is` on a column
of the source, with a value that does not read the source, a comparison the column's
preference allows, and a column no index starts with. -/
def canDriveIndex (i : Nat) (l : Leaf) (t : Term) : Bool :=
  match t.target with
  | some (tl, .column c, rel) =>
    tl == i && rel.isEquality && joinAllows l i t &&
      affinityFits t.cmp.affinity (operandAffinity l (.column c)) &&
      !(l.indexes.any fun ix => ix.keyCount > 0 && (ix.columns.head?.any (·.same (.column c))))
  | _ => false

/-- The columns of a source the statement reads that an index does not hold, the row id and
the column that is the row id apart; a column the condition of a partial index fixes to a
constant needs no reading. -/
def uncovered (l : Leaf) (ix : IndexView) : List Nat :=
  let holds (c : Nat) : Bool := ix.columns.any (·.same (.column c))
  let isRowid (c : Nat) : Bool := match l.table with
    | some t => c == t.columns.size || t.rowidColumn == some c
    | none => false
  let fixedByFilter (c : Nat) : Bool :=
    (ix.filter.getD []).any fun f =>
      match f with
      | .binary op (.column 0 s _ _) r cmp =>
        (op == .eq || op == .isSame) && isConstant r && cmp.collation == .binary &&
          s == l.offset + c &&
          ((l.table.bind (·.columns[c]?)).any fun col => col.affinity != .blob)
      | _ => false
  l.used.filter fun c => !isRowid c && !holds c && !fixedByFilter c

/-- Whether an expression reads nothing of source `i` that an index does not hold. -/
def coveredBy (leaves : Array Leaf) (i : Nat) (ix : IndexView) (e : Bound.Expr) : Bool :=
  (Reads.direct Reads.budget e).all fun s =>
    match slotOperand leaves s with
    | some (li, op) => li != i || op matches .rowid || ix.columns.any (·.same op)
    | none => true

/-- The cost of reading the table's rows for a scan of an index that does not hold all the
statement reads: three per row, less for each leading term of the filter the index alone can
test. -/
def lookupCost (s : Setting) (i : Nat) (ix : IndexView) (rSize : Int) : Int :=
  let rec go : List Term → Int → Int
    | [], acc => acc
    | t :: ts, acc =>
      if !coveredBy s.leaves i ix t.expr then acc
      else if t.truthProb ≤ 0 then go ts (acc + t.truthProb)
      else
        let eq := match t.target with
          | some (_, _, rel) => rel.isEquality
          | none => false
        go ts (acc - 1 - (if eq then 19 else 0))
  go s.main.toList (rSize + 16)

/-- Lists the loops that read a stored table: by an index built for the statement, by row id,
and through each of its indexes, scanning or searching. -/
def addTable (fuel : Nat) (s : Setting) (clauses : Clauses) (i : Nat) (l : Leaf) (mPrereq : Mask)
    (st : Listing) : Listing :=
  let rSize := l.rows
  let rLogSize := Estimate.depth rSize
  let hasRowid := (l.table.map (!·.withoutRowid)).getD false
  let st :=
    if st.branch.isNone && !s.branch && l.forced.isNone && hasRowid then
      match clauses with
      | (path, ts) :: _ =>
        ts.toList.zipIdx.foldl (fun st (t, j) =>
          if t.prereqRight.has i then st
          else if canDriveIndex i l t then
            st.insert { leaf := i, automatic := true, terms := [⟨path, j⟩], fixed := 1,
                        setup := max 0 (rLogSize + rSize + 28), rows := 43, run := Estimate.add rLogSize 43,
                        prereq := mPrereq ||| t.prereqRight }
          else st) st
      | [] => st
    else st
  let probes : List (Probe × Option IndexView) :=
    match l.forced with
    | some (some k) => ((l.indexes[k]?).map fun ix => (indexProbe l k ix, some ix)).toList
    | some none => [(rowidProbe l, none)]
    | none => (rowidProbe l, none) :: l.indexes.zipIdx.map fun (ix, k) => (indexProbe l k ix, some ix)
  let clause := (clauses.head?.map (·.2)).getD #[]
  (probes.zipIdx.foldl (fun st ((probe, view), k) =>
    let usable := match view with
      | some ix => match ix.filter with
        | some f => usablePartial clause i l f
        | none => true
      | none => true
    if !usable then st
    else
      let rSize := probe.rowEst.headD 0
      let sortIdx := if mightHelpOrder s i probe then k + 1 else 0
      let base : Loop := { leaf := i, index := probe.index, prereq := mPrereq, rows := rSize, sortIdx := sortIdx }
      match view with
      | none =>
        let scan : Loop := { base with byRowid := true, run := rSize + 16 - (if l.measured then 2 else 0) }
        let st := st.insert { scan with rows := outputAdjust clauses scan rSize }
        addIndexTerms fuel s clauses probe l { base with byRowid := true } 0 [] st
      | some ix =>
        let missing := uncovered l ix
        let covering := ix.index.origin == .created &&
          (l.table.map fun t => (List.range t.columns.size).all fun c =>
            t.rowidColumn == some c || ix.columns.any (·.same (.column c))).getD false
        let hasExpr := ix.columns.any fun c => c matches .expr _
        let (flagged, missingNone) : Loop × Bool :=
          if covering then ({ base with indexed := true, indexOnly := true }, true)
          else if hasExpr && !missing.isEmpty then
            match (l.exprCovered[probe.index.getD 0]?).getD none with
            | some true => ({ base with indexed := true, exprIndex := true }, true)
            | some false => ({ base with indexed := true, indexOnly := true }, true)
            | none => ({ base with indexed := true }, false)
          else if missing.isEmpty then ({ base with indexed := true, indexOnly := true }, true)
          else ({ base with indexed := true }, false)
        let scanned := sortIdx != 0 || !hasRowid || probe.filtered || l.forced.isSome ||
          (missingNone && probe.width < l.rowWidth)
        let st :=
          if scanned then
            let run := rSize + 1 + 15 * probe.width / l.rowWidth
            let run := if missingNone then run else Estimate.add run (lookupCost s i ix rSize)
            let scan := { flagged with run := run }
            st.insert { scan with rows := outputAdjust clauses scan rSize }
          else st
        addIndexTerms fuel s clauses probe l flagged 0 [] st) st)

/-- The clause of the branches of an `or` term. -/
def branchClause (s : Setting) (t : Term) : Array Term :=
  clause Reads.budget s.leaves false s.caseSensitive ((splitAt .or t.expr).map (baseTerm s.leaves t.outerOf))

/-- The clause of a branch of an `or` that is no single comparison: its `and`ed parts. -/
def partClause (s : Setting) (t br : Term) : Array Term :=
  clause Reads.budget s.leaves true s.caseSensitive ((splitAt .and br.expr).map (baseTerm s.leaves t.outerOf))

/-- Lists the searches of a source by several indexes: for each `or` term whose every branch
some index of the source may serve, the costs of reading each branch are combined, and each
combination kept is a loop that costs a little more than the sum. -/
def addAnyOf : Nat → Setting → Clauses → Nat → Leaf → Mask → Listing → Listing
  | 0, _, _, _, _, _, st => st
  | fuel + 1, s, clauses, i, l, mPrereq, st =>
    if l.join == .right || l.join == .full then st
    else
      match clauses with
      | [] => st
      | (path, ts) :: _ =>
        ts.toList.zipIdx.foldl (fun st (t, j) =>
          if t.branches.isEmpty || !t.indexable.has i then st
          else
            let arms := branchClause s t
            let step (acc : Array OrCost × Bool × Bool) (bk : Term × Nat) : Array OrCost × Bool × Bool :=
              let (sum, started, dead) := acc
              let (br, k) := bk
              if dead then acc
              else
                let sub : Option Clauses := match br.target with
                  | none => some ((path ++ [j, k], partClause s t br) :: clauses)
                  | some (bl, _, _) => if bl == i then some ((path ++ [j, k], #[br]) :: clauses) else none
                match sub with
                | none => acc
                | some cl =>
                  let inner : Listing := { loops := st.loops, branch := some #[] }
                  let inner := addAnyOf fuel s cl i l mPrereq (addTable fuel s cl i l mPrereq inner)
                  let cur := inner.branch.getD #[]
                  if cur.isEmpty then (#[], started, true)
                  else if !started then (cur, true, false)
                  else
                    let combined := sum.foldl (fun acc a => cur.foldl (fun acc b =>
                      orInsert acc ⟨a.prereq ||| b.prereq, Estimate.add a.run b.run, Estimate.add a.rows b.rows⟩) acc) #[]
                    (combined, true, false)
            let (sum, _, dead) := arms.toList.zipIdx.foldl step (#[], false, false)
            if dead then st
            else sum.foldl (fun st c =>
              st.insert { leaf := i, anyOf := some ⟨path, j⟩, terms := [⟨path, j⟩], run := c.run + 1,
                          rows := c.rows, prereq := c.prereq }) st) st

/-- Every loop of every source of a `from` of stored tables, with the terms found to hold for
at least half the rows. A source after a left or cross join must be read after every source
before it. -/
def listAll (s : Setting) : Listing :=
  let clauses : Clauses := [([], s.main)]
  let (st, _, _) := s.leaves.toList.zipIdx.foldl (fun (acc : Listing × Mask × Mask) (l, i) =>
    let (st, mPrereq, mPrior) := acc
    let mPrereq := if l.join == .left || l.join == .cross then mPrereq ||| mPrior else 0
    let st := addTable Reads.budget s clauses i l mPrereq st
    let st := addAnyOf Reads.budget s clauses i l mPrereq st
    (st, mPrereq, mPrior ||| bit i)) ({ loops := #[] }, 0, 0)
  st

/-- Every loop of every source of a `from` of stored tables. When the samples show some terms
hold for at least half the rows, the loops are listed again with those terms marked, so that
every loop leaves them as likely as the samples say. -/
def addAll (s : Setting) : Array Loop :=
  let first := listAll s
  let marks := first.highTruth.filter (·.clause.isEmpty)
  if marks.isEmpty then first.loops
  else
    let main := marks.foldl (fun (ts : Array Term) r => ts.modify r.index fun t => { t with highTruth := true }) s.main
    (listAll { s with main := main }).loops

end Planner

end QueryDoc.Store
