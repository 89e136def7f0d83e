import QueryDoc.Store.Planner.Order

/-!
Choosing the order of the loops, and the loop for each source.

Paths of loops are grown one source at a time, keeping at each length the few cheapest paths
(one for a single source, five for two, ten for more). A path's cost adds each loop's cost,
run once for every row the loops outside it give; a path whose rows come out in an order the
statement does not want pays for sorting them, and one that needs no sort is favoured a
little. Paths that read the same sources are compared only with each other, apart from those
whose order is not yet known.

The statement's ordering is first left out, which gives an estimate of the rows; the paths are
then grown again with the ordering and the cost of sorting that many rows. Between the two
runs, a source that the first answer searches by equality, from the outermost on, may no
longer be scanned whole.
-/

namespace QueryDoc.Store

namespace Planner

/-- What the statement asks of its rows that bears on the cost of sorting them and on how an
ordering is judged. -/
structure Demand where
  aim : OrderAim := {}
  /-- How many columns the statement gives: wider rows cost more to sort. -/
  columns : Nat := 1
  /-- The estimate of a constant `limit`. -/
  limit : Option Int := none
  /-- The statement wants its rows distinct. -/
  distinct : Bool := false
  /-- The grouping and the ordering ask for the same terms. -/
  sortByGroup : Bool := false

/-- The estimated cost of sorting `nRow` rows when the first `nSorted` of the `nOrderBy` terms
of the ordering already hold: rows times the depth of the sort, dearer for wide rows, cheaper
for a sort of the last terms only, and dearer still under a `limit`. -/
def sortCost (d : Demand) (nRow : Int) (nOrderBy nSorted : Nat) : Int :=
  let cost := nRow + Estimate.ofCount ((d.columns + 59) / 30)
  let cost :=
    if nSorted > 0 then cost + Estimate.ofCount ((nOrderBy - nSorted) * 100 / max nOrderBy 1) - 66 else cost
  let (cost, nRow) : Int × Int :=
    match d.limit with
    | some lim => (cost + 10 + (if nSorted != 0 then 6 else 0), min lim nRow)
    | none => (cost, if d.distinct && nRow > 10 then nRow - 10 else nRow)
  cost + Estimate.depth nRow

/-- Loops for some of the sources, outermost first, with what they cost together. -/
structure Path where
  mask : Mask := 0
  /-- The loops, by their place in the path, that read their index backwards. -/
  rev : Mask := 0
  rows : Int := 0
  cost : Int := 0
  /-- The cost without sorting, a little less when no sort is needed. -/
  unsorted : Int := 0
  /-- How many leading terms of the ordering the loops give; -1 while loops to come may give
  more. -/
  ordered : Int := 0
  loops : List Loop := []
  deriving Inhabited

/-- A path grown by one loop, when the loop may come next: its source is not in the path, the
sources it needs are, and an index built for the statement is paid back by the rows the path
gives before it. -/
def Path.extend (s : Setting) (d : Demand) (nOrderBy : Nat) (nRowEst : Int) (p : Path) (l : Loop) :
    Option Path :=
  if !l.prereq.within p.mask || p.mask.has l.leaf || (l.automatic && p.rows < 3) then none
  else
    let unsorted := Estimate.add (Estimate.add l.setup (l.run + p.rows)) p.unsorted
    let (ordered, rev) : Int × Mask :=
      if p.ordered < 0 then satisfies s d.aim p.loops l else (p.ordered, p.rev)
    let (cost, unsorted) : Int × Int :=
      if ordered ≥ 0 && ordered < nOrderBy then
        (Estimate.add unsorted (sortCost d nRowEst nOrderBy ordered.toNat) + 3, unsorted)
      else (unsorted, unsorted - 2)
    some { mask := p.mask ||| bit l.leaf, rev := rev, rows := p.rows + l.rows, cost := cost,
           unsorted := unsorted, ordered := ordered, loops := p.loops ++ [l] }

/-- The paths kept while paths grow by one loop, and which of them is the worst. -/
structure Frontier where
  paths : Array Path := #[]
  worst : Nat := 0
  worstCost : Int := 0
  worstUnsorted : Int := 0

/-- Whether path `q` is at least as good as `p`: cheaper, or as cheap with fewer rows, or with
as many rows and no dearer without sorting. -/
def Path.noWorse (q p : Path) : Bool :=
  q.cost < p.cost || (q.cost == p.cost && (q.rows < p.rows || (q.rows == p.rows && q.unsorted ≤ p.unsorted)))

/-- Offers a path to the frontier. A kept path of the same sources, whose order is known or
unknown alike, is replaced when the new one is better; else the new path is added while fewer
than `mxChoice` are kept, or replaces the worst when it beats it. Once the frontier is full, the
worst is found anew; its cost without sorting starts from the first path's rows. -/
def Frontier.offer (mxChoice : Nat) (f : Frontier) (p : Path) : Frontier :=
  let same := f.paths.findIdx? fun q => q.mask == p.mask && (q.ordered < 0) == (p.ordered < 0)
  let slot : Option Nat :=
    match same with
    | none =>
      if f.paths.size ≥ mxChoice &&
          (p.cost > f.worstCost || (p.cost == f.worstCost && p.unsorted ≥ f.worstUnsorted)) then none
      else if f.paths.size < mxChoice then some f.paths.size
      else some f.worst
    | some j => if (f.paths.getD j default).noWorse p then none else some j
  match slot with
  | none => f
  | some j =>
    let paths := if j < f.paths.size then f.paths.set! j p else f.paths.push p
    if paths.size ≥ mxChoice then
      let first := paths.getD 0 default
      let (w, wc, wu) := (paths.toList.zipIdx.drop 1).foldl (fun (acc : Nat × Int × Int) (q, k) =>
        if k < mxChoice && (q.cost > acc.2.1 || (q.cost == acc.2.1 && q.unsorted > acc.2.2)) then
          (k, q.cost, q.unsorted)
        else acc) (0, first.cost, first.rows)
      { paths := paths, worst := w, worstCost := wc, worstUnsorted := wu }
    else { f with paths := paths }

/-- The cheapest paths over every source, grown from the empty path; for each path kept at one
length, every loop is tried in the order loops were listed. -/
def solvePaths (s : Setting) (d : Demand) (loops : Array Loop) (nRowEst : Int) (nQueryLoop : Int) :
    Array Path :=
  let nLoop := s.leaves.size
  let mxChoice := if nLoop ≤ 1 then 1 else if nLoop == 2 then 5 else 10
  let nOrderBy := if nRowEst == 0 then 0 else s.order.length
  let start : Path := { rows := min nQueryLoop 48, ordered := if nOrderBy > 0 then -1 else 0 }
  let rec grow : Nat → Array Path → Frontier → Array Path
    | 0, froms, _ => froms
    | k + 1, froms, f =>
      let f := froms.foldl (fun f p => loops.foldl (fun f l =>
        match p.extend s d nOrderBy nRowEst l with
        | some q => f.offer mxChoice q
        | none => f) f) { f with paths := #[] }
      grow k f.paths f
  grow nLoop #[start] {}

/-- The cheapest of the paths, the first among equals. -/
def cheapest (paths : Array Path) : Option Path :=
  paths.foldl (fun best p => match best with
    | some b => if b.cost > p.cost then some p else best
    | none => some p) none

/-- The loops left for the second run: for each source from the outermost on whose loop the
first answer searches by equality, `in` or `is null`, only loops that search it by some term
or by an index built for the statement stay; the first answer's loop of another kind stops
this. -/
def interstage (loops : Array Loop) : List Loop → Array Loop
  | [] => loops
  | p :: ps =>
    if p.columnEq || p.columnNull || p.columnIn then
      interstage (loops.filter fun l => l.leaf != p.leaf || l.columnEq || l.columnIn || l.columnNull ||
        l.columnRange || l.automatic) ps
    else loops

/-- The loops chosen for a select, outermost first; which of them, by their place, read their
index backwards; and how many leading terms of the ordering they give. -/
structure Chosen where
  loops : List Loop
  rev : Mask
  ordered : Nat

/-- Chooses the loops for a select from those listed: a first run without the ordering, then,
when there is one, a second run with it. When the loops give no leading term of the ordering,
the innermost loop alone may still give it all, and then decides the direction; when grouping
and ordering ask for the same terms and the loops give the grouping, the direction is the one
that also gives the ordering. A `distinct` ordering reads every index forwards. -/
def choose (s : Setting) (d : Demand) (loops : Array Loop) (nQueryLoop : Int) : Option Chosen :=
  match cheapest (solvePaths s d loops 0 nQueryLoop) with
  | none => none
  | some first =>
    if s.order.isEmpty then some ⟨first.loops, 0, 0⟩
    else
      let kept := interstage loops first.loops
      match cheapest (solvePaths s d kept (first.rows + 1) nQueryLoop) with
      | none => none
      | some p =>
        let n := s.order.length
        let nOBSat : Int := p.ordered
        if d.aim.distinct then some ⟨p.loops, 0, nOBSat.toNat⟩
        else
          let inner := p.loops.dropLast
          let rev : Mask :=
            if nOBSat ≤ 0 then
              match p.loops.getLast? with
              | some last =>
                if !last.oneRow && !(last.byRowid && last.columnIn) then
                  let (r, m) := satisfies s { innerOnly := true } inner last
                  if r == n then m else p.rev
                else p.rev
              | none => p.rev
            else p.rev
          let nOBSat := max nOBSat 0
          let rev : Mask :=
            if d.sortByGroup && nOBSat == n then
              match p.loops.getLast? with
              | some last =>
                let (r, m) := satisfies s {} inner last
                if r == n then m else rev
              | none => rev
            else rev
          some ⟨p.loops, rev, nOBSat.toNat⟩

end Planner

end QueryDoc.Store
