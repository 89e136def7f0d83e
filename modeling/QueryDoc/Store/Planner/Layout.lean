import QueryDoc.Store.Planner.Solve

/-!
From chosen loops to the order each stored table is read in.

A loop by row id reads its table in row id order; a loop through an index reads it in the
order of the index's columns, then the row id, each backwards when the loop reads backwards.
An index built for the statement holds the columns its equalities name, in the order the
clause names them, then the other columns the statement reads, then the row id, so a search of
it gives rows in that order. A search by several indexes reads one arm for each branch of its
`or`, each planned as a select of that one table under the branch and the other terms of the
clause, and skips rows an earlier arm gave.

Before loops are listed, a left join whose right side the filter needs to be a real row is
read as an inner join, and a `distinct` that a unique index shows to remove nothing asks for
no order.
-/

namespace QueryDoc.Store

namespace Planner

/-- Whether a condition can only hold when the slots from `lo` to `hi` come from a real row,
not the nulls of a left join: it reads one of them, other than through `is`, `is null`, a
function, `case`, a truth test or a row value, which may hold on nulls. Both sides of an
`and` or `or` must say so, as must both bounds of a `between` when its operand does not. -/
def needsRow : Nat → Nat → Nat → Bound.Expr → Bool
  | 0, _, _, _ => false
  | n + 1, lo, hi, e =>
    match e with
    | .column 0 s _ _ => lo ≤ s && s < hi
    | .binary .and l r _ | .binary .or l r _ => needsRow n lo hi l && needsRow n lo hi r
    | .binary .isSame _ _ _ | .binary .isNotSame _ _ _ => false
    | .binary _ l r _ => needsRow n lo hi l || needsRow n lo hi r
    | .unary _ a | .cast a _ | .collate a _ => needsRow n lo hi a
    | .inList a items _ _ => !items.isEmpty && needsRow n lo hi a
    | .between a b c _ _ _ => needsRow n lo hi a || (needsRow n lo hi b && needsRow n lo hi c)
    | _ => false

/-- Whether a term of a filter can only hold when the slots from `lo` to `hi` come from a real
row; `is not null` on them does. -/
def termNeedsRow (lo hi : Nat) (e : Bound.Expr) : Bool :=
  match skipWrappers Reads.budget e with
  | .isNull x true => needsRow Reads.budget lo hi x
  | x => needsRow Reads.budget lo hi x

/-- The joins of the sources once every left join whose right side some term needs as a real
row reads as an inner join; the terms of the condition of such a join then count as terms of
the filter. Sources are taken in the order of the `from`. -/
def simplifyJoins (leaves : Array Leaf) (terms : List (Bound.Expr × Option Nat)) :
    Array Leaf × List (Bound.Expr × Option Nat) :=
  leaves.toList.zipIdx.foldl (fun (acc : Array Leaf × List (Bound.Expr × Option Nat)) (l, i) =>
    let (ls, ts) := acc
    if l.join == .left &&
        ts.any (fun (e, outer) => outer.isNone && termNeedsRow l.offset (l.offset + l.width) e) then
      (ls.modify i ({ · with join := .inner }),
        ts.map fun (e, outer) => (e, if outer == some i then none else outer))
    else acc) (leaves, terms)

/-- How the statement's expressions read a source through an index: none when one reads a
column of the source the index does not hold; else whether one reads it through an
expression the index holds, which then covers what it reads. -/
def throughIndex (l : Leaf) (ix : IndexView) : Nat → Bound.Expr → Option Bool
  | 0, _ => some false
  | n + 1, e =>
    let held := ix.columns.any fun c => match c with
      | .expr x => Bound.Expr.alike Reads.budget x e
      | _ => false
    let covered (s : Nat) : Bool :=
      if s < l.offset || s ≥ l.offset + l.width then true
      else
        let c := s - l.offset
        c + 1 == l.width || (l.table.any fun t => t.rowidColumn == some c) ||
          ix.columns.any (·.same (.column c))
    let queryReads (q : Bound.Query) : Option Bool :=
      if (Reads.query Reads.budget 1 q).all covered then some false else none
    let all (es : List Bound.Expr) : Option Bool :=
      es.foldl (fun acc x => match acc, throughIndex l ix n x with
        | some a, some b => some (a || b)
        | _, _ => none) (some false)
    if held then some true
    else
      match e with
      | .column 0 s _ _ => if covered s then some false else none
      | .unary _ a | .truth a _ _ | .isNull a _ | .cast a _ | .collate a _ => all [a]
      | .binary _ a b _ | .rowCompare _ a b _ => all [a, b]
      | .between a b c _ _ _ => all [a, b, c]
      | .inList a items _ _ => all (a :: items)
      | .call _ args _ | .vector args => all args
      | .caseOf o bs x _ => all (o.toList ++ bs.flatMap (fun (a, b) => [a, b]) ++ x.toList)
      | .raise _ m => all m.toList
      | .inQuery es q _ _ =>
        match all es, queryReads q with
        | some a, some b => some (a || b)
        | _, _ => none
      | .subRow q _ | .exists q | .scalar q _ => queryReads q
      | _ => some false

/-- For each index of a source, how the statement's expressions read the source through it. -/
def coverage (l : Leaf) (exprs : List Bound.Expr) : List (Option Bool) :=
  l.indexes.map fun ix =>
    exprs.foldl (fun acc e => match acc, throughIndex l ix Reads.budget e with
      | some a, some b => some (a || b)
      | _, _ => none) (some false)

/-- Whether `distinct` can remove no row of a select of one table: a result column is its row
id, or the columns of a unique index that is not partial are each fixed by an equality with
a constant or given by a result column of the index's collation that cannot be null. -/
def distinctRedundant (s : Setting) (results : List Bound.Expr) : Bool :=
  match s.leaves.toList with
  | [l] =>
    let resultOperand (e : Bound.Expr) : Option Operand :=
      match skipWrappers Reads.budget e with
      | .column 0 slot _ _ => (slotOperand s.leaves slot).map (·.2)
      | _ => none
    results.any (fun e => (resultOperand e).any (· matches .rowid)) ||
      l.indexes.any fun ix =>
        ix.unique && ix.filter.isNone &&
          (List.range ix.keyCount).all fun j =>
            match ix.columns[j]? with
            | none => false
            | some col =>
              let coll := (ix.collations[j]?).getD .binary
              let aff := (operandAffinity l col)
              let fixed := (scanTerms s.leaves [([], s.main)] (0, col) (some (aff, coll))).any fun (_, t) =>
                t.prereqRight == 0 && (t.target.any fun (_, _, rel) => rel == .eq)
              fixed || (columnNotNull l col && results.any fun e =>
                match col, resultOperand e with
                | .column c, some (.column d) => c == d && e.collationOrBinary == coll
                | _, _ => false)
  | _ => false

/-- The ordering key of an operand of a source, in a direction. -/
def operandKey (l : Leaf) (op : Operand) (descending : Bool) (coll : Collation) : Bound.OrderKey :=
  let rowidSlot := l.offset + l.width - 1
  let e : Bound.Expr := match op with
    | .rowid => .column 0 rowidSlot none none
    | .column c =>
      if l.table.any (fun t => t.rowidColumn == some c) then .column 0 rowidSlot none none
      else .column 0 (l.offset + c) none none
    | .expr x => x
  .mk e descending (!descending) coll

/-- The keys of the index a statement builds to search a source read after the sources of
`ready`: the columns that equalities with values from those sources name, in the order of the
clause, each under its comparison's collation; then the other columns the statement reads;
then the row id. -/
def automaticKeys (s : Setting) (i : Nat) (l : Leaf) (ready : Mask) : List Bound.OrderKey :=
  let driving := s.main.toList.foldl (fun (acc : List (Nat × Collation)) t =>
    if t.prereqRight.within ready && canDriveIndex i l t then
      match t.target with
      | some (_, .column c, _) => if acc.any (·.1 == c) then acc else acc ++ [(c, t.cmp.collation)]
      | _ => acc
    else acc) []
  let isRowid (c : Nat) : Bool := c + 1 ≥ l.width || l.table.any (fun t => t.rowidColumn == some c)
  let extra := ((l.used.filter fun c => !isRowid c && !driving.any (·.1 == c)).eraseDups).mergeSort (· ≤ ·)
  driving.map (fun (c, coll) => operandKey l (.column c) false coll) ++
    extra.map (fun c => operandKey l (.column c) false .binary) ++ [operandKey l .rowid false .binary]

/-- Whether an expression holds a subquery. -/
def hasQuery : Nat → Bound.Expr → Bool
  | 0, _ => false
  | n + 1, e =>
    match e with
    | .inQuery _ _ _ _ | .subRow _ _ | .exists _ | .scalar _ _ => true
    | .unary _ a | .truth a _ _ | .isNull a _ | .cast a _ | .collate a _ => hasQuery n a
    | .binary _ a b _ | .rowCompare _ a b _ => hasQuery n a || hasQuery n b
    | .between a b c _ _ _ => hasQuery n a || hasQuery n b || hasQuery n c
    | .inList a items _ _ => hasQuery n a || items.any (hasQuery n)
    | .call _ args _ | .vector args => args.any (hasQuery n)
    | .caseOf o bs x _ =>
      o.any (hasQuery n) || bs.any (fun (a, b) => hasQuery n a || hasQuery n b) || x.any (hasQuery n)
    | .raise _ m => m.any (hasQuery n)
    | _ => false

/-- The terms of a clause that go with each branch of an `or` when the branch is planned
alone: every term the statement has that some search could use, but the `or` itself and terms
with a subquery. -/
def companions (s : Setting) (skip : Nat) : List Bound.Expr :=
  s.main.toList.zipIdx.filterMap fun (t, k) =>
    if k == skip || t.isVirtual || !t.searchable || hasQuery Reads.budget t.expr then none
    else some t.expr

mutual

/-- How a chosen loop reads its source: `ready` holds the sources read before it, and `rev`
says it reads its index backwards. -/
def loopAccess : Nat → Setting → Mask → Bool → Loop → Bound.Access
  | 0, _, _, _, _ => .sorted []
  | n + 1, s, ready, rev, l =>
    match s.leaves[l.leaf]? with
    | none => .sorted []
    | some leaf =>
      match l.anyOf with
      | some r =>
        match s.main[r.index]? with
        | some t =>
          let others := companions s r.index
          let arms := (branchClause s t).toList.filter fun bt => match bt.target with
            | some (bl, _, _) => bl == l.leaf
            | none => true
          .anyOf (armAccess n s l.leaf leaf t.outerOf others arms)
        | none => .sorted []
      | none =>
        if l.automatic then .sorted (automaticKeys s l.leaf leaf ready)
        else
          match l.index.bind (leaf.indexes[·]?) with
          | some ix =>
            .sorted (ix.columns.zipIdx.map fun (op, j) =>
              operandKey leaf op (((ix.descending[j]?).getD false) != rev) ((ix.collations[j]?).getD .binary))
          | none => .sorted [operandKey leaf .rowid rev .binary]

/-- The arms of a search by several indexes: each branch with the way a select of its source
alone, under the branch and the companion terms, reads the source. -/
def armAccess : Nat → Setting → Nat → Leaf → Option Nat → List Bound.Expr → List Term →
    List (Bound.Expr × Bound.Access)
  | 0, _, _, _, _, _, _ => []
  | _ + 1, _, _, _, _, _, [] => []
  | n + 1, s, i, leaf, outer, others, bt :: rest =>
    let solo := #[leaf]
    let own : Option Nat := if outer == some i then some 0 else none
    let terms := ((splitAt .and bt.expr) ++ others).map (baseTerm solo own)
    let sub : Setting :=
      { leaves := solo, main := clause Reads.budget solo true s.caseSensitive terms, order := [],
        caseSensitive := s.caseSensitive, branch := true }
    let access := match choose sub {} (addAll sub) 0 with
      | some c => match c.loops with
        | [l] => loopAccess n sub 0 false l
        | _ => .sorted []
      | none => .sorted []
    (bt.expr, access) :: armAccess n s i leaf outer others rest

end

/-- How the loops chosen for a select read its sources: the sources in the order the loops
nest, how each is read (in the order of the `from`), and how many leading terms of the
ordering the loops give. -/
structure Layout where
  nesting : List Nat
  reads : Array Bound.Access
  ordered : Nat

/-- The layout of the cheapest loops for a select. -/
def layout (s : Setting) (d : Demand) : Option Layout :=
  (choose s d (addAll s) 0).map fun c =>
    let (reads, _) := c.loops.zipIdx.foldl (fun (acc : Array Bound.Access × Mask) (l, k) =>
      let (reads, ready) := acc
      (reads.setIfInBounds l.leaf (loopAccess Reads.budget s ready (c.rev.has k) l), ready ||| bit l.leaf))
      (Array.replicate s.leaves.size (.sorted []), 0)
    ⟨c.loops.map (·.leaf), reads, c.ordered⟩

end Planner

end QueryDoc.Store
