import QueryDoc.Store.Planner.Loops

/-!
Whether nested loops give rows in an order the statement wants.

Loops read in sequence give rows ordered by the outer loop first. A term of the wanted order
is given when it is a column some equality fixes to a value known by then, or when the index
a loop reads has it as its next column not fixed by the loop's own terms; the index may be
read backwards when the terms ask for the other direction, but then every term it gives must
ask for that direction. Once a loop gives rows that are distinct in the terms it gives, as a
unique index whose columns cannot be null does, the loops inside it cannot disturb the order,
and any term that only reads the loops so far is given too.

The answer is how many leading terms are given, or -1 when the loops so far give all their
rows distinct and loops still to come may give more.
-/

namespace QueryDoc.Store

namespace Planner

/-- Why an ordering is wanted, which changes what gives it. -/
structure OrderAim where
  /-- For `group by`: the rows of a group only need to come together, in either direction. -/
  grouping : Bool := false
  /-- For `distinct`, by the result columns. -/
  distinct : Bool := false
  /-- Only the innermost loop is judged. -/
  innerOnly : Bool := false
  /-- For the least or greatest value of an aggregate. -/
  extreme : Bool := false

/-- The term that fixes a column of a source for an ordering: the first the search meets with
a value that reads no source, else the first whose value reads only sources ready by then. -/
def findTerm (s : Setting) (i : Nat) (op : Operand) (ready : Mask) (fixes : Relation → Bool) :
    Option (TermRef × Term) :=
  let found := (scanTerms s.leaves [([], s.main)] (i, op) none).filter fun (_, t) =>
    match t.target with
    | some (_, _, rel) => fixes rel && t.prereqRight.within ready
    | none => false
  let isEq (t : Term) : Bool := match t.target with
    | some (_, _, rel) => rel.isEquality
    | none => false
  match found.find? (fun (_, t) => t.prereqRight == 0 && isEq t) with
  | some rt => some rt
  | none => found.head?

/-- What judging the loops has found so far. -/
structure OrderState where
  /-- The terms of the ordering given, as bits. -/
  given : Nat
  /-- Whether every loop so far gives its rows distinct in the terms it gives. -/
  distinct : Bool
  distinctMask : Mask
  ready : Mask
  rev : Mask

/-- The columns of the index a loop reads, with their directions and collations, the number of
key columns, and whether the index is unique; none for a loop that reads no index in order. -/
def loopIndex (s : Setting) (l : Loop) :
    Option (List (Operand × Bool × Collation) × Nat × Option Bool) :=
  if l.byRowid then some ([(.rowid, false, .binary)], 0, none)
  else if l.automatic || l.anyOf.isSome then none
  else
    match l.index, s.leaves[l.leaf]? with
    | some k, some leaf =>
      (leaf.indexes[k]?).map fun ix =>
        (ix.columns.zipIdx.map (fun (c, j) => (c, (ix.descending[j]?).getD false, (ix.collations[j]?).getD .binary)),
          ix.keyCount, some ix.unique)
    | _, _ => none

/-- The bit of a term of the ordering. -/
def orderBit (i : Nat) : Nat := 1 <<< i

/-- Whether the `k` first terms are all given. -/
def leadingGiven (given k : Nat) : Bool := given &&& (orderBit k - 1) == orderBit k - 1

/-- Walks the columns of the index a loop reads from column `j`, giving the terms of the
ordering they match; stops at a column that matches none. Columns the loop's equalities fix
are passed over; those a skip scan steps over are read in order like any other. Also says in
which direction the index is read, and whether the row id was matched. -/
def walkColumns (s : Setting) (aim : OrderAim) (order : Array OrderTerm) (l : Loop) (iLoop : Nat)
    (cols : List (Operand × Bool × Collation)) (keyCount : Nat) :
    Nat → Nat → OrderState × Option Bool × Bool → OrderState × Option Bool × Bool
  | 0, _, acc => acc
  | fuel + 1, j, (st, rev, rowidSeen) =>
    match cols[j]? with
    | none => (st, rev, rowidSeen)
    | some (col, desc, coll) =>
      let eqRel (rel : Relation) : Bool :=
        rel == .eq || rel == .is || rel == .isNull || ((aim.innerOnly || aim.extreme) && rel.isIn)
      let fixedRel : Option Relation :=
        if j < l.fixed && j ≥ l.skipped then
          (((l.terms[j - l.skipped]?).bind fun r => s.main[r.index]?).bind fun t => t.target.map (·.2.2)).filter eqRel
        else none
      match fixedRel with
      | some rel =>
        let st := if rel == .isNull || rel == .is then { st with distinct := false } else st
        walkColumns s aim order l iLoop cols keyCount fuel (j + 1) (st, rev, rowidSeen)
      | none =>
        let notNull : Bool := match col, s.leaves[l.leaf]? with
          | .column c, some leaf => columnNotNull leaf (.column c)
          | _, _ => true
        let st :=
          if st.distinct && (((col matches .column _) && j ≥ l.fixed && !notNull) || col matches .expr _) then
            { st with distinct := false }
          else st
        let fits (o : OrderTerm) : Bool :=
          let e := skipWrappers Reads.budget o.expr
          let sameColumn := match col with
            | .expr x => Bound.Expr.alike Reads.budget e (skipWrappers Reads.budget x)
            | _ => match plainColumn s.leaves e with
              | some (li, op) => li == l.leaf && op.same col
              | none => false
          sameColumn && (col matches .rowid || o.collation == coll)
        let free := order.toList.zipIdx.filter fun (_, i) => st.given &&& orderBit i == 0
        let found : Option (OrderTerm × Nat) :=
          if aim.grouping || aim.distinct then free.find? fun (o, _) => fits o
          else free.head?.bind fun (o, i) => if fits o then some (o, i) else none
        let (hit, rev, revMask) : Option (OrderTerm × Nat) × Option Bool × Mask :=
          match found with
          | some (o, i) =>
            if aim.grouping then (some (o, i), rev, st.rev)
            else
              match rev with
              | some r => if (r != desc) != o.descending then (none, rev, st.rev) else (some (o, i), rev, st.rev)
              | none =>
                let r := desc != o.descending
                (some (o, i), some r, if r then st.rev ||| bit iLoop else st.rev)
          | none => (none, rev, st.rev)
        let st := { st with rev := revMask }
        let hit := hit.filter fun (o, _) => !o.bigNull || j == l.fixed
        match hit with
        | some (_, i) =>
          walkColumns s aim order l iLoop cols keyCount fuel (j + 1)
            ({ st with given := st.given ||| orderBit i }, rev, rowidSeen || col matches .rowid)
        | none =>
          let st := if j == 0 || j < keyCount then { st with distinct := false } else st
          (st, rev, rowidSeen)

/-- Judges one loop at position `iLoop`; none when it reads no index in order, which gives
nothing at all. -/
def judgeLoop (s : Setting) (aim : OrderAim) (order : Array OrderTerm) (last : Bool) (st : OrderState)
    (iLoop : Nat) (l : Loop) : Option OrderState :=
  if aim.innerOnly && !last then some { st with ready := st.ready ||| bit l.leaf }
  else
    let eqRel (rel : Relation) : Bool :=
      rel == .eq || rel == .is || rel == .isNull || ((aim.innerOnly || aim.extreme) && rel.isIn)
    -- terms of the ordering fixed by an equality on a column of this source
    let given := order.toList.zipIdx.foldl (fun given (o, i) =>
      if given &&& orderBit i != 0 then given
      else
        match plainColumn s.leaves (skipWrappers Reads.budget o.expr) with
        | some (li, op) =>
          if li != l.leaf then given
          else
            match findTerm s li op st.ready eqRel with
            | some (r, t) =>
              let rel := (t.target.map (·.2.2)).getD .eq
              let usedIn := !rel.isIn || l.terms.contains r
              let collOk := if rel.isEquality && !(op matches .rowid) then t.cmp.collation == o.collation else true
              if usedIn && collOk then given ||| orderBit i else given
            | none => given
        | none => given) st.given
    let st := { st with given := given }
    let walked : Option OrderState :=
      if l.oneRow then some st
      else
        match loopIndex s l with
        | none => none
        | some (cols, keyCount, unique) =>
          let st := match unique with
            | some u => { st with distinct := u }
            | none => st
          let (st, _, rowidSeen) := walkColumns s aim order l iLoop cols keyCount (cols.length + 1) 0 (st, none, false)
          some (if rowidSeen then { st with distinct := true } else st)
    walked.map fun st =>
      let st :=
        if st.distinct then
          let dm := st.distinctMask ||| bit l.leaf
          let given := order.toList.zipIdx.foldl (fun given (o, i) =>
            if given &&& orderBit i != 0 then given
            else
              let m := maskOf s.leaves o.expr
              if m == 0 && !isConstant o.expr then given
              else if m.within dm then given ||| orderBit i else given) st.given
          { st with distinctMask := dm, given := given }
        else st
      { st with ready := st.ready ||| bit l.leaf }

/-- How many leading terms of the statement's ordering the loops give, the last loop being
`last` (-1 when more loops could give more), and which loops read backwards. -/
def satisfies (s : Setting) (aim : OrderAim) (path : List Loop) (last : Loop) : Int × Mask :=
  let order := s.order.toArray
  let n := order.size
  if n > 63 then (0, 0)
  else
    let done := orderBit n - 1
    let loops := path ++ [last]
    let rec go : List (Loop × Nat) → OrderState → Option OrderState
      | [], st => some st
      | (l, i) :: rest, st =>
        if !st.distinct || st.given == done then some st
        else
          match judgeLoop s aim order (i + 1 == loops.length) st i l with
          | some st => go rest st
          | none => none
    match go loops.zipIdx ⟨0, true, 0, 0, 0⟩ with
    | none => (0, 0)
    | some st =>
      if st.given == done then (n, st.rev)
      else if !st.distinct then
        let k := ((List.range n).reverse.find? fun k => k > 0 && leadingGiven st.given k).getD 0
        (k, st.rev)
      else (-1, st.rev)

end Planner

end QueryDoc.Store
