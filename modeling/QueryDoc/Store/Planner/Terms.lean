import QueryDoc.Store.Planner.Reads
import QueryDoc.Store.Planner.Cost
import QueryDoc.Store.Planner.Histogram
import QueryDoc.Store.Schema

/-!
The terms of a `where` clause, as the planner sees them.

The filter of a select, with the conditions of its inner joins after it, is split at its
`and`s into terms. A term that compares a column of one source (or an expression an index
of that source holds) with a value is a constraint an index or the row id may serve: an
equality, a range bound, an `in`, or `is null`. The analysis adds virtual terms that say the
same thing in a form an index can use: the comparison turned around when its right side is a
column too, the two bounds of a `between`, the range a `like` or `glob` prefix implies, the
`in` that an `or` of equalities on one column amounts to, and `x > null` for `x is not null`.
An `or` whose every branch some index could serve is kept whole, for a search that runs each
branch by its own index.

Sets of sources are bit masks: bit `i` stands for the `i`-th source of the `from`.
-/

namespace QueryDoc.Store

namespace Planner

/-- A set of sources, bit `i` for the `i`-th source of the `from`. -/
abbrev Mask := Nat

/-- The set of the one source `i`. -/
def bit (i : Nat) : Mask := 1 <<< i

/-- Whether a set holds source `i`. -/
def Mask.has (m : Mask) (i : Nat) : Bool := (m >>> i) % 2 == 1

/-- Whether every source of `a` is in `b`. -/
def Mask.within (a b : Mask) : Bool := a &&& b == a

/-- Whether two sets share a source. -/
def Mask.meets (a b : Mask) : Bool := a &&& b != 0

/-- What a column of an index holds, or a term constrains: the row id, a column of the
table, or an expression over the table's columns. -/
inductive Operand where
  | rowid
  | column (c : Nat)
  | expr (e : Bound.Expr)

/-- Whether two operands are the same. -/
def Operand.same : Operand → Operand → Bool
  | .rowid, .rowid => true
  | .column a, .column b => a == b
  | .expr a, .expr b => Bound.Expr.alike Reads.budget a b
  | _, _ => false

/-- How a term constrains its operand. -/
inductive Relation where
  | eq
  | is
  | lt
  | le
  | gt
  | ge
  | isNull
  /-- `in` a list of so many values. -/
  | inValues (count : Nat)
  /-- `in` the rows of a subquery. -/
  | inQuery
  deriving BEq, Inhabited

/-- Whether a relation fixes its operand to one value: `=` or `is`. -/
def Relation.isEquality (r : Relation) : Bool := r == .eq || r == .is

/-- Whether a relation is an `in`. -/
def Relation.isIn : Relation → Bool
  | .inValues _ | .inQuery => true
  | _ => false

/-- Whether a relation is a lower bound. -/
def Relation.isLower (r : Relation) : Bool := r == .gt || r == .ge

/-- Whether a relation is an upper bound. -/
def Relation.isUpper (r : Relation) : Bool := r == .lt || r == .le

/-- The relation a comparison has when its operands change sides. -/
def Relation.turned : Relation → Relation
  | .lt => .gt
  | .le => .ge
  | .gt => .lt
  | .ge => .le
  | r => r

/-- The relation of a comparison operator, for those a search can use. -/
def relationOf : BinaryOp → Option Relation
  | .eq => some .eq
  | .isSame => some .is
  | .lt => some .lt
  | .le => some .le
  | .gt => some .gt
  | .ge => some .ge
  | _ => none

/-- An index as the planner sees it. -/
structure IndexView where
  index : Index
  /-- What each column holds, the key columns first, then the row id of a table that has
  one; expressions are over the select's row. -/
  columns : List Operand
  /-- How many of the columns are the key. -/
  keyCount : Nat
  collations : List Collation
  descending : List Bool
  /-- The condition of a partial index, split at its `and`s, over the select's row. -/
  filter : Option (List Bound.Expr)
  /-- The estimated rows of the index, then the rows an equality on each prefix of its key
  leaves. -/
  rowEst : List Int
  /-- The estimated size of an entry. -/
  width : Int
  /-- Whether the index refuses two entries with the same key. -/
  unique : Bool
  /-- Whether it is unique and none of its key columns may be null. -/
  uniqueNotNull : Bool
  /-- Whether it is the primary key of a table without row ids. -/
  primaryKey : Bool
  /-- Whether its estimates come from `analyze`. -/
  measured : Bool
  /-- Its samples, when `analyze` kept some. -/
  histogram : Option Histogram := none
  /-- Whether `analyze` says it serves no range. -/
  unordered : Bool := false
  /-- Whether `analyze` found more than a hundred entries all with one key, so that a search
  by equality is no better than a scan. -/
  lowQuality : Bool := false
  /-- Whether `analyze` says it serves no skip scan. -/
  noSkipScan : Bool := false

/-- A source of a select as the planner sees it. -/
structure Leaf where
  offset : Nat
  width : Nat
  /-- The stored table, for a table. -/
  table : Option Table
  /-- Its indexes, the newest first. -/
  indexes : List IndexView
  /-- The estimated rows of the source. -/
  rows : Int
  /-- The estimated size of a row. -/
  rowWidth : Int
  /-- How it joins the sources before it. -/
  join : JoinOp
  /-- The sources its rows depend on, for a table-valued function. -/
  depends : Mask
  /-- The index named by `indexed by`, or `not indexed`. -/
  forced : Option (Option Nat)
  /-- Whether it is a table-valued function. -/
  function : Bool
  /-- The columns the statement reads of it; the row id is the table's width. -/
  used : List Nat
  /-- For each index, whether the statement reads nothing of the source that the index does not
  hold: none when it does, some true when it reads some of it through the index's expressions,
  some false when through its columns alone. -/
  exprCovered : List (Option Bool)
  /-- Whether statistics from `analyze` describe the table. -/
  measured : Bool := false
  /-- Whether its columns count as columns of a source; when planning one branch of an `or`
  alone, the other sources' columns are values like constants. -/
  active : Bool := true

/-- The source a slot belongs to, and its place within the source. -/
def owner (leaves : Array Leaf) (s : Nat) : Option (Nat × Nat) :=
  (leaves.toList.zipIdx.find? fun (l, _) => l.active && l.offset ≤ s && s < l.offset + l.width).map
    fun (l, i) => (i, s - l.offset)

/-- The sources an expression reads, its subqueries included. -/
def maskOf (leaves : Array Leaf) (e : Bound.Expr) : Mask :=
  (Reads.ofExpr e).foldl (fun m s => match owner leaves s with
    | some (i, _) => m ||| bit i
    | none => m) 0

/-- An expression without the `collate`s around it. -/
def skipCollate : Bound.Expr → Bound.Expr
  | .collate e _ => skipCollate e
  | e => e

/-- The only source of a set of one. -/
def Mask.single (m : Mask) : Option Nat :=
  if m == 0 then none
  else
    let i := Nat.log2 m
    if m == bit i then some i else none

/-- The operand an expression is of a source: a column of it, or an expression one of its
indexes holds. -/
def operandOf (leaves : Array Leaf) (e : Bound.Expr) : Option (Nat × Operand) :=
  match skipCollate e with
  | .column 0 s _ _ =>
    (owner leaves s).map fun (i, c) =>
      match (leaves[i]?).bind (·.table) with
      | some t => if c == t.columns.size || t.rowidColumn == some c then (i, .rowid) else (i, .column c)
      | none => (i, .column c)
  | e' =>
    match (maskOf leaves e').single with
    | some i =>
      let held := ((leaves[i]?).map fun l => l.indexes.any fun ix => ix.columns.any fun o =>
        match o with
        | .expr x => Bound.Expr.alike Reads.budget x e'
        | _ => false).getD false
      if held then some (i, .expr e') else none
    | none => none

/-- The comparison that says the same with its operands the other way round. -/
def turnedOp : BinaryOp → BinaryOp
  | .lt => .gt
  | .le => .ge
  | .gt => .lt
  | .ge => .le
  | op => op

/-- Whether an operand may be null: the row id never is, nor a column declared not null
unless its source is the right side of a left join; an expression may always be. -/
def canBeNull (leaves : Array Leaf) (li : Nat) : Operand → Bool
  | .rowid => false
  | .column c =>
    match leaves[li]? with
    | some l =>
      l.join == .left || match l.table.bind (·.columns[c]?) with
        | some col => !col.notNull
        | none => true
    | none => true
  | .expr _ => true

/-- A term of a `where` clause. -/
structure Term where
  expr : Bound.Expr
  /-- The sources the term reads. -/
  prereqAll : Mask
  /-- The sources its value side reads. -/
  prereqRight : Mask := 0
  /-- The source and operand it constrains, and how. -/
  target : Option (Nat × Operand × Relation) := none
  /-- The side that is the operand. -/
  lhs : Option Bound.Expr := none
  /-- The side that is the value. -/
  value : Option Bound.Expr := none
  /-- The conversion and collation the comparison applies. -/
  cmp : Comparison := ⟨none, .binary⟩
  /-- An equality of two columns that may stand for each other. -/
  equiv : Bool := false
  /-- A term the analysis added, which the statement need not test. -/
  isVirtual : Bool := false
  /-- The term it was made from. -/
  parent : Option Nat := none
  /-- Whether a turned-around copy of it was added. -/
  copied : Bool := false
  /-- The bound `x > null` made from `x is not null`. -/
  vnull : Bool := false
  /-- One of the two bounds made from a `like` or `glob` prefix. -/
  likeBound : Bool := false
  /-- The estimated chance it holds, when a `likelihood` gives one; 1 when none does. -/
  truthProb : Int := 1
  /-- For a term of a left join's condition, the source whose condition it is. -/
  outerOf : Option Nat := none
  /-- For an `or`: its branches. -/
  branches : List Bound.Expr := []
  /-- For an `or`: the sources every branch has a constraint on. -/
  indexable : Mask := 0
  /-- In the branches of an `or`, a branch that is no single comparison. -/
  conjunction : Bool := false
  /-- The samples of an index show it holds for at least half the rows: a loop that leaves it
  unused keeps its rows. -/
  highTruth : Bool := false

/-- Whether a term can be served by a search: a constraint, or an `or`. -/
def Term.searchable (t : Term) : Bool := t.target.isSome || !t.branches.isEmpty

/-- The integer an expression is, when it is an integer literal, signed or not. -/
def integerLiteral : Bound.Expr → Option Int
  | .const (.integer i) => some i
  | .unary .plus e => integerLiteral e
  | .unary .neg e => (integerLiteral e).map (- ·)
  | _ => none

/-- Whether an expression is a constant: no column and no subquery. -/
def isConstant (e : Bound.Expr) : Bool :=
  match e with
  | .const _ | .param _ => true
  | .unary _ a | .cast a _ | .collate a _ => isConstant a
  | _ => false

/-- Splits a condition at its top-level operator. -/
def splitAt (op : BinaryOp) : Bound.Expr → List Bound.Expr
  | .binary o l r c => if o == op then splitAt op l ++ splitAt op r else [.binary o l r c]
  | e => [e]

/-- A term before analysis: the estimated chance a `likelihood` gives it, taken off. -/
def baseTerm (leaves : Array Leaf) (outerOf : Option Nat) (e : Bound.Expr) : Term :=
  let (inner, prob) : Bound.Expr × Int := match e with
    | .call .likelihood [x, .const (.real p)] _ =>
      (x, Estimate.ofCount (p * 134217728.0).toUInt64.toNat - 270)
    | .call .likely [x] _ => (x, Estimate.ofCount 125829939 - 270)
    | .call .unlikely [x] _ => (x, Estimate.ofCount 8388608 - 270)
    | other => (other, 1)
  let all := maskOf leaves inner
  let all := match outerOf with
    | some j => all ||| bit j
    | none => all
  { expr := inner, prereqAll := all, truthProb := prob, outerOf := outerOf }

/-- Whether an equality of two columns lets either stand for the other: the same preference
(or both numeric) and a collation both sides agree on. -/
def isEquivalence (op : BinaryOp) (l r : Bound.Expr) (cmp : Comparison) (outer : Bool) : Bool :=
  if (op != .eq && op != .isSame) || outer then false
  else
    let a1 := l.affinity
    let a2 := r.affinity
    let numeric (a : Option Affinity) : Bool := match a with
      | some x => x.isNumeric
      | none => false
    if a1 != a2 && !(numeric a1 && numeric a2) then false
    else cmp.collation == .binary || l.collation Bound.collationDepth == r.collation Bound.collationDepth

/-- The prefix of a `like` or `glob` pattern before its first wildcard, escapes taken out,
and whether the pattern is that prefix and one `%` or `*`; none when there is no usable
prefix. -/
def patternPrefix (pattern : String) (glob : Bool) (escape : Option Char) : Option (String × Bool) :=
  let cs := pattern.toList
  let isWild (c : Char) : Bool := if glob then c == '*' || c == '?' || c == '[' else c == '%' || c == '_'
  let rec scan : Nat → List Char → List Char → Nat → List Char × Nat × List Char
    | 0, rest, acc, k => (acc.reverse, k, rest)
    | _ + 1, [], acc, k => (acc.reverse, k, [])
    | f + 1, c :: rest, acc, k =>
      if isWild c then (acc.reverse, k, c :: rest)
      else if some c == escape then
        match rest with
        | d :: more => scan f more (d :: acc) (k + 2)
        | [] => scan f [] acc (k + 1)
      else scan f rest (c :: acc) (k + 1)
  match scan cs.length cs [] 0 with
  | (pre, count, stop) =>
    let firstIsEscape := (cs.head? == some (escape.getD (Char.ofNat 0))) && escape.isSome
    if (count > 1 || (count > 0 && !firstIsEscape)) && !pre.isEmpty then
      let complete := match stop with
        | [c] => c == (if glob then '*' else '%')
        | _ => false
      some (String.ofList pre, complete)
    else none

/-- The text just past every text that starts with a prefix: its last character raised by
one. -/
def prefixEnd (p : String) : String :=
  match p.toList.reverse with
  | c :: rest => String.ofList ((Char.ofNat (c.toNat + 1) :: rest).reverse)
  | [] => p

/-- The two bounds a `like` or `glob` with a literal prefix implies on its column: at least
the prefix, and below the prefix with its last character raised. A `like` that ignores case
compares them without case, the lower bound in upper case and the upper in lower case. A
prefix that reads as a number is no use unless the column holds text. The bounds stand for
the whole term when the pattern is the prefix and one `%` or `*`. -/
def likeTerm (leaves : Array Leaf) (caseSensitive : Bool) (ts : Array Term) (i : Nat) (t : Term)
    (f : Builtin) (args : List Bound.Expr) : Array Term :=
  let glob := f == .glob
  match args with
  | pat :: left :: rest =>
    let escape : Option (Option Char) := match rest with
      | [] => some none
      | [.const (.text e)] =>
        match e.toList with
        | [c] => if !glob && (c == '%' || c == '_') then none else some (some c)
        | _ => none
      | _ => none
    match skipCollate pat, escape, operandOf leaves left with
    | .const (.text p), some esc, some (li, lo) =>
      match patternPrefix p glob esc with
      | some (pre, complete) =>
        let noCase := !glob && !caseSensitive
        let textColumn := match left with
          | .column _ _ (some .text) _ => true
          | _ => false
        let numeric := (numberOfText? pre).isSome || pre == "-" || (numberOfText? (prefixEnd pre)).isSome
        if !textColumn && numeric then ts
        else
          let asciiUpper (c : Char) : Char := if c.isLower then c.toUpper else c
          let asciiLower (c : Char) : Char := if c.isUpper then c.toLower else c
          let lower := if noCase then String.ofList (pre.toList.map asciiUpper) else pre
          let upperBase := if noCase then String.ofList (pre.toList.map asciiLower) else pre
          let complete := complete && !(noCase && pre.toList.getLast? == some '@')
          let upper := prefixEnd upperBase
          let coll := if noCase then Collation.nocase else .binary
          let cmp : Comparison := ⟨left.affinity, coll⟩
          let bound (op : BinaryOp) (rel : Relation) (v : String) : Term :=
            { expr := .binary op (.collate left coll) (.const (.text v)) cmp, prereqAll := maskOf leaves left,
              isVirtual := true, parent := if complete then some i else none, likeBound := true,
              target := some (li, lo, rel), lhs := some left, value := some (.const (.text v)), cmp := cmp,
              outerOf := t.outerOf }
          (ts.push (bound .ge .ge lower)).push (bound .lt .lt upper)
      | none => ts
    | _, _, _ => ts
  | _ => ts

/-- Every source, as a set. -/
def allSources : Mask := bit 64 - 1

/-- The `in` an `or` of equalities amounts to, when every branch compares one column of one
source with a value whose preference is none or the column's: the column, its source and
operand, and the values in branch order. Both sides of a branch that equates two columns are
tried. -/
def inFromEqualities (sub : Array Term) (toIn : Mask) :
    Option (Bound.Expr × (Nat × Operand) × List Bound.Expr) :=
  let terms := sub.toList
  let attempt (prev : Option Nat) : Option (Option (Bound.Expr × (Nat × Operand) × List Bound.Expr)) :=
    let pick (st : Term) : Bool := match st.target with
      | some (li, _, _) => some li != prev && toIn.has li
      | none => false
    match terms.findIdx? pick with
    | none => none
    | some k =>
      match terms[k]?.bind fun c => c.target.bind fun tg => c.lhs.map (tg, ·) with
      | some ((li, lo, _), left) =>
        let rest := terms.drop k
        let fits (st : Term) : Bool := match st.target with
          | some (sl, so, _) =>
            if sl != li then true
            else so.same lo && (match st.value.bind (·.affinity) with
              | none => true
              | some a => some a == (st.lhs.bind (·.affinity)))
          | none => true
        if rest.all fits then
          let values := rest.filterMap fun st => match st.target with
            | some (sl, _, _) => if sl == li then st.value else none
            | none => none
          some (some (left, (li, lo), values))
        else some none
      | none => some none
  match attempt none with
  | some (some r) => some r
  | some none =>
    let first := terms.find? fun st => match st.target with
      | some (li, _, _) => toIn.has li
      | none => false
    match first.bind (·.target) with
    | some (li, _, _) =>
      match attempt (some li) with
      | some (some r) => some r
      | _ => none
    | none => none
  | none => none

mutual

/-- Analyzes the term at a position of a clause, adding the virtual terms it implies. In the
branches of an `or` (`conjunctive` false) only turned-around copies are added. -/
def analyzeAt : Nat → Array Leaf → Bool → Bool → Array Term → Nat → Array Term
  | 0, _, _, _, ts, _ => ts
  | n + 1, leaves, conjunctive, caseSensitive, ts, i =>
    match ts[i]? with
    | none => ts
    | some t =>
      let addChild (ts : Array Term) (c : Term) : Array Term :=
        let all := maskOf leaves c.expr ||| (match t.outerOf with
          | some j => bit j
          | none => 0)
        let ts := ts.push { c with isVirtual := true, parent := some i, outerOf := t.outerOf, prereqAll := all }
        analyzeAt n leaves conjunctive caseSensitive ts (ts.size - 1)
      -- a turned-around copy is complete as made: analyzing it again would turn it back
      let pushCopy (ts : Array Term) (c : Term) : Array Term :=
        ts.push { c with isVirtual := true, parent := some i, outerOf := t.outerOf, prereqAll := t.prereqAll }
      match t.expr with
      | .binary op l r cmp =>
        if op == .or then
          if conjunctive then orTerm n leaves caseSensitive ts i else ts
        else
          match relationOf op with
          | none => ts
          | some rel =>
            let prereqLeft := maskOf leaves l
            let prereqRight := maskOf leaves r
            if prereqLeft.meets prereqRight then ts
            else
              let outerLeft : Mask := match t.outerOf with
                | some j => bit j - 1
                | none => 0
              let equiv := isEquivalence op l r cmp t.outerOf.isSome
              let base := { t with prereqRight := prereqRight, cmp := cmp }
              match operandOf leaves l, operandOf leaves r with
              | some (li, lo), some (ri, ro) =>
                let withLeft : Term :=
                  { base with target := some (li, lo, rel), lhs := some l, value := some r,
                              copied := true, equiv := equiv }
                let ts := ts.set! i withLeft
                let turned : Term :=
                  { t with prereqRight := prereqLeft ||| outerLeft, target := some (ri, ro, rel.turned),
                           lhs := some r, value := some l, cmp := cmp, equiv := equiv,
                           expr := .binary (turnedOp op) r l cmp }
                pushCopy ts turned
              | some (li, lo), none =>
                ts.set! i { base with target := some (li, lo, rel), lhs := some l, value := some r }
              | none, some (ri, ro) =>
                let turned : Term :=
                  { base with prereqRight := prereqLeft ||| outerLeft, target := some (ri, ro, rel.turned),
                              lhs := some r, value := some l, expr := .binary (turnedOp op) r l cmp }
                ts.set! i turned
              | none, none => ts
      | .inList e items false cmps =>
        match e, operandOf leaves e with
        | .vector _, _ => ts
        | _, some (li, lo) =>
          let right := items.foldl (fun m x => m ||| maskOf leaves x) 0
          let rel := match items with
            | [v] => if isConstant v then Relation.eq else .inValues 1
            | _ => .inValues items.length
          let value := match items with
            | [v] => some v
            | _ => none
          let _ := cmps
          ts.set! i
            { t with target := some (li, lo, rel), prereqRight := right, lhs := some e, value := value,
                     cmp := ⟨e.affinity, e.collationOrBinary⟩ }
        | _, none => ts
      | .inQuery [e] q false cmps =>
        match operandOf leaves e with
        | some (li, lo) =>
          ts.set! i
            { t with target := some (li, lo, .inQuery), prereqRight := maskOf leaves (.exists q), lhs := some e,
                     cmp := ⟨(cmps.head?.map (·.affinity)).getD e.affinity, e.collationOrBinary⟩ }
        | none => ts
      | .isNull e false =>
        match operandOf leaves e with
        | some (li, lo) =>
          if t.outerOf.isNone && !(canBeNull leaves li lo) then ts.set! i { t with prereqAll := 0 }
          else ts.set! i { t with target := some (li, lo, .isNull), prereqRight := 0, lhs := some e }
        | none => ts
      | .isNull e true =>
        match skipCollate e, operandOf leaves e with
        | .column _ _ _ _, some (li, .column c) =>
          if t.outerOf.isNone then
            let ts := ts.set! i { t with copied := true }
            let gt : Bound.Expr := .binary .gt e (.const .null) ⟨e.affinity, e.collationOrBinary⟩
            let ts := ts.push
              { t with expr := gt, isVirtual := true, parent := some i, vnull := true,
                       target := some (li, .column c, .gt), lhs := some e, value := some (.const .null), prereqRight := 0 }
            ts
          else ts
        | _, _ => ts
      | .between e lo hi false low high =>
        if conjunctive then
          let ts := addChild ts { t with expr := .binary .ge e lo low }
          addChild ts { t with expr := .binary .le e hi high }
        else ts
      | .call f args _ =>
        if conjunctive && (f == .glob || f == .like) then likeTerm leaves caseSensitive ts i t f args
        else ts
      | _ => ts

/-- Analyzes an `or` term: its branches as a clause of their own, the sources every branch
has a constraint on, and the `in` it amounts to when every branch is an equality on one
column. -/
def orTerm : Nat → Array Leaf → Bool → Array Term → Nat → Array Term
  | 0, _, _, ts, _ => ts
  | n + 1, leaves, caseSensitive, ts, i =>
    match ts[i]? with
    | none => ts
    | some t =>
      let arms := splitAt .or t.expr
      let sub := clause n leaves false caseSensitive (arms.map (baseTerm leaves t.outerOf))
      let step (acc : Mask × Mask) (st : Term) : Mask × Mask :=
        let (indexable, toIn) := acc
        if indexable == 0 then acc
        else
          match st.target with
          | none =>
            let parts := clause n leaves true caseSensitive ((splitAt .and st.expr).map (baseTerm leaves t.outerOf))
            let b := parts.foldl (fun m pt => match pt.expr, pt.target with
              | .binary op _ _ _, some (li, _, _) => if (relationOf op).isSome then m ||| bit li else m
              | .inList _ _ _ _, some (li, _, _) | .inQuery _ _ _ _, some (li, _, _)
              | .isNull _ false, some (li, _, _) => m ||| bit li
              | _, _ => m) 0
            (indexable &&& b, 0)
          | some (li, _, rel) =>
            if st.copied then acc
            else
              let b := bit li ||| (match st.parent.bind (sub[·]?) with
                | some p => (p.target.map fun (pl, _, _) => bit pl).getD 0
                | none => 0)
              (indexable &&& b, if rel == .eq then toIn &&& b else 0)
      let (indexable, toIn) := sub.foldl step (allSources, allSources)
      let ts := ts.set! i { t with branches := arms, indexable := indexable }
      if toIn == 0 then ts
      else
        match inFromEqualities sub toIn with
        | some (left, target, values) =>
          let inExpr : Bound.Expr := .inList left values false [⟨left.affinity, left.collationOrBinary⟩]
          let inTerm : Term :=
            { expr := inExpr, prereqAll := t.prereqAll, isVirtual := true, parent := some i, outerOf := t.outerOf }
          let ts := ts.push inTerm
          let k := ts.size - 1
          match ts[k]? with
          | some nt =>
            let right := values.foldl (fun m x => m ||| maskOf leaves x) 0
            ts.set! k
              { nt with target := some (target.1, target.2, .inValues values.length), lhs := some left,
                        prereqRight := right, cmp := ⟨left.affinity, left.collationOrBinary⟩ }
          | none => ts
        | none => ts

/-- Analyzes the terms of a clause, the last first, each adding its virtual terms at the end. -/
def clause : Nat → Array Leaf → Bool → Bool → List Term → Array Term
  | 0, _, _, _, ts => ts.toArray
  | n + 1, leaves, conjunctive, caseSensitive, ts =>
    (List.range ts.length).reverse.foldl (fun acc i => analyzeAt n leaves conjunctive caseSensitive acc i)
      ts.toArray

end

end Planner

end QueryDoc.Store
