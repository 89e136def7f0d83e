import QueryDoc.Store.Bound
import QueryDoc.Store.Schema

/-!
What binding sees and keeps.

Binding looks names up in scopes: the sources of each select being bound, innermost first,
each source showing its columns with their preferences and collations. A select's own result
aliases may be named in its clauses. Common tables are bound when a source first names them,
in the scope where they are defined.

Binding also accumulates: fresh numbers, the columns used of each source, the aggregates and
window functions of the select being bound, the common tables bound so far, and a failure
that only running the statement meets. Of several such failures the last one found is the
one reported, as the clauses are looked up in a fixed order.

This module also holds the parts of binding that need no recursion: finding a name among
sources, naming result columns, and choosing the order a stored table is read in.
-/

namespace QueryDoc.Store

/-- A column as names see it. -/
structure VisibleColumn where
  name : String
  affinity : Option Affinity
  collation : Option Collation
  /-- A column that `*` and natural joins leave out but names still reach, as the arguments
  of a table-valued function are. -/
  hidden : Bool := false

/-- A source as names see it. -/
structure Visible where
  name : String
  columns : List VisibleColumn
  offset : Nat
  id : Nat
  /-- The slot of the row id, for stored tables. -/
  rowid : Option Nat
  /-- The stored table behind the source, if it is one. -/
  table : Option (TableRef × Table)
  /-- Sources that only a qualified name reaches, such as `new` and `old` in a trigger. -/
  qualifiedOnly : Bool := false
  /-- The columns its join matches by name (`using` or `natural`), when it is the right side
  of such a join. -/
  matchedNames : List String := []
  /-- How it is joined to the sources before it. -/
  joinOp : JoinOp := .inner

/-- The names one select can see. -/
structure Scope where
  sources : List Visible
  /-- Aliased columns of the select's list, when they may be named: the alias, the column as
  written and as bound. -/
  aliases : List (String × Term × Bound.Expr)

/-- A common table in view by name. Its body is bound when a source first names it, in the
names in view where it is defined. -/
structure CommonDef where
  name : String
  id : Nat
  body : CommonTable
  /-- The names in view where the table is defined. -/
  scopes : List Scope
  /-- How many common tables are in view where it is defined, its own `with` included. -/
  visible : Nat

/-- What binding reads: the databases, the statement text and the names in view. -/
structure BindEnv where
  catalog : Catalog
  sql : String
  scopes : List Scope
  ctes : List CommonDef
  /-- Inside an `on` condition, failures do not point into the text. -/
  noOffsets : Bool
  /-- Aggregates bind here, but the statement fails when it runs. -/
  aggMisuse : Bool
  /-- Window functions may appear here. -/
  allowWindows : Bool := false
  /-- The named windows of the select being bound. -/
  windowDefs : List (String × WindowSpec) := []
  /-- Inside a trigger, where `raise` may appear. -/
  inTrigger : Bool := false
  /-- The common tables whose recursive step is being bound and that the `from` being bound
  may read directly. -/
  recursiveSelf : List Nat := []
  /-- Inside a view or trigger of a database: tables are sought there only. -/
  ddlSchema : Option String := none
  /-- The sources of the `from` before the one being bound, which the arguments of a
  table-valued function may name. -/
  lateral : List Visible := []

/-- What one result column of a query is: its name in the result, its name as a subquery
column before names are made unique, the preference it has as a subquery column (from the
selects of a chain), the preference of the last select's column, the collation of the first
select's column, and the collation a chain combines it under. -/
structure ResultInfo where
  name : String
  subName : String
  affinity : Option Affinity
  lastAffinity : Option Affinity
  collation : Option Collation
  compoundCollation : Collation
  deriving Inhabited

/-- What binding accumulates. -/
structure BindState where
  nextId : Nat
  used : List (Nat × Nat)
  aggregates : Array Bound.Aggregate
  windows : Array Bound.Window
  /-- The columns of each common table bound so far. -/
  commonColumns : List (Nat × List VisibleColumn)
  /-- The common tables bound so far, in the order their binding finished. -/
  commons : Array (Nat × Bound.Common)
  /-- The common tables whose bodies are being bound. -/
  expanding : List Nat
  /-- The common tables whose recursive steps are being bound. -/
  stepping : List Nat
  /-- A failure that only running the statement meets; a later one replaces an earlier. -/
  deferred : Option Failure
  /-- The first place in the text a failure pointed at. -/
  errOffset : Option Nat
  /-- The last failure met in the expression being bound, which binding goes on past. -/
  pending : Option String
  /-- The sources an `indexed by` or `not indexed` names how to read: the index's name, or none
  for the row id alone. -/
  forced : List (Nat × Option String) := []

/-- A binding step. -/
abbrev Bind := StateT BindState (Except Failure)

/-- An empty binding state. -/
def BindState.empty : BindState := ⟨0, [], #[], #[], [], #[], [], [], none, none, none, []⟩

namespace Binder

/-- A failure pointing at a byte offset of the statement, or at none. -/
def located (env : BindEnv) (message : String) (offset : Nat) : Failure :=
  if env.noOffsets || offset == 0 then Failure.general message else .located message env.sql offset

/-- Records where a failure points, unless an earlier one was recorded: the text of a failure
is that of the last one met, but it points where the first one did. -/
def markOffset (env : BindEnv) (offset : Nat) : Bind Unit :=
  if env.noOffsets || offset == 0 then pure ()
  else modify fun s => { s with errOffset := s.errOffset <|> some offset }

/-- A failure with a text, pointing at the first offset recorded. -/
def failureNow (env : BindEnv) (message : String) : Bind Failure := do
  match (← get).errOffset with
  | some o => pure (.located message env.sql o)
  | none => pure (Failure.general message)

/-- Fails at once, pointing at a byte offset. -/
def nameFailure {α : Type} (env : BindEnv) (message : String) (offset : Nat) : Bind α := do
  markOffset env offset
  throw (← failureNow env message)

/-- Notes a failure and goes on binding the rest of the expression. -/
def note (env : BindEnv) (message : String) (offset : Nat) : Bind Unit := do
  markOffset env offset
  modify fun s => { s with pending := some message }

/-- Ends one expression: fails with the last failure noted in it. -/
def settle (env : BindEnv) : Bind Unit := do
  match (← get).pending with
  | some m => throw (← failureNow env m)
  | none => pure ()

/-- Records a failure that running the statement meets; it replaces any recorded before. -/
def defer (f : Failure) : Bind Unit := modify fun s => { s with deferred := some f }

/-- Takes the failure recorded so far, leaving none. -/
def takeDeferred : Bind (Option Failure) := do
  let s ← get
  set { s with deferred := none }
  pure s.deferred

/-- The last of the failures that are there. -/
def lastFailure (fs : List (Option Failure)) : Option Failure :=
  fs.foldl (fun acc f => f <|> acc) none

/-- A fresh number. -/
def fresh : Bind Nat := do
  let s ← get
  set { s with nextId := s.nextId + 1 }
  pure s.nextId

/-- Records that a column of a source is used. -/
def markUsed (source column : Nat) : Bind Unit :=
  modify fun s => { s with used := (source, column) :: s.used }

/-- The failure for a budget that ran out. -/
def tooDeep {α : Type} : Bind α := throw (Failure.general "statement too deeply nested")

/-- The names that stand for the row id. -/
def rowidNames : List String := ["rowid", "oid", "_rowid_"]

/-- A column found by name: the slots holding it (several when a full join matches it by
name, whose value is then the first of them that is not null), its preference, collation,
its name in the source, and whether it is the row id. -/
structure Found where
  /-- The name of the source holding it. -/
  source : String
  slots : List Nat
  affinity : Option Affinity
  collation : Option Collation
  name : String
  isRowid : Bool

/-- The sources of one select that hold a column of a name, after the rules of joins that
match columns by name: the left side's column stands for both sides of an inner or left
join, the right side's for a right join, and both for a full join. Also whether the name is
ambiguous. -/
def matchesIn (candidates : List Visible) (table : Option String) (name : String) :
    List (Visible × Nat) × Bool :=
  candidates.foldl (fun (acc : List (Visible × Nat) × Bool) (v : Visible) =>
    match v.columns.findIdx? (fun c => sameName c.name name) with
    | none => acc
    | some i =>
      if acc.1.isEmpty then ([(v, i)], acc.2)
      else if table.isNone && v.matchedNames.any (sameName · name) then
        match v.joinOp with
        | .right => ([(v, i)], false)
        | .full => (acc.1 ++ [(v, i)], acc.2)
        | _ => acc
      else (acc.1 ++ [(v, i)], true)) ([], false)

/-- Looks a name up in the sources of one select. -/
def findInSources (env : BindEnv) (sources : List Visible) (table : Option String) (name : String)
    (offset : Nat) (shown : String) : Bind (Option Found) := do
  let candidates := match table with
    | some t => sources.filter (fun (v : Visible) => sameName v.name t)
    | none => sources.filter (fun (v : Visible) => !v.qualifiedOnly)
  let (hits, ambiguous) := matchesIn candidates table name
  if ambiguous then nameFailure env ("ambiguous column name: " ++ shown) offset
  else
    match hits with
    | (v, i) :: _ =>
      for (w, j) in hits do markUsed w.id j
      let c := v.columns[i]?.getD ⟨"", none, none, false⟩
      pure (some ⟨v.name, hits.map (fun (w, j) => w.offset + j), c.affinity, c.collation, c.name, false⟩)
    | [] =>
      if rowidNames.contains (foldName name) then
        match candidates.filter (fun (v : Visible) => v.rowid.isSome) with
        | [v] =>
          let ipk := match v.table with
            | some (_, t) => (t.rowidColumn.bind (t.columns[·]?)).map (fun (c : Column) => c.name)
            | none => none
          pure (v.rowid.map fun s => ⟨v.name, [s], some Affinity.integer, none, ipk.getD "rowid", true⟩)
        | _ :: _ :: _ => nameFailure env ("ambiguous column name: " ++ shown) offset
        | [] => pure none
      else pure none

/-- The ordinal of a position in failure texts: `1st`, `2nd`, `3rd`, `4th`, … -/
def ordinal (n : Nat) : String :=
  let suffix :=
    if n % 100 ≥ 11 && n % 100 ≤ 13 then "th"
    else if n % 10 == 1 then "st" else if n % 10 == 2 then "nd" else if n % 10 == 3 then "rd" else "th"
  toString n ++ suffix

/-- The integer an ordering or grouping term is: an integer literal of 32 bits, maybe signed. -/
def termInteger? : Term → Option Int
  | .literal (.integer k) => if k.natAbs < Nat.pow 2 31 then some k else none
  | .unary .plus t => termInteger? t
  | .unary .neg (.literal (.integer k)) => if k.natAbs < Nat.pow 2 31 then some (-k) else none
  | _ => none

/-- The term under any `collate`, with the outermost collation given. -/
def stripCollate : Term → Term × Option String
  | .collate t c =>
    let (inner, _) := stripCollate t
    (inner, some c)
  | t => (t, none)

/-- The kinds of value an expression may hold: 1 numbers, 2 texts, 4 byte strings. -/
def kindsOf : Bound.Expr → Nat
  | .const .null => 0
  | .const (.text _) => 2
  | .const (.blob _) => 4
  | .collate e _ => kindsOf e
  | .unary .plus e => kindsOf e
  | .binary .concat _ _ _ => 6
  | .param _ | .call _ _ _ | .aggregate _ _ _ | .window _ => 7
  | .column _ _ a _ | .cast _ a =>
    match (a : Option Affinity) with
    | some aff => if aff.isNumeric then 5 else if aff == .text then 6 else 7
    | none => 7
  | .scalar _ a =>
    match a with
    | some aff => if aff.isNumeric then 5 else if aff == .text then 6 else 7
    | none => 7
  | .caseOf _ branches otherwise _ =>
    let rec results : List (Bound.Expr × Bound.Expr) → Nat
      | [] => 0
      | (_, r) :: rest => kindsOf r ||| results rest
    results branches ||| (match otherwise with
      | some o => kindsOf o
      | none => 0)
  | _ => 1

/-- The preference of a subquery column, from its columns in each select of a chain (first
to last): the first that has one; demoted to none when a text column meets numbers later in
the chain or a numeric one meets texts. -/
def chainAffinity (arms : List (Option Affinity × Nat)) : Option Affinity :=
  let rec firstWith : List (Option Affinity × Nat) → Nat → Option Affinity × Nat × List (Option Affinity × Nat)
    | [], mask => (none, mask, [])
    | (a, k) :: rest, mask =>
      match a with
      | some aff => (some aff, mask, rest)
      | none => firstWith rest (mask ||| k)
  match arms with
  | [] => none
  | [(a, _)] => a
  | (a0, k0) :: more =>
    let (aff, mask, later) := match a0 with
      | some x => (some x, 0, more)
      | none => firstWith more k0
    match aff with
    | none => none
    | some x =>
      let mask := later.foldl (fun m (_, k) => m ||| k) mask
      if x == .text && mask &&& 1 != 0 then none
      else if x.isNumeric && mask &&& 2 != 0 then none
      else some x

/-- A name without its `:digits` ending, which a name made unique drops before it takes a
new number. -/
def withoutCounter (n : String) : String :=
  let cs := n.toList
  let digitsAtEnd := (cs.reverse.takeWhile Char.isDigit).length
  let j := if digitsAtEnd ≥ cs.length then 0 else cs.length - 1 - digitsAtEnd
  if cs[j]? == some ':' then String.ofList (cs.take j) else n

/-- Names made unique as subquery columns: `true` and `false` become `columnN`; a name met
before (in any case) loses a `:digits` ending and takes `:1`, `:2`, … until it is new. -/
def uniqueNames (names : List String) : List String :=
  let step (acc : List String) (ni : String × Nat) : List String :=
    let (n, i) := ni
    let n := if foldName n == "true" || foldName n == "false" then "column" ++ toString (i + 1) else n
    if acc.any (sameName n) then
      let base := withoutCounter n
      let rec tryNext : Nat → Nat → String
        | 0, k => base ++ ":" ++ toString k
        | fuel + 1, k =>
          let candidate := base ++ ":" ++ toString k
          if acc.any (sameName candidate) then tryNext fuel (k + 1) else candidate
      acc ++ [tryNext (acc.length + 1) 1]
    else acc ++ [n]
  names.zipIdx.foldl step []

/-- The conjuncts of a filter. -/
def conjuncts : Bound.Expr → List Bound.Expr
  | .binary .and l r _ => conjuncts l ++ conjuncts r
  | e => [e]

/-- Whether an expression mentions a slot of the current row within a range. -/
def mentionsRange (lo hi : Nat) : Bound.Expr → Bool
  | .column 0 s _ _ => lo ≤ s && s < hi
  | .unary _ e => mentionsRange lo hi e
  | .binary _ l r _ => mentionsRange lo hi l || mentionsRange lo hi r
  | .cast e _ => mentionsRange lo hi e
  | .collate e _ => mentionsRange lo hi e
  | .call _ args _ => args.attach.any fun ⟨a, _⟩ => mentionsRange lo hi a
  | _ => false

/-- The slot a column reference reads, under any `collate`. -/
def slotOf : Bound.Expr → Option Nat
  | .column 0 s _ _ => some s
  | .collate e _ => slotOf e
  | _ => none

/-- How strongly a conjunct constrains one slot: 2 for equality, 1 for a range, 0 for not. -/
def constrains (lo hi slot : Nat) : Bound.Expr → Nat
  | .binary op l r _ =>
    let opRank := if op == .eq || op == .isSame then 2
      else if op == .lt || op == .le || op == .gt || op == .ge then 1 else 0
    let sideRank := match slotOf l, slotOf r with
      | some s, _ => if s == slot && !mentionsRange lo hi r then opRank else
          match slotOf r with
          | some s2 => if s2 == slot && !mentionsRange lo hi l then opRank else 0
          | none => 0
      | none, some s => if s == slot && !mentionsRange lo hi l then opRank else 0
      | none, none => 0
    if sideRank > 0 then sideRank
    else if op == .or then
      let rec sides : Bound.Expr → List Bound.Expr
        | .binary .or a b _ => sides a ++ sides b
        | e => [e]
      let parts := sides (.binary .or l r ⟨none, .binary⟩)
      if parts.all (fun p => match p with
          | .binary .eq a b _ =>
            (slotOf a == some slot && !mentionsRange lo hi b) ||
              (slotOf b == some slot && !mentionsRange lo hi a)
          | _ => false) then 2 else 0
    else 0
  | .inList e items false _ =>
    if slotOf e == some slot && !items.attach.any (fun ⟨i, _⟩ => mentionsRange lo hi i) then 2 else 0
  | .inQuery [e] _ false _ => if slotOf e == some slot then 2 else 0
  | .between e a b false _ _ =>
    if slotOf e == some slot && !mentionsRange lo hi a && !mentionsRange lo hi b then 1 else 0
  | .isNull e false => if slotOf e == some slot then 2 else 0
  | _ => 0

/-- Whether a conjunct fixes a slot to one value: `=` or `IS` against what does not read the
table, or `IS NULL`. -/
def fixesSlot (lo hi slot : Nat) : Bound.Expr → Bool
  | .binary op l r _ =>
    (op == .eq || op == .isSame) &&
      ((slotOf l == some slot && !mentionsRange lo hi r) ||
        (slotOf r == some slot && !mentionsRange lo hi l))
  | .isNull e false => slotOf e == some slot
  | _ => false

/-- Whether an expression reads the current row only within the slots `lo` to `hi`. -/
def readsOnly (lo hi : Nat) : Bound.Expr → Bool
  | .column 0 s _ _ => lo ≤ s && s < hi
  | .column _ _ _ _ => true
  | .const _ | .param _ => true
  | .unary _ e => readsOnly lo hi e
  | .binary _ l r _ => readsOnly lo hi l && readsOnly lo hi r
  | .cast e _ => readsOnly lo hi e
  | .collate e _ => readsOnly lo hi e
  | .isNull e _ => readsOnly lo hi e
  | .call _ args _ => args.attach.all fun ⟨a, _⟩ => readsOnly lo hi a
  | _ => false

/-- The table columns of an index, in order, as far as they are plain columns (the row id
counting as the table's width). -/
def indexColumns (t : Table) (i : Index) : List (Option Nat) :=
  i.parts.map fun p => match p.source with
    | .column c => some c
    | .rowid => some t.columns.size
    | .expr _ => none

/-- The key a table is read by through an index: its columns over the table's own row, then
the row id. -/
def indexKeys (t : Table) (i : Index) : List Bound.OrderKey :=
  let parts := i.parts.filterMap fun p =>
    match p.source with
    | .column c =>
      let col := t.columns[c]?
      some (Bound.OrderKey.mk (.column 0 c ((col.map (·.affinity))) (some p.collation)) p.descending
        (!p.descending) p.collation)
    | .rowid => some (Bound.OrderKey.mk (.column 0 t.columns.size none none) p.descending (!p.descending) .binary)
    | .expr _ => none
  parts ++ [Bound.OrderKey.mk (.column 0 t.columns.size none none) false true .binary]

/-- The order of a table read by row id: nothing to sort, or the primary key for a table
without row id. -/
def naturalKeys (t : Table) : List Bound.OrderKey :=
  if t.withoutRowid then
    t.primaryKey.map fun (c, coll, desc) =>
      Bound.OrderKey.mk (.column 0 c none (some coll)) desc (!desc) coll
  else []

/-- An order read backwards: each key in the other direction, with nulls at the other end.
An empty order reads by row id, which backwards is the row id descending (the primary key,
for a table without row id). -/
def backwards (t : Table) (order : List Bound.OrderKey) : List Bound.OrderKey :=
  let keys := if !order.isEmpty then order
    else if t.withoutRowid then naturalKeys t
    else [Bound.OrderKey.mk (.column 0 t.columns.size none none) false true .binary]
  keys.map fun (.mk e d nf c) => .mk e (!d) (!nf) c

/-- The order a stored table is read in, from the conjuncts of the filter around it and the
columns the statement uses of it: by the first index (the latest made first) whose leading
column the filter fixes, else by the row id when the filter fixes it or bounds it, else by
an index whose leading column the filter bounds, else by an index that holds every column
the statement uses when the table has other columns too, else by row id. -/
def chooseOrder (t : Table) (indexes : List Index) (v : Visible) (terms : List Bound.Expr)
    (used : List Nat) : List Bound.OrderKey :=
  let lo := v.offset
  let hi := v.offset + t.columns.size + 1
  let rank (col : Nat) : Nat := terms.foldl (fun best e => max best (constrains lo hi (lo + col) e)) 0
  let rowidRank := if t.withoutRowid then 0 else max (rank t.columns.size) ((t.rowidColumn.map rank).getD 0)
  let usable := indexes.filter fun i => i.filter.isNone && (indexColumns t i).head?.any Option.isSome
  let firstCol (i : Index) : Nat := ((indexColumns t i).head?.bind id).getD 0
  if rowidRank == 2 then naturalKeys t
  else
    match usable.find? (fun i => rank (firstCol i) == 2) with
    | some i => indexKeys t i
    | none =>
      if rowidRank == 1 then naturalKeys t
      else
        match usable.find? (fun i => rank (firstCol i) == 1) with
        | some i => indexKeys t i
        | none =>
          let isCovered (i : Index) : Bool :=
            let cols := (indexColumns t i).filterMap id
            cols.length == i.parts.length && cols.length < t.columns.size &&
              used.all (fun c => cols.contains c || c == t.columns.size || t.rowidColumn == some c)
          match usable.find? isCovered with
          | some i => indexKeys t i
          | none => naturalKeys t

/-- Whether reading a table in an order already brings the rows of each group together, so
that grouping needs no sort. Grouping terms fixed by an equality of the filter need nothing.
The others are matched, in any order, against the columns of the reading order one by one,
the row id last: a column that no term matches ends the walk, unless the filter fixes it.
Once the row id is matched every row is its own group, and the terms left need only read
this table. -/
def groupedByScan (t : Table) (v : Visible) (order : List Bound.OrderKey) (conds groupBy : List Bound.Expr) : Bool :=
  let lo := v.offset
  let hi := v.offset + t.columns.size + 1
  let rowidSlots := (lo + t.columns.size) :: (t.rowidColumn.map (lo + ·)).toList
  let atSlot (e : Bound.Expr) (slots : List Nat) : Bool :=
    match slotOf e with
    | some s => slots.contains s
    | none => false
  let fixed (e : Bound.Expr) : Bool :=
    match slotOf e with
    | some s => conds.any (fixesSlot lo hi s)
    | none => false
  let keyColumns : List (Option Nat) :=
    if t.withoutRowid then order.map fun (.mk e _ _ _) => slotOf e
    else
      match order with
      | [] => [none]
      | keys => (keys.dropLast.map fun (.mk e _ _ _) => slotOf e) ++ [none]
  let rec walk : List (Option Nat) → List Bound.Expr → Bool
    | _, [] => true
    | [], _ => false
    | c :: cs, rest =>
      let slots := match c with
        | none => rowidSlots
        | some col => if t.rowidColumn == some col || col == t.columns.size then rowidSlots else [lo + col]
      match rest.findIdx? (atSlot · slots) with
      | some i =>
        let rest' := rest.eraseIdx i
        if slots == rowidSlots then rest'.all (readsOnly lo hi) else walk cs rest'
      | none =>
        match c with
        | some col => if conds.any (fixesSlot lo hi (lo + col)) then walk cs rest else false
        | none => false
  walk keyColumns (groupBy.filter (!fixed ·))

end Binder

end QueryDoc.Store
