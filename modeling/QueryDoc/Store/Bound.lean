import QueryDoc.Store.Command
import QueryDoc.Store.Affinity
import QueryDoc.Store.Builtin

/-!
Statements with every name looked up.

Binding a statement replaces each name by where its value will be found. A row being read is
a flat array holding the columns of every source of a select side by side; a table adds its
row id after its columns. A column is found at a slot of the row of some enclosing select:
depth 0 is the select itself, depth 1 the select around it, and so on. In a grouped select
the aggregates are computed per group and found by their index; window functions are
computed over the rows of the select and found by their index too.

Each column reference keeps the preference and the collation of its column, and each
comparison keeps the conversion and the collation it applies to its operands, so that
evaluation needs no schema.
-/

namespace QueryDoc.Store

/-- How a comparison treats its operands: the conversion applied to both, and the collation
texts are compared under. -/
structure Comparison where
  affinity : Option Affinity
  collation : Collation
  deriving Repr, BEq, Inhabited

/-- A table of some database of the connection: the database's name and the table's. -/
structure TableRef where
  schema : String
  name : String
  deriving Repr, BEq, Inhabited

namespace Bound

mutual

/-- An expression with its names looked up. -/
inductive Expr where
  | const (d : Datum)
  | param (index : Nat)
  /-- A slot of the row of the select `depth` levels out, with its column's preference and
  collation. -/
  | column (depth : Nat) (slot : Nat) (affinity : Option Affinity) (collation : Option Collation)
  /-- The value of the select's `index`-th aggregate for the current group, with the
  collation its arguments carry. -/
  | aggregate (index : Nat) (explicit : Bool) (collation : Option Collation)
  /-- The value of the select's `index`-th window function for the current row. -/
  | window (index : Nat)
  | unary (op : UnaryOp) (e : Expr)
  /-- A binary operator; comparisons treat their operands as `cmp` says. -/
  | binary (op : BinaryOp) (l r : Expr) (cmp : Comparison)
  /-- `e is [not] true` or `e is [not] false`. -/
  | truth (e : Expr) (value : Bool) (negated : Bool)
  | isNull (e : Expr) (negated : Bool)
  | between (e lo hi : Expr) (negated : Bool) (low high : Comparison)
  /-- A value, or a row of values, sought among items; one comparison per position. -/
  | inList (e : Expr) (items : List Expr) (negated : Bool) (cmps : List Comparison)
  /-- Values, one per column of the subquery, sought among its rows. -/
  | inQuery (es : List Expr) (q : Query) (negated : Bool) (cmps : List Comparison)
  /-- Two rows of values compared position by position, one comparison per position. -/
  | rowCompare (op : BinaryOp) (l r : Expr) (cmps : List Comparison)
  /-- The first row of a subquery, as a row of `width` values. -/
  | subRow (q : Query) (width : Nat)
  | exists (q : Query)
  /-- The first value of a subquery; `affinity` is that of its first column. -/
  | scalar (q : Query) (affinity : Option Affinity)
  /-- A function call; `collation` is what `min`, `max` and `nullif` compare under. -/
  | call (f : Builtin) (args : List Expr) (collation : Collation)
  | cast (e : Expr) (affinity : Affinity)
  | caseOf (operand : Option Expr) (branches : List (Expr × Expr)) (otherwise : Option Expr)
      (cmps : List Comparison)
  | collate (e : Expr) (c : Collation)
  /-- `raise(…)` inside a trigger. -/
  | raise (action : RaiseAction) (message : Option Expr)
  /-- Several values, which only comparisons and `in` may take. -/
  | vector (items : List Expr)

/-- One key of an ordering: the expression, its direction, where nulls go, and its
collation. -/
inductive OrderKey where
  | mk (e : Expr) (descending : Bool) (nullsFirst : Bool) (collation : Collation)

/-- An aggregate of a grouped select: the function, its arguments, whether it keeps distinct
values only, the rows it keeps, the order it takes them in, and the collation `min`, `max`
and `distinct` compare under. -/
inductive Aggregate where
  | mk (f : AggregateFn) (args : List Expr) (distinct : Bool) (filter : Option Expr)
      (order : List OrderKey) (collation : Collation)

/-- Where a window frame starts or ends. -/
inductive FrameEdge where
  | unboundedPreceding
  | preceding (e : Expr)
  | currentRow
  | following (e : Expr)
  | unboundedFollowing

/-- What a window function computes. -/
inductive WindowCall where
  | aggregate (a : Aggregate)
  | special (f : WindowFn) (args : List Expr)

/-- A window function of a select, over the window its definition gives. -/
inductive Window where
  | mk (call : WindowCall) (partition : List (Expr × Collation)) (order : List OrderKey)
      (unit : FrameUnit) (start finish : FrameEdge) (exclude : FrameExclude) (filter : Option Expr)

/-- The order nested loops read a stored table's rows in. -/
inductive Access where
  /-- Sorted by keys over the select's row, the table's columns at their slots. -/
  | sorted (keys : List OrderKey)
  /-- The rows each arm reads, arm after arm, that the arm's condition holds for; a row comes
  only where it first comes. -/
  | anyOf (arms : List (Expr × Access))

/-- A stored table as nested loops read it: the slots it fills in the select's row, its
condition when it is the right side of a left join, and the order its rows are read in. -/
inductive Part where
  | mk (ref : TableRef) (offset width : Nat) (outer : Option (Option Expr)) (access : Access)

/-- Where the rows of a select come from. -/
inductive Source where
  /-- No `from`: one empty row. -/
  | single
  /-- A stored table, read in the given order: by row id, or by keys over its own row. -/
  | table (ref : TableRef) (order : List OrderKey)
  | derived (q : Query)
  /-- A common table, by its number. -/
  | common (id : Nat)
  /-- Rows known when the statement was bound, such as the schema table's. -/
  | rows (rows : Array (Array Datum))
  /-- The elements of a JSON value (all its values, when `recursive`), from the value and a
  path that the arguments give; the arguments may name the sources before this one. -/
  | jsonEach (recursive : Bool) (args : List Expr)
  /-- The rows of a pragma by its name, the arguments giving its hidden columns in order; the
  arguments may name the sources before this one. -/
  | pragma (name : String) (args : List Expr)
  /-- Two sources joined; the sides are `leftWidth` and `rightWidth` slots wide. -/
  | join (left : Source) (op : JoinOp) (right : Source) (on : Option Expr)
      (leftWidth rightWidth : Nat)
  /-- Stored tables read by nested loops, the outermost first as `loops` lists them; a row
  they make is kept when the conditions of the inner joins hold for it. -/
  | nested (parts : List Part) (loops : List Nat) (conditions : List Expr)
  /-- A virtual table, searched by the queries given: each the column it searches (the
  number of declared columns for all) and the query's expression. -/
  | virtual (ref : TableRef) (searches : List (Nat × Expr))

/-- A simple select. -/
inductive Core where
  /-- A select; `scanGrouped` says that the rows arrive from the source with the rows of each
  group together, so that groups come out in reading order rather than sorted by their keys. -/
  | select (source : Source) (filter : Option Expr) (groupBy : List (Expr × Collation))
      (having : Option Expr) (columns : List Expr) (aggregates : List Aggregate)
      (windows : List Window) (grouped : Bool) (scanGrouped : Bool)
      (distinct : Option (List Collation)) (orderKeys : List Expr) (width : Nat)
  | values (rows : List (List Expr))

/-- A common table: computed once, or grown from a seed by steps until no new rows come. -/
inductive Common where
  | plain (id : Nat) (q : Query)
  | recursive (id : Nat) (seed : Query) (steps : List Core) (distinct : Option (List Collation))
      (order : List OrderKey) (limit : Option Expr) (offset : Option Expr)

/-- How a query's rows are ordered: by keys its select computed, or by its columns. -/
inductive OrderBy where
  | none
  | byKeys (keys : List (Bool × Bool × Collation))
  | byColumns (columns : List (Nat × Bool × Bool × Collation))

/-- A full query; a chain of selects combines under the collations given per column. -/
inductive Query where
  | mk (ctes : List Common) (first : Core) (rest : List (CompoundOp × Core))
      (collations : List Collation) (order : OrderBy) (limit : Option Expr) (offset : Option Expr)

end

/-- Whether two values are the same value of the same type. -/
def sameDatum : Datum → Datum → Bool
  | .null, .null => true
  | .integer a, .integer b => a == b
  | .real x, .real y => x == y
  | .text s, .text t => s == t
  | .blob a, .blob b => a == b
  | .rawText a, .rawText b => a == b
  | _, _ => false

/-- Whether two expressions are written alike: the same operators, functions and casts over
the same columns and values. Expressions with subqueries, aggregates or windows are never
alike. -/
def Expr.alike : Nat → Expr → Expr → Bool
  | 0, _, _ => false
  | n + 1, a, b =>
    let all (xs ys : List Expr) : Bool := xs.length == ys.length && (xs.zip ys).all fun (x, y) => Expr.alike n x y
    let opt (x y : Option Expr) : Bool := match x, y with
      | none, none => true
      | some x, some y => Expr.alike n x y
      | _, _ => false
    match a, b with
    | .const d, .const e => sameDatum d e
    | .param i, .param j => i == j
    | .column d s _ _, .column d' s' _ _ => d == d' && s == s'
    | .unary o x, .unary o' y => o == o' && Expr.alike n x y
    | .binary o l r c, .binary o' l' r' c' => o == o' && c == c' && Expr.alike n l l' && Expr.alike n r r'
    | .truth x v g, .truth y v' g' => v == v' && g == g' && Expr.alike n x y
    | .isNull x g, .isNull y g' => g == g' && Expr.alike n x y
    | .between x lo hi g _ _, .between y lo' hi' g' _ _ =>
      g == g' && Expr.alike n x y && Expr.alike n lo lo' && Expr.alike n hi hi'
    | .inList x xs g _, .inList y ys g' _ => g == g' && Expr.alike n x y && all xs ys
    | .call f xs c, .call g ys c' => f == g && c == c' && all xs ys
    | .cast x t, .cast y u => t == u && Expr.alike n x y
    | .collate x c, .collate y c' => c == c' && Expr.alike n x y
    | .caseOf o bs e _, .caseOf o' bs' e' _ =>
      opt o o' && opt e e' && bs.length == bs'.length &&
        (bs.zip bs').all fun ((p, q), (p', q')) => Expr.alike n p p' && Expr.alike n q q'
    | .vector xs, .vector ys => all xs ys
    | _, _ => false

/-- The preference an expression's value carries into a comparison. -/
def Expr.affinity : Expr → Option Affinity
  | .column _ _ a _ => a
  | .cast _ a => some a
  | .scalar _ a => a
  | .collate e _ => e.affinity
  | .vector (e :: _) => e.affinity
  | _ => none

mutual

/-- Whether an expression holds an explicit `collate` that reaches its value. -/
def Expr.hasCollate : Expr → Bool
  | .collate _ _ => true
  | .aggregate _ explicit _ => explicit
  | .unary _ e => e.hasCollate
  | .binary _ l r _ => l.hasCollate || r.hasCollate
  | .truth e _ _ => e.hasCollate
  | .isNull e _ => e.hasCollate
  | .between e lo hi _ _ _ => e.hasCollate || lo.hasCollate || hi.hasCollate
  | .inList e items _ _ => e.hasCollate || anyHasCollate items
  | .call _ args _ => anyHasCollate args
  | .cast e _ => e.hasCollate
  | .caseOf operand branches otherwise _ =>
    optHasCollate operand || pairsHaveCollate branches || optHasCollate otherwise
  | .vector items => anyHasCollate items
  | _ => false

/-- Whether one of the expressions holds an explicit `collate`. -/
def anyHasCollate : List Expr → Bool
  | [] => false
  | e :: es => e.hasCollate || anyHasCollate es

/-- Whether the expression, if there is one, holds an explicit `collate`. -/
def optHasCollate : Option Expr → Bool
  | some e => e.hasCollate
  | none => false

/-- Whether one of the pairs holds an explicit `collate`. -/
def pairsHaveCollate : List (Expr × Expr) → Bool
  | [] => false
  | (a, b) :: rest => a.hasCollate || b.hasCollate || pairsHaveCollate rest

end

/-- The first expression of a list that holds an explicit `collate`. -/
def firstWithCollate : List Expr → Option Expr
  | [] => none
  | e :: es => if e.hasCollate then some e else firstWithCollate es

/-- The subexpressions of a `case`, in order. -/
def caseParts (operand : Option Expr) (branches : List (Expr × Expr)) (otherwise : Option Expr) :
    List Expr :=
  operand.toList ++ branches.flatMap (fun (a, b) => [a, b]) ++ otherwise.toList

/-- The collation an expression's value carries: that of an explicit `collate`, found by
following the operands that hold one, or that of a column. -/
def Expr.collation : Nat → Expr → Option Collation
  | 0, _ => none
  | n + 1, e =>
    match e with
    | .column _ _ _ c => c
    | .collate _ c => some c
    | .aggregate _ _ c => c
    | .cast inner _ => inner.collation n
    | .unary .plus inner => inner.collation n
    | .vector (first :: _) => first.collation n
    | other =>
      if !other.hasCollate then none
      else
        match other with
        | .unary _ a | .truth a _ _ | .isNull a _ => a.collation n
        | .binary _ l r _ => if l.hasCollate then l.collation n else r.collation n
        | .between a lo hi _ _ _ =>
          if a.hasCollate then a.collation n else ((firstWithCollate [lo, hi]).bind (·.collation n))
        | .inList a items _ _ =>
          if a.hasCollate then a.collation n else ((firstWithCollate items).bind (·.collation n))
        | .call _ args _ => (firstWithCollate args).bind (·.collation n)
        | .caseOf operand branches otherwise _ =>
          (firstWithCollate (caseParts operand branches otherwise)).bind (·.collation n)
        | .vector items => (firstWithCollate items).bind (·.collation n)
        | _ => none

/-- How deep collations are sought; expressions are never nested this deep. -/
def collationDepth : Nat := 10000

/-- The collation of an expression, binary when it carries none. -/
def Expr.collationOrBinary (e : Expr) : Collation := (e.collation collationDepth).getD .binary

/-- How two operands are compared: the conversion from their preferences, and the collation
of the left side's explicit `collate`, else the right side's, else that of the left side,
else that of the right. -/
def compareOf (l r : Expr) : Comparison :=
  let coll :=
    if l.hasCollate then l.collation collationDepth
    else if r.hasCollate then r.collation collationDepth
    else (l.collation collationDepth).orElse fun _ => r.collation collationDepth
  ⟨comparisonAffinity l.affinity r.affinity, coll.getD .binary⟩

end Bound

end QueryDoc.Store
