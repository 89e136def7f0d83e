import QueryDoc.Store.Bound

/-!
The slots of a select's row that an expression reads.

A column reference names a slot of the row of the select some levels out. Seen from a select,
its own slots are read at depth 0 by its own expressions, and at depth `d` by an expression `d`
subqueries deep. Only a subquery inside an expression adds a level: the queries of a `from`,
the bodies of common tables and the arguments of a table-valued function see the same
enclosing selects as the select they belong to.
-/

namespace QueryDoc.Store

namespace Reads

open QueryDoc.Store.Bound

mutual

/-- The slots of the select `depth` levels out that an expression reads. -/
def expr : Nat → Nat → Bound.Expr → List Nat
  | 0, _, _ => []
  | n + 1, d, e =>
    match e with
    | .column k s _ _ => if k == d then [s] else []
    | .unary _ a | .truth a _ _ | .isNull a _ | .cast a _ | .collate a _ => expr n d a
    | .binary _ l r _ | .rowCompare _ l r _ => expr n d l ++ expr n d r
    | .between a lo hi _ _ _ => expr n d a ++ expr n d lo ++ expr n d hi
    | .inList a items _ _ => expr n d a ++ exprs n d items
    | .inQuery es q _ _ => exprs n d es ++ query n (d + 1) q
    | .subRow q _ | .exists q | .scalar q _ => query n (d + 1) q
    | .call _ args _ => exprs n d args
    | .caseOf o bs x _ => optional n d o ++ exprs n d (bs.flatMap fun (a, b) => [a, b]) ++ optional n d x
    | .raise _ m => optional n d m
    | .vector items => exprs n d items
    | _ => []

/-- The slots read by a list of expressions. -/
def exprs : Nat → Nat → List Bound.Expr → List Nat
  | 0, _, _ => []
  | _ + 1, _, [] => []
  | n + 1, d, e :: es => expr n d e ++ exprs n d es

/-- The slots read by an optional expression. -/
def optional : Nat → Nat → Option Bound.Expr → List Nat
  | 0, _, _ => []
  | n + 1, d, some e => expr n d e
  | _ + 1, _, none => []

/-- The slots read by a query, its common tables included. -/
def query : Nat → Nat → Bound.Query → List Nat
  | 0, _, _ => []
  | n + 1, d, .mk ctes first rest _ _ limit offset =>
    commons n d ctes ++ core n d first ++ cores n d (rest.map (·.2)) ++ optional n d limit ++
      optional n d offset

/-- The slots read by common tables. -/
def commons : Nat → Nat → List Bound.Common → List Nat
  | 0, _, _ => []
  | _ + 1, _, [] => []
  | n + 1, d, .plain _ q :: cs => query n d q ++ commons n d cs
  | n + 1, d, .recursive _ seed steps _ order limit offset :: cs =>
    query n d seed ++ cores n d steps ++ keys n d order ++ optional n d limit ++ optional n d offset ++
      commons n d cs

/-- The slots read by simple selects. -/
def cores : Nat → Nat → List Bound.Core → List Nat
  | 0, _, _ => []
  | _ + 1, _, [] => []
  | n + 1, d, c :: cs => core n d c ++ cores n d cs

/-- The slots read by a simple select. -/
def core : Nat → Nat → Bound.Core → List Nat
  | 0, _, _ => []
  | n + 1, d, .select src filter groupBy having columns aggs wins _ _ _ orderKeys _ =>
    source n d src ++ optional n d filter ++ exprs n d (groupBy.map (·.1)) ++ optional n d having ++
      exprs n d columns ++ aggregates n d aggs ++ windows n d wins ++ exprs n d orderKeys
  | n + 1, d, .values rows => exprs n d rows.flatten

/-- The slots read by a source. -/
def source : Nat → Nat → Bound.Source → List Nat
  | 0, _, _ => []
  | n + 1, d, s =>
    match s with
    | .derived q => query n d q
    | .jsonEach _ args => exprs n d args
    | .pragma _ args => exprs n d args
    | .join l _ r on _ _ => source n d l ++ source n d r ++ optional n d on
    | .nested ps _ conds => parts n d ps ++ exprs n d conds
    | .virtual _ searches => exprs n d (searches.map (·.2))
    | _ => []

/-- The slots read by the parts of nested loops: their conditions and arms. -/
def parts : Nat → Nat → List Bound.Part → List Nat
  | 0, _, _ => []
  | _ + 1, _, [] => []
  | n + 1, d, .mk _ _ _ outer acc :: ps =>
    optional n d (outer.getD none) ++ access n d acc ++ parts n d ps

/-- The slots read by the arms of a read order. -/
def access : Nat → Nat → Bound.Access → List Nat
  | 0, _, _ => []
  | n + 1, d, .sorted ks => keys n d ks
  | n + 1, d, .anyOf arms => arms.flatMap fun (e, a) => expr n d e ++ access n d a

/-- The slots read by ordering keys. -/
def keys : Nat → Nat → List Bound.OrderKey → List Nat
  | 0, _, _ => []
  | _ + 1, _, [] => []
  | n + 1, d, .mk e _ _ _ :: ks => expr n d e ++ keys n d ks

/-- The slots read by aggregates. -/
def aggregates : Nat → Nat → List Bound.Aggregate → List Nat
  | 0, _, _ => []
  | _ + 1, _, [] => []
  | n + 1, d, .mk _ args _ filter order _ :: as =>
    exprs n d args ++ optional n d filter ++ keys n d order ++ aggregates n d as

/-- The slots read by window functions. -/
def windows : Nat → Nat → List Bound.Window → List Nat
  | 0, _, _ => []
  | _ + 1, _, [] => []
  | n + 1, d, .mk call partition order _ start finish _ filter :: ws =>
    let callSlots := match call with
      | .aggregate (.mk _ args _ f o _) => exprs n d args ++ optional n d f ++ keys n d o
      | .special _ args => exprs n d args
    let edge (e : Bound.FrameEdge) : List Nat := match e with
      | .preceding x | .following x => expr n d x
      | _ => []
    callSlots ++ exprs n d (partition.map (·.1)) ++ keys n d order ++ edge start ++ edge finish ++
      optional n d filter ++ windows n d ws

end

/-- How deep expressions and queries are walked; statements never nest this deep. -/
def budget : Nat := 100000

/-- The slots of its own select's row an expression reads, also from its subqueries. -/
def ofExpr (e : Bound.Expr) : List Nat := expr budget 0 e

/-- The slots of its own select's row an expression reads outside its subqueries. -/
def direct : Nat → Bound.Expr → List Nat
  | 0, _ => []
  | n + 1, e =>
    match e with
    | .column 0 s _ _ => [s]
    | .unary _ a | .truth a _ _ | .isNull a _ | .cast a _ | .collate a _ => direct n a
    | .binary _ l r _ | .rowCompare _ l r _ => direct n l ++ direct n r
    | .between a lo hi _ _ _ => direct n a ++ direct n lo ++ direct n hi
    | .inList a items _ _ => direct n a ++ items.flatMap (direct n)
    | .inQuery es _ _ _ | .call _ es _ | .vector es => es.flatMap (direct n)
    | .caseOf o bs x _ =>
      (o.map (direct n)).getD [] ++ bs.flatMap (fun (a, b) => direct n a ++ direct n b) ++
        (x.map (direct n)).getD []
    | _ => []

end Reads

end QueryDoc.Store
