import QueryDoc.Model.Basic
import QueryDoc.Sql.Syntax
import QueryDoc.Sql.Render

/-!
Folding conditions into one SQL expression.

A condition under construction is `Option Expr`: `none` until the first item arrives. Each item
comes with a connective; a negated connective wraps the item in `not(…)`, and the item is then
joined to what came before by `or` for the `or` family and by `and` otherwise. The fold is
strictly left to right, so `a or b and c` reads as SQL reads it. A group of conditions is
folded on its own and joined in parentheses; an empty group adds nothing.
-/

namespace QueryDoc.Compile

open Sql

/-- Joins an item to a condition under a connective. -/
def push (acc : Option Expr) (c : Connective) (e : Expr) : Option Expr :=
  let e := if c.isNegated then Expr.not e else e
  some (match acc with
    | none => e
    | some a => if c.isOr then a.orE e else a.andE e)

/-- Joins a parenthesized group to a condition; an empty group adds nothing. -/
def pushGroup (acc : Option Expr) (c : Connective) : Option Expr → Option Expr
  | some inner => push acc c (.nested inner)
  | none => acc

/-- Which end of a text a `like` pattern anchors. -/
inductive LikeKind where
  | startsWith
  | endsWith
  | contains
  deriving Repr, BEq, DecidableEq, Inhabited

/-- The kind's name in failure texts. -/
def LikeKind.name : LikeKind → String
  | .startsWith => "StartsWith"
  | .endsWith => "EndsWith"
  | .contains => "Contains"

/-- The text with `%`, `_` and `\` escaped by a backslash. -/
def escapeLike (text : String) : String :=
  String.ofList (text.toList.flatMap fun c => if c == '%' || c == '_' || c == '\\' then ['\\', c] else [c])

/-- The `like` pattern matching texts that start with, end with or contain `text`. -/
def LikeKind.pattern (k : LikeKind) (text : String) : String :=
  match k with
  | .startsWith => escapeLike text ++ "%"
  | .endsWith => "%" ++ escapeLike text
  | .contains => "%" ++ escapeLike text ++ "%"

/-- The operator of an ordering or equality relation. -/
def comparisonOperator : Relation → Option BinOp
  | .equalTo => some .eq
  | .greaterThan => some .gt
  | .greaterThanOrEqualTo => some .gtEq
  | .lessThan => some .lt
  | .lessThanOrEqualTo => some .ltEq
  | _ => none

/-- A scalar value as a bound value; lists and selects have no scalar form. -/
def Value.toParam : Value → Result Param
  | .null => .ok .null
  | .bool b => .ok (.bool b)
  | .integer n => .ok (.integer n)
  | .float f => .ok (.float f)
  | .text s => .ok (.string s)
  | .list _ => invalid "a list value is only valid with the In relation or as raw bindings"
  | .query _ => invalid "a nested select is only valid with the In or Exists relation"

/-- Joins raw SQL to a condition. Raw SQL cannot be negated, and when it has bindings there
must be one per marker. -/
def pushRaw (acc : Option Expr) (c : Connective) (sql : String) (bindings : List Param) :
    Result (Option Expr) :=
  if c.isNegated then
    invalid ("raw expression '" ++ sql ++ "' cannot be combined with " ++ c.name)
  else
    let markers := rawMarkerCount sql
    if !bindings.isEmpty && markers != bindings.length then
      invalid ("raw expression '" ++ sql ++ "' has " ++ toString markers ++
        " binding markers but " ++ toString bindings.length ++ " bindings")
    else .ok (push acc c (.raw sql bindings))

/-- One condition the builder understands. -/
inductive Predicate where
  /-- `column op value`, the value bound. -/
  | compare (column : String) (op : BinOp) (value : Param)
  /-- `left op right`, both columns; join conditions compare this way. -/
  | compareColumns (left : String) (op : BinOp) (right : String)
  /-- `column in (values)`; with no values, a condition that is always false. -/
  | isIn (column : String) (values : List Param)
  /-- `column in (select …)`. -/
  | inQuery (column : String) (query : Query)
  /-- `column is null`. -/
  | null (column : String)
  /-- `column = true`. -/
  | isTrue (column : String)
  /-- `column like pattern escape '\'`, the pattern anchored as the kind says. -/
  | like (column : String) (kind : LikeKind) (text : String)
  /-- `exists (select …)`. -/
  | exists (query : Query)

/-- The SQL expression of a condition. Column names are split at their dots. -/
def Predicate.toExpr : Predicate → Expr
  | .compare column op value => .binary (.columnPath column) op (.bound value)
  | .compareColumns left op right => .binary (.columnPath left) op (.columnPath right)
  | .isIn column values => .inList (.columnPath column) (values.map .bound) false
  | .inQuery column query => .inSubquery (.columnPath column) query false
  | .null column => .isNull (.columnPath column) false
  | .isTrue column => .binary (.columnPath column) .eq (.literal (.bool true))
  | .like column kind text => .like (.columnPath column) (.bound (.string (kind.pattern text))) false
  | .exists query => .exists query false

end QueryDoc.Compile
