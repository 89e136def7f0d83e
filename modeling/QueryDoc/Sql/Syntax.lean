import QueryDoc.Model.Basic

/-!
The SQL syntax tree that statements compile to.

Identifiers are plain strings, quoted when written. A bound value (`Expr.bound`) is a value
supplied by the caller: it becomes a placeholder with the value collected aside, or an escaped
literal. Raw SQL is written as it is, except that each `?` outside single quotes takes the next
of its bindings.
-/

namespace QueryDoc.Sql

/-- A value bound into a statement. `integer` holds 64-bit signed integers. -/
inductive Param where
  | null
  | bool (b : Bool)
  | integer (n : Int)
  | float (f : Float)
  | string (s : String)
  deriving BEq, Inhabited

/-- Whether the value is null. -/
def Param.isNull : Param → Bool
  | .null => true
  | _ => false

/-- A column, optionally qualified by table or schema parts. -/
structure ColumnRef where
  qualifier : List String
  column : String
  deriving BEq, Inhabited

/-- An unqualified column. -/
def ColumnRef.new (column : String) : ColumnRef := ⟨[], column⟩

/-- A column of a table. -/
def ColumnRef.qualified (table column : String) : ColumnRef := ⟨[table], column⟩

/-- A dotted name split at every dot; the last part is the column. -/
def ColumnRef.parse (name : String) : ColumnRef :=
  let parts := name.splitOn "."
  ⟨parts.dropLast, parts.getLast?.getD name⟩

/-- A literal written into the text. -/
inductive Literal where
  | null
  | bool (b : Bool)
  | integer (n : Int)
  | string (s : String)
  deriving BEq, Inhabited

/-- Binary operators. -/
inductive BinOp where
  | eq
  | notEq
  | lt
  | ltEq
  | gt
  | gtEq
  | and
  | or
  deriving BEq, DecidableEq, Inhabited

/-- The operator's text. -/
def BinOp.text : BinOp → String
  | .eq => "="
  | .notEq => "<>"
  | .lt => "<"
  | .ltEq => "<="
  | .gt => ">"
  | .gtEq => ">="
  | .and => "and"
  | .or => "or"

/-- A sort direction. -/
inductive Direction where
  | asc
  | desc
  deriving BEq, DecidableEq, Inhabited

/-- The name of a table, as quoted parts or as raw SQL. -/
inductive TableName where
  | quoted (schema : Option String) (name : String)
  | raw (sql : String)
  deriving BEq, Inhabited

/-- A name split at its first dot into schema and table. -/
def TableName.parse (name : String) : TableName :=
  match name.splitOn "." with
  | [] | [_] => .quoted none name
  | schema :: _ => .quoted (some schema) (name.drop (schema.length + 1)).copy

/-- A table reference with an optional alias. -/
structure TableRef where
  name : TableName
  aliasName : Option String
  deriving BEq, Inhabited

/-- A table by name, split as `TableName.parse` says. -/
def TableRef.new (name : String) : TableRef := ⟨TableName.parse name, none⟩

/-- A table written as raw SQL. -/
def TableRef.ofRaw (sql : String) : TableRef := ⟨.raw sql, none⟩

/-- The same reference under an alias. -/
def TableRef.withAlias (t : TableRef) (aliasName : String) : TableRef := { t with aliasName := some aliasName }

mutual

/-- An expression. -/
inductive Expr where
  | column (c : ColumnRef)
  | literal (l : Literal)
  | bound (p : Param)
  | binary (left : Expr) (op : BinOp) (right : Expr)
  | not (e : Expr)
  | subquery (q : Query)
  | isNull (e : Expr) (negated : Bool)
  | inList (e : Expr) (items : List Expr) (negated : Bool)
  | inSubquery (e : Expr) (q : Query) (negated : Bool)
  | like (e : Expr) (pattern : Expr) (negated : Bool)
  | exists (q : Query) (negated : Bool)
  | nested (e : Expr)
  | raw (sql : String) (bindings : List Param)

/-- A column of a select list. -/
inductive SelectItem where
  | expr (e : Expr) (aliasName : Option String)
  | star

/-- What a select reads from. -/
inductive FromItem where
  | table (t : TableRef)
  | subquery (q : Query) (aliasName : String)
  | join (left : FromItem) (kind : JoinKind) (right : FromItem) (on : Option Expr)

/-- The body of a common table expression. -/
inductive CteBody where
  | select (q : Query)
  | raw (sql : String)

/-- A common table expression. -/
structure CteDef where
  name : String
  body : CteBody

/-- A sort item. -/
structure OrderItem where
  expr : Expr
  direction : Option Direction

/-- A select appended by a set operation. -/
structure SetPart where
  op : SetOperation
  query : Query

/-- A select. An empty column list selects `*`. -/
structure Query where
  ctes : List CteDef
  columns : List SelectItem
  source : Option FromItem
  filter : Option Expr
  groupBy : List Expr
  having : Option Expr
  setOps : List SetPart
  orderBy : List OrderItem
  limit : Option Nat
  offset : Option Nat

end

deriving instance BEq for Expr, SelectItem, FromItem, CteBody, CteDef, OrderItem, SetPart, Query

/-- The rows an insert writes. -/
inductive InsertRows where
  | values (rows : List (List Expr))
  | query (q : Query)
  deriving BEq

/-- An insert. -/
structure InsertStmt where
  ctes : List CteDef
  table : TableRef
  columns : List String
  rows : InsertRows
  deriving BEq

/-- An update. -/
structure UpdateStmt where
  table : TableRef
  set : List (String × Expr)
  filter : Option Expr
  deriving BEq

/-- A delete. -/
structure DeleteStmt where
  table : TableRef
  filter : Option Expr
  deriving BEq

/-- A statement. -/
inductive Stmt where
  | select (q : Query)
  | insert (s : InsertStmt)
  | update (s : UpdateStmt)
  | delete (s : DeleteStmt)
  deriving BEq

/-- The kind of a statement, as logs and plans name it. -/
def Stmt.kind : Stmt → String
  | .select _ => "select"
  | .insert _ => "insert"
  | .update _ => "update"
  | .delete _ => "delete"

/-- The same source under an alias; only a table takes one. -/
def FromItem.withAlias (f : FromItem) (aliasName : String) : FromItem :=
  match f with
  | .table t => .table (t.withAlias aliasName)
  | other => other

/-- A select with nothing set: `select *`. -/
def Query.empty : Query := ⟨[], [], none, none, [], none, [], [], none, none⟩

namespace Expr

/-- An unqualified column. -/
def col (name : String) : Expr := .column (.new name)

/-- A column from a dotted name. -/
def columnPath (name : String) : Expr := .column (.parse name)

/-- `l and r`. -/
def andE (l r : Expr) : Expr := .binary l .and r

/-- `l or r`. -/
def orE (l r : Expr) : Expr := .binary l .or r

/-- `l = r`. -/
def eqE (l r : Expr) : Expr := .binary l .eq r

end Expr

end QueryDoc.Sql
