import QueryDoc.Sql.Syntax
import QueryDoc.Sql.Dialect
import QueryDoc.Decimal.Layout

/-!
Writing SQL text.

A statement is first turned into a list of pieces: text, bound values, clause breaks, line
breaks and indentation marks. The pieces are the same whatever the output; three writers
then read them:

* `parameterized`: compact text where the `k`-th bound value becomes the dialect's `k`-th
  placeholder, with the values collected in that order;
* `inline`: compact text where each bound value is written as a literal;
* `pretty`: like `inline`, but every clause starts a new line and the body of a common table
  expression is indented by four spaces.

A literal string is quoted with single quotes, a quote inside doubled. A double is written
with its shortest digits and no exponent.
-/

namespace QueryDoc.Sql

/-- One piece of rendered SQL. -/
inductive Piece where
  | text (s : String)
  | value (p : Param)
  /-- A space in compact text; a new line in pretty text. -/
  | clause
  /-- Nothing in compact text; a new line in pretty text. -/
  | lineBreak
  | indent
  | dedent
  deriving BEq, Inhabited

/-- A single-quoted string literal, quotes inside doubled. -/
def quoteLiteral (s : String) : String :=
  "'" ++ String.ofList (s.toList.flatMap fun c => if c == '\'' then [c, c] else [c]) ++ "'"

/-- The literal text of a bound value. -/
def Param.literal (d : Dialect) : Param → String
  | .null => "null"
  | .bool b => d.boolLiteral b
  | .integer n => toString n
  | .float f => Decimal.Style.plain.format f
  | .string s => quoteLiteral s

/-- The text of a literal. -/
def Literal.text (d : Dialect) : Literal → String
  | .null => "null"
  | .bool b => d.boolLiteral b
  | .integer n => toString n
  | .string s => quoteLiteral s

/-- The keyword of a set operation. -/
def setOperationText : SetOperation → String
  | .union => "union"
  | .unionAll => "union all"
  | .intersect => "intersect"
  | .except => "except"

/-- The keywords of a join. -/
def joinText : JoinKind → String
  | .inner => "inner join"
  | .left => "left join"

/-- The keyword of a sort direction. -/
def Direction.text : Direction → String
  | .asc => "asc"
  | .desc => "desc"

/-- Pieces of raw SQL: each `?` outside single quotes takes the next binding while any
remain; everything else is kept. -/
def rawPieces : List Char → List Param → Bool → List Piece
  | [], _, _ => []
  | c :: cs, bs, inQuote =>
    if c == '\'' then .text "'" :: rawPieces cs bs (!inQuote)
    else if c == '?' && !inQuote then
      match bs with
      | b :: rest => .value b :: rawPieces cs rest inQuote
      | [] => .text "?" :: rawPieces cs [] inQuote
    else .text (String.singleton c) :: rawPieces cs bs inQuote

/-- The number of `?` markers outside single quotes. -/
def countMarkers : List Char → Bool → Nat
  | [], _ => 0
  | c :: cs, inQuote =>
    if c == '\'' then countMarkers cs (!inQuote)
    else if c == '?' && !inQuote then countMarkers cs inQuote + 1
    else countMarkers cs inQuote

/-- The number of binding markers of a raw fragment. -/
def rawMarkerCount (sql : String) : Nat := countMarkers sql.toList false

/-- A quoted identifier as a piece. -/
def identPiece (d : Dialect) (s : String) : Piece := .text (d.quote s)

/-- Pieces of a column reference; a `*` column is not quoted. -/
def ColumnRef.pieces (d : Dialect) (c : ColumnRef) : List Piece :=
  c.qualifier.flatMap (fun q => [identPiece d q, .text "."]) ++
    [if c.column == "*" then .text "*" else identPiece d c.column]

/-- Pieces of a table name. -/
def TableName.pieces (d : Dialect) : TableName → List Piece
  | .quoted (some schema) name => [identPiece d schema, .text ".", identPiece d name]
  | .quoted none name => [identPiece d name]
  | .raw sql => [.text sql]

/-- Pieces of a table reference with its alias. -/
def TableRef.pieces (d : Dialect) (t : TableRef) : List Piece :=
  t.name.pieces d ++ (match t.aliasName with | some a => [.text " as ", identPiece d a] | none => [])

/-- Pieces of `limit` and `offset`. SQL Server writes `offset … rows fetch next … rows only`;
SQLite, which has no offset without a limit, writes `limit -1` before a lone offset. -/
def paginationPieces (d : Dialect) (limit offset : Option Nat) : List Piece :=
  match d with
  | .sqlServer =>
    if limit.isNone && offset.isNone then []
    else [.clause, .text ("offset " ++ toString (offset.getD 0) ++ " rows")] ++
      (match limit with
       | some l => [.text (" fetch next " ++ toString l ++ " rows only")]
       | none => [])
  | _ =>
    (match limit with
     | some l => [.clause, .text ("limit " ++ toString l)]
     | none => if offset.isSome && d == .sqlite then [.clause, .text "limit -1"] else []) ++
    (match offset with
     | some o => [.clause, .text ("offset " ++ toString o)]
     | none => [])

/-- Joins piece lists with `, `. -/
def commaJoin : List (List Piece) → List Piece
  | [] => []
  | [p] => p
  | p :: ps => p ++ [.text ", "] ++ commaJoin ps

/-- A clause: a break, its keyword and its pieces; nothing when absent. -/
def clauseOf (keyword : String) : Option (List Piece) → List Piece
  | some ps => [.clause, .text keyword] ++ ps
  | none => []

/-- A select's body from the pieces of its parts; `none` marks an absent part, and absent
columns select `*`. -/
def assembleBody (columns source filter groupBy having : Option (List Piece)) : List Piece :=
  [.text "select "] ++ columns.getD [.text "*"] ++ clauseOf "from " source ++
    clauseOf "where " filter ++ clauseOf "group by " groupBy ++ clauseOf "having " having

mutual

/-- Pieces of an expression. -/
def Expr.pieces (d : Dialect) : Expr → List Piece
  | .column c => c.pieces d
  | .literal l => [.text (l.text d)]
  | .bound p => [.value p]
  | .binary l op r => Expr.pieces d l ++ [.text (" " ++ op.text ++ " ")] ++ Expr.pieces d r
  | .not e => [.text "not("] ++ Expr.pieces d e ++ [.text ")"]
  | .subquery q => [.text "("] ++ Query.pieces d q ++ [.text ")"]
  | .isNull e negated => Expr.pieces d e ++ [.text (if negated then " is not null" else " is null")]
  | .inList e items negated =>
    match items with
    | [] => [.text (if negated then "1 = 1" else "1 = 0")]
    | _ => Expr.pieces d e ++ [.text (if negated then " not in (" else " in (")] ++
        Expr.listPieces d items ++ [.text ")"]
  | .inSubquery e q negated =>
    Expr.pieces d e ++ [.text (if negated then " not in (" else " in (")] ++ Query.pieces d q ++
      [.text ")"]
  | .like e p negated =>
    Expr.pieces d e ++ [.text (if negated then " not like " else " like ")] ++ Expr.pieces d p ++
      [.text " escape '\\'"]
  | .exists q negated =>
    [.text ((if negated then "not " else "") ++ "exists (")] ++ Query.pieces d q ++ [.text ")"]
  | .nested e => [.text "("] ++ Expr.pieces d e ++ [.text ")"]
  | .raw sql bindings => rawPieces sql.toList bindings false

/-- Pieces of expressions separated by `, `. -/
def Expr.listPieces (d : Dialect) : List Expr → List Piece
  | [] => []
  | [e] => Expr.pieces d e
  | e :: es => Expr.pieces d e ++ [.text ", "] ++ Expr.listPieces d es

/-- Pieces of a select list. -/
def SelectItem.listPieces (d : Dialect) : List SelectItem → List Piece
  | [] => []
  | item :: rest =>
    let one := match item with
      | .expr e (some a) => Expr.pieces d e ++ [.text " as ", identPiece d a]
      | .expr e none => Expr.pieces d e
      | .star => [.text "*"]
    match rest with
    | [] => one
    | _ => one ++ [.text ", "] ++ SelectItem.listPieces d rest

/-- Pieces of a source. -/
def FromItem.pieces (d : Dialect) : FromItem → List Piece
  | .table t => t.pieces d
  | .subquery q aliasName => [.text "("] ++ Query.pieces d q ++ [.text ") as ", identPiece d aliasName]
  | .join left kind right on =>
    FromItem.pieces d left ++ [.clause, .text (joinText kind ++ " ")] ++ FromItem.pieces d right ++
      (match on with
       | some e => [.text " on "] ++ Expr.pieces d e
       | none => [])

/-- Pieces of a common table expression: its body sits between line breaks, one level in. -/
def CteDef.pieces (d : Dialect) : CteDef → List Piece
  | ⟨name, body⟩ =>
    [identPiece d name, .text " as (", .indent, .lineBreak] ++
      (match body with
       | .select q => Query.pieces d q
       | .raw sql => [.text sql]) ++
      [.dedent, .lineBreak, .text ")"]

/-- Pieces of common table expressions separated by `, `. -/
def CteDef.listPieces (d : Dialect) : List CteDef → List Piece
  | [] => []
  | [c] => CteDef.pieces d c
  | c :: cs => CteDef.pieces d c ++ [.text ", "] ++ CteDef.listPieces d cs

/-- Pieces of sort items separated by `, `. -/
def OrderItem.listPieces (d : Dialect) : List OrderItem → List Piece
  | [] => []
  | ⟨e, dir⟩ :: rest =>
    let one := Expr.pieces d e ++ (match dir with | some x => [.text (" " ++ x.text)] | none => [])
    match rest with
    | [] => one
    | _ => one ++ [.text ", "] ++ OrderItem.listPieces d rest

/-- Pieces of set operations and their selects; only a member's body is written. -/
def SetPart.listPieces (d : Dialect) : List SetPart → List Piece
  | [] => []
  | ⟨op, q⟩ :: rest =>
    [.clause, .text (setOperationText op), .clause] ++ Query.bodyPieces d q ++
      SetPart.listPieces d rest

/-- Pieces of an optional expression. -/
def Expr.optPieces (d : Dialect) : Option Expr → Option (List Piece)
  | some e => some (Expr.pieces d e)
  | none => none

/-- Pieces of an optional source. -/
def FromItem.optPieces (d : Dialect) : Option FromItem → Option (List Piece)
  | some f => some (FromItem.pieces d f)
  | none => none

/-- Pieces of a select's body: columns, source, filter, grouping and group filter. -/
def Query.bodyPieces (d : Dialect) : Query → List Piece
  | ⟨_, columns, source, filter, groupBy, having, _, _, _, _⟩ =>
    assembleBody
      (match columns with | [] => none | _ => some (SelectItem.listPieces d columns))
      (FromItem.optPieces d source) (Expr.optPieces d filter)
      (match groupBy with | [] => none | _ => some (Expr.listPieces d groupBy))
      (Expr.optPieces d having)

/-- Pieces of a whole select: `with` list, body, set operations, sorting and paging. SQL Server
pages only a sorted select, so a paged select without sort items is sorted by `(select 0)`. -/
def Query.pieces (d : Dialect) : Query → List Piece
  | ⟨ctes, columns, source, filter, groupBy, having, setOps, orderBy, limit, offset⟩ =>
    (match ctes with
     | [] => []
     | _ => [.text "with "] ++ CteDef.listPieces d ctes ++ [.clause]) ++
      assembleBody
        (match columns with | [] => none | _ => some (SelectItem.listPieces d columns))
        (FromItem.optPieces d source) (Expr.optPieces d filter)
        (match groupBy with | [] => none | _ => some (Expr.listPieces d groupBy))
        (Expr.optPieces d having) ++
      SetPart.listPieces d setOps ++
      (match orderBy with
       | [] =>
         if (limit.isSome || offset.isSome) && d == .sqlServer then
           [.clause, .text "order by (select 0)"]
         else []
       | _ => [.clause, .text "order by "] ++ OrderItem.listPieces d orderBy) ++
      paginationPieces d limit offset

end

/-- Pieces of a `with` list, followed by a clause break; nothing when empty. -/
def withPieces (d : Dialect) : List CteDef → List Piece
  | [] => []
  | cs => [.text "with "] ++ CteDef.listPieces d cs ++ [.clause]

/-- Pieces of rows of values: `(…), (…)`. -/
def rowsPieces (d : Dialect) : List (List Expr) → List Piece
  | [] => []
  | [r] => [.text "("] ++ Expr.listPieces d r ++ [.text ")"]
  | r :: rs => [.text "("] ++ Expr.listPieces d r ++ [.text "), "] ++ rowsPieces d rs

/-- Pieces of an insert. -/
def InsertStmt.pieces (d : Dialect) (s : InsertStmt) : List Piece :=
  withPieces d s.ctes ++ [.text "insert into "] ++ s.table.name.pieces d ++
    (match s.columns with
     | [] => []
     | cols => [.text " ("] ++ commaJoin (cols.map fun c => [identPiece d c]) ++ [.text ")"]) ++
    [.clause] ++
    (match s.rows with
     | .values rows => [.text "values "] ++ rowsPieces d rows
     | .query q => q.pieces d)

/-- Pieces of an update. -/
def UpdateStmt.pieces (d : Dialect) (s : UpdateStmt) : List Piece :=
  [.text "update "] ++ s.table.pieces d ++ [.clause, .text "set "] ++
    commaJoin (s.set.map fun (c, e) => [identPiece d c, .text " = "] ++ e.pieces d) ++
    (match s.filter with
     | some e => [.clause, .text "where "] ++ e.pieces d
     | none => [])

/-- Pieces of a delete. -/
def DeleteStmt.pieces (d : Dialect) (s : DeleteStmt) : List Piece :=
  [.text "delete from "] ++ s.table.pieces d ++
    (match s.filter with
     | some e => [.clause, .text "where "] ++ e.pieces d
     | none => [])

/-- Pieces of a statement. -/
def Stmt.pieces (d : Dialect) : Stmt → List Piece
  | .select q => q.pieces d
  | .insert s => s.pieces d
  | .update s => s.pieces d
  | .delete s => s.pieces d

/-! ### Writers -/

/-- How pieces are written: with placeholders or literals, compact or pretty. -/
structure Layout where
  parameterized : Bool
  pretty : Bool

/-- What a writer has produced so far. -/
structure Written where
  sql : String
  params : Array Param
  indent : Nat

/-- A new line at the current indentation. -/
def Written.newLine (w : Written) : Written :=
  { w with sql := w.sql ++ "\n" ++ String.join (List.replicate w.indent "    ") }

/-- Writes one piece. -/
def Written.push (d : Dialect) (layout : Layout) (w : Written) : Piece → Written
  | .text s => { w with sql := w.sql ++ s }
  | .value p =>
    if layout.parameterized then
      { w with sql := w.sql ++ d.placeholder (w.params.size + 1), params := w.params.push p }
    else { w with sql := w.sql ++ p.literal d }
  | .clause => if layout.pretty then w.newLine else { w with sql := w.sql ++ " " }
  | .lineBreak => if layout.pretty then w.newLine else w
  | .indent => { w with indent := w.indent + 1 }
  | .dedent => { w with indent := w.indent - 1 }

/-- Writes pieces from the start. -/
def writePieces (d : Dialect) (layout : Layout) (ps : List Piece) : Written :=
  ps.foldl (Written.push d layout) ⟨"", #[], 0⟩

/-- SQL text with the values bound to its placeholders. -/
structure Compiled where
  sql : String
  params : List Param
  parameterized : Bool

/-- Compact text with placeholders, and the values in placeholder order. -/
def parameterized (d : Dialect) (ps : List Piece) : Compiled :=
  let w := writePieces d ⟨true, false⟩ ps
  ⟨w.sql, w.params.toList, true⟩

/-- Compact text with values written as literals. -/
def inline (d : Dialect) (ps : List Piece) : String :=
  (writePieces d ⟨false, false⟩ ps).sql

/-- Pretty text with values written as literals. -/
def pretty (d : Dialect) (ps : List Piece) : String :=
  (writePieces d ⟨false, true⟩ ps).sql

namespace Stmt

/-- The statement with placeholders. -/
def render (s : Stmt) (d : Dialect) : Compiled := parameterized d (s.pieces d)

/-- The statement with values inline. -/
def renderInline (s : Stmt) (d : Dialect) : String := inline d (s.pieces d)

/-- The statement with values inline, one clause per line. -/
def renderPretty (s : Stmt) (d : Dialect) : String := pretty d (s.pieces d)

/-- The size of output buffer a statement is expected to need: larger for statements with
common table expressions, set operations or an inserted query. -/
def capacity : Stmt → Nat
  | .select q =>
    let weight := q.ctes.length + q.setOps.length
    if weight ≥ 5 then 8192 else if weight > 0 then 4096 else 1024
  | .insert s =>
    if !s.ctes.isEmpty then 4096
    else match s.rows with
      | .query _ => 4096
      | .values _ => 1024
  | .update _ | .delete _ => 1024

end Stmt

namespace Expr

/-- The expression with placeholders. -/
def render (e : Expr) (d : Dialect) : Compiled := parameterized d (e.pieces d)

/-- The expression with values inline. -/
def renderInline (e : Expr) (d : Dialect) : String := inline d (e.pieces d)

end Expr

/-- Bound values collected in placeholder order; the `k`-th added value has index `k`,
counting from 1. -/
structure ParamCollector where
  params : List Param

namespace ParamCollector

/-- No values. -/
def empty : ParamCollector := ⟨[]⟩

/-- Adds a value, giving its index. -/
def add (c : ParamCollector) (p : Param) : ParamCollector × Nat :=
  (⟨c.params ++ [p]⟩, c.params.length + 1)

/-- The values with their indices. -/
def numbered (c : ParamCollector) : List (Nat × Param) :=
  (List.range c.params.length).map (· + 1) |>.zip c.params

/-- The number of values. -/
def len (c : ParamCollector) : Nat := c.params.length

/-- Whether there are no values. -/
def isEmpty (c : ParamCollector) : Bool := c.params.isEmpty

end ParamCollector

end QueryDoc.Sql
