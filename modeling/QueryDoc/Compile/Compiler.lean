import QueryDoc.Compile.Statement

/-!
A compiler for one dialect: statements to SQL text with placeholders and bound values, to
SQL text with literal values, or to indented text for reading.
-/

namespace QueryDoc.Compile

open Sql

/-- Compiles statements and writes them for one dialect. -/
structure Compiler where
  dialect : Dialect
  deriving BEq, Inhabited

namespace Compiler

/-- The compiled syntax of a statement, not yet written. -/
def toStmt (_ : Compiler) (s : Statement) : Result Stmt := compileStatement s

/-- The statement with placeholders and its bound values. -/
def compile (c : Compiler) (s : Statement) : Result Compiled := do
  let stmt ← compileStatement s
  pure (stmt.render c.dialect)

/-- A select restricted to one window of rows. -/
def compilePage (c : Compiler) (s : Select) (limit offset : Nat) : Result Compiled := do
  let q ← compileSelect [] s
  pure ((Stmt.select { q with limit := some limit, offset := some offset }).render c.dialect)

/-- The statement's text, with placeholders or with values inline. -/
def getSql (c : Compiler) (s : Statement) (withPlaceholders : Bool) : Result String := do
  let stmt ← compileStatement s
  pure (if withPlaceholders then (stmt.render c.dialect).sql else stmt.renderInline c.dialect)

/-- Indented text of compiled syntax, values inline. -/
def renderPretty (c : Compiler) (stmt : Stmt) : String := stmt.renderPretty c.dialect

end Compiler

end QueryDoc.Compile
