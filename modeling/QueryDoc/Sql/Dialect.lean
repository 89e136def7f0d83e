import QueryDoc.Error
import QueryDoc.Text.Unicode

/-!
SQL dialects: PostgreSQL, SQLite and SQL Server.

They differ in how an identifier is quoted (`"x"` or `[x]`, the closing character doubled
inside), how the `k`-th bound value is marked (`$k`, `?k`, `@p(k-1)`), and how a boolean
literal is written (`true`/`false` or `1`/`0`).
-/

namespace QueryDoc.Sql

/-- A target SQL dialect. -/
inductive Dialect where
  | postgres
  | sqlite
  | sqlServer
  deriving Repr, BEq, DecidableEq, Inhabited

namespace Dialect

/-- All dialects, in their fixed order. -/
def all : List Dialect := [.postgres, .sqlite, .sqlServer]

/-- The dialect's short name. -/
def name : Dialect → String
  | .postgres => "postgres"
  | .sqlite => "sqlite"
  | .sqlServer => "sqlserver"

/-- The dialect's name in debug text. -/
def debugName : Dialect → String
  | .postgres => "Postgres"
  | .sqlite => "Sqlite"
  | .sqlServer => "SqlServer"

/-- Reads a dialect name: blanks around it are ignored, case is folded, and `postgresql` and
`mssql` are accepted as other names. -/
def parse (s : String) : Result Dialect :=
  let n := Text.lower (Text.trimBlanks s)
  if n == "postgres" || n == "postgresql" then .ok .postgres
  else if n == "sqlite" then .ok .sqlite
  else if n == "sqlserver" || n == "mssql" then .ok .sqlServer
  else invalid ("unsupported dialect '" ++ n ++ "'")

/-- The opening and closing characters of a quoted identifier. -/
def quoteChars : Dialect → Char × Char
  | .postgres | .sqlite => ('"', '"')
  | .sqlServer => ('[', ']')

/-- A quoted identifier: the closing character is doubled inside. -/
def quote (d : Dialect) (ident : String) : String :=
  let (openC, closeC) := d.quoteChars
  String.singleton openC ++
    String.ofList (ident.toList.flatMap fun c => if c == closeC then [c, c] else [c]) ++
    String.singleton closeC

/-- The marker of the `k`-th bound value, counting from 1. -/
def placeholder : Dialect → Nat → String
  | .postgres, k => "$" ++ toString k
  | .sqlite, k => "?" ++ toString k
  | .sqlServer, k => "@p" ++ toString (k - 1)

/-- A boolean literal. -/
def boolLiteral : Dialect → Bool → String
  | .postgres, true => "true"
  | .postgres, false => "false"
  | _, true => "1"
  | _, false => "0"

end Dialect

end QueryDoc.Sql
