import QueryDoc.Sql.Dialect
import QueryDoc.Json.Decode
import QueryDoc.Text.Debug

/-!
What a facade is made for: a dialect and a connection string.

The configuration reads from a JSON object `{dialect, connectionString}` (or a two-item
array), where the dialect is one of the lowercase names, or from two environment values, where
the dialect name is read leniently (`Dialect.parse`).
-/

namespace QueryDoc.Facade

open Sql Json

/-- A dialect and a connection string. -/
structure Config where
  dialect : Dialect
  connectionString : String
  deriving BEq, Inhabited

/-- The environment value naming the dialect. -/
def dialectVariable : String := "SQL_FACADE_DIALECT"

/-- The environment value holding the connection string. -/
def connectionVariable : String := "SQL_FACADE_CONNECTION"

namespace Config

/-- The configuration as debug text. -/
def debugText (c : Config) : String :=
  "SqlFacadeConfig \x7b dialect: " ++ c.dialect.debugName ++ ", connection_string: " ++
    Text.debugQuote c.connectionString ++ " \x7d"

/-- The configuration as a JSON object. -/
def toJson (c : Config) : Json :=
  .obj [("dialect", .str c.dialect.name), ("connectionString", .str c.connectionString)]

/-- Dialects by their exact lowercase names. -/
def dialectNames : List (String × Dialect) :=
  [("postgres", .postgres), ("sqlite", .sqlite), ("sqlserver", .sqlServer)]

/-- Reads a configuration from JSON. -/
def decode : Decoder Config
  | .obj ms => do
    let outcomes : List (String × Option DecodeError) :=
      [("dialect", failureOf ((member? ms "dialect").map (decodeNamed dialectNames))),
       ("connectionString", failureOf ((member? ms "connectionString").map decodeString))]
    firstFailure ms outcomes
    let d ← required "dialect" ((member? ms "dialect").map (decodeNamed dialectNames))
    let s ← required "connectionString" ((member? ms "connectionString").map decodeString)
    pure ⟨d, s⟩
  | .arr xs => do
    let expecting := recordExpecting "SqlFacadeConfig" 2
    let d ← itemRequired xs 0 expecting (decodeNamed dialectNames)
    let s ← itemRequired xs 1 expecting decodeString
    itemsEnd xs 2
    pure ⟨d, s⟩
  | j => .error (.invalidType (.of j) "struct SqlFacadeConfig")

/-- Reads a configuration from the two environment values; the dialect is checked first. -/
def fromEnv (dialect connection : Option String) : Result Config :=
  match dialect with
  | none => invalid ("environment variable " ++ dialectVariable ++ " is not set")
  | some d => do
    let d ← Dialect.parse d
    match connection with
    | none => invalid ("environment variable " ++ connectionVariable ++ " is not set")
    | some c => pure ⟨d, c⟩

end Config

end QueryDoc.Facade
