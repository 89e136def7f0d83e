import QueryDoc.Plan
import QueryDoc.Text.Debug
import QueryDoc.Text.Unicode
import QueryDoc.Decimal.Layout

/-!
The lines the facade logs while it runs statements.

A log level says how much is written. `basic` writes each plan's step count, each statement's
SQL cut to 1000 bytes, how each operation ended, and the failures. `detailed` adds the plan's
operation, tags and steps, each bound value, and the full SQL. `debug` adds the statement
documents. Any other level writes nothing.

Every line starts with its severity (`INFO` or `WARN`) and the `sql_facade:` mark.
-/

namespace QueryDoc.Facade

open Sql

/-- How much the facade logs. -/
inductive LogLevel where
  | off
  | basic
  | detailed
  | debug
  deriving BEq, Inhabited, Repr

namespace LogLevel

/-- The levels in increasing order of detail. -/
def rank : LogLevel → Nat
  | .off => 0
  | .basic => 1
  | .detailed => 2
  | .debug => 3

/-- Whether this level writes what `wanted` writes. -/
def atLeast (level wanted : LogLevel) : Bool := wanted.rank ≤ level.rank

/-- A level by name, in any case; an unknown name is `off`. -/
def parse (s : String) : LogLevel :=
  let name := Text.lower s
  if name == "basic" then .basic
  else if name == "detailed" then .detailed
  else if name == "debug" then .debug
  else .off

end LogLevel

/-- An information line. -/
def info (message : String) : String := "INFO sql_facade: " ++ message

/-- A warning line. -/
def warn (message : String) : String := "WARN sql_facade: " ++ message

/-- The longest start of a character list that fits in `room` bytes. -/
def fitBytes : List Char → Nat → List Char
  | [], _ => []
  | c :: cs, room => if c.utf8Size ≤ room then c :: fitBytes cs (room - c.utf8Size) else []

/-- A text cut to at most `max` bytes on a character boundary, with `...` after a cut. -/
def truncate (text : String) (max : Nat) : String :=
  if text.utf8ByteSize ≤ max then text else String.ofList (fitBytes text.toList max) ++ "..."

/-- The debug text of a bound value, such as `String("x")` or `Float(1.5)`. -/
def paramDebug : Param → String
  | .null => "Null"
  | .bool b => "Bool(" ++ (if b then "true" else "false") ++ ")"
  | .integer n => "Integer(" ++ toString n ++ ")"
  | .float f => "Float(" ++ Decimal.Style.debug.format f ++ ")"
  | .string s => "String(" ++ Text.debugQuote s ++ ")"

/-- The debug text of a list of names: `["a", "b"]`. -/
def namesDebug (names : List String) : String :=
  "[" ++ ", ".intercalate (names.map Text.debugQuote) ++ "]"

/-- The lines logged for a plan about to run. -/
def planLines (level : LogLevel) (plan : Plan) : List String :=
  if !level.atLeast .basic then []
  else
    [info ("execution plan steps=" ++ toString plan.steps.length)] ++
    (if level.atLeast .detailed then
      plan.telemetry.operation.toList.map (fun op => info ("operation: " ++ op)) ++
      plan.telemetry.tags.map (fun (k, v) => info ("tag " ++ k ++ ": " ++ v)) ++
      plan.steps.map fun s =>
        info ("step " ++ s.description ++ " id=" ++ s.id ++ " depends_on=" ++ namesDebug s.dependsOn)
    else []) ++
    (if level.atLeast .debug then
      plan.telemetry.document.toList.map fun d => info ("statement: " ++ truncate d 2000)
    else [])

/-- The lines logged for a statement about to run. -/
def sqlLines (level : LogLevel) (sql : String) (params : List Param) : List String :=
  if !level.atLeast .basic then []
  else
    let detailed := level.atLeast .detailed
    [info ("SQL: " ++ (if detailed then sql else truncate sql 1000))] ++
    (if detailed then
      params.zipIdx.map fun (p, i) => info ("param " ++ toString (i + 1) ++ ": " ++ paramDebug p)
    else [])

/-- The line logged when an operation ends. -/
def resultLines (level : LogLevel) (success : Bool) : List String :=
  if level.atLeast .basic then [info ("execution " ++ if success then "completed" else "failed")]
  else []

/-- The line logged for a failure in some context. -/
def errorLines (level : LogLevel) (context error : String) : List String :=
  if level.atLeast .basic then [warn ("error in " ++ context ++ ": " ++ error)] else []

end QueryDoc.Facade
