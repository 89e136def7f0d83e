import QueryDoc.Store.Engine
import QueryDoc.Compile.Compiler
import QueryDoc.Model.Document
import QueryDoc.Paging
import QueryDoc.Facade.Config
import QueryDoc.Facade.Telemetry
import QueryDoc.Facade.Rows

/-!
A facade at work: statements compiled for its dialect and run on a database, in units of work.

A facade has a backend only for sqlite. A backend on an in-memory path keeps one connection,
which a unit of work borrows for as long as it lasts; asking for it again before it is given
back is refused. A backend on another path opens a new connection for each unit of work; the
empty path is a private temporary database, new each time.

Every operation runs in the open transaction when there is one, and otherwise in a unit of
work of its own that commits when the operation succeeds and rolls back when it fails. Each
operation logs how it ended; an execution failure comes out of it wrapped in
`Exception executing SQL statement`, while a validation failure comes out unchanged.

The facade reaches its database through `Executor`: connections opened on a path and closed,
and on a connection the transaction commands, writes and queries. The database engine is one
such executor; the facade's code is written for any.

Writes run as plans: one step for a single write, a chain of steps for a batch. Reads compile
their select and query it directly. Counting replaces a select's fields and sorts by
`count(*)` named `total`.
-/

namespace QueryDoc.Facade

open Store Sql Compile

/-- The message every execution failure of an operation is wrapped in. -/
def executionContext : String := "Exception executing SQL statement"

/-- The name of the counting column. -/
def countAlias : String := "total"

/-- Where a facade's statements run: a path, and for an in-memory path the connection that
keeps its database alive. -/
structure Backend where
  path : String
  store : Option Nat

/-- A connection lent to a unit of work; an `owned` one is closed when the unit ends. -/
structure Handle where
  connection : Nat
  owned : Bool

/-- A transaction command. -/
inductive TxCommand where
  | begin
  | commit
  | rollback

/-- The SQL of a transaction command. -/
def TxCommand.sql : TxCommand → String
  | .begin => "begin"
  | .commit => "commit"
  | .rollback => "rollback"

/-- What the facade needs of a database: connections opened on a path and closed, and on a
connection transaction commands, writes (the rows they changed) and queries. -/
class Executor (σ : Type) where
  connect : σ → String → σ × Nat
  close : σ → Nat → σ
  control : σ → Nat → TxCommand → σ × Outcome Unit
  execute : σ → Nat → String → List Datum → σ × Outcome Nat
  query : σ → Nat → String → List Datum → σ × Outcome (List String × Array (Array Datum))

/-- The database engine runs a transaction command as its SQL. -/
instance : Executor Engine where
  connect := Engine.connect
  close := Engine.close
  control e c command :=
    let (e, r) := e.execute c command.sql []
    (e, r.map fun _ => ())
  execute := Engine.execute
  query := Engine.query

/-- Whether a connection string names a database file: a path that is neither empty nor
in memory. -/
def opensFile (connection : String) : Bool :=
  let path := normalizePath connection
  !path.isEmpty && !isMemoryPath path

/-- Opens a backend; an in-memory path opens its database at once. -/
def Backend.open (engine : Engine) (connection : String) : Result (Engine × Backend) :=
  let path := normalizePath connection
  if isMemoryPath path then
    match openProblem path with
    | some problem => .error (Failure.general problem).toError
    | none =>
      let (e, c) := engine.connect path
      .ok (e, ⟨path, some c⟩)
  else .ok (engine, ⟨path, none⟩)

/-- Checks that a facade can be made for a configuration: for sqlite this opens its backend. -/
def Config.check (c : Config) : Result Unit :=
  if c.dialect == .sqlite then (Backend.open Engine.empty c.connectionString).map fun _ => ()
  else .ok ()

/-- The debug text of a facade made for a configuration. -/
def facadeDebug (c : Config) : String :=
  "SqlFacade \x7b config: " ++ c.debugText ++ ", has_backend: " ++
    (if c.dialect == .sqlite then "true" else "false") ++ " \x7d"

/-- A statement of a batch write compiled: only inserts, updates and deletes are taken. -/
def writeStmt (compiler : Compiler) (s : Statement) : Result Stmt :=
  if !s.isWrite then invalid "a batch write only takes insert, update and delete statements"
  else compiler.toStmt s

/-- A running session: the databases, the facade, and the open transaction. -/
structure Session (σ : Type) where
  engine : σ
  /-- Store connections lent to a unit of work. -/
  held : List Nat
  level : LogLevel
  compiler : Compiler
  /-- The facade's backend; only sqlite has one. -/
  backend : Option Backend
  /-- The backend raw SQL runs on. -/
  sqlBackend : Backend
  /-- The open transaction's connection. -/
  transaction : Option Handle
  /-- Lines logged by the step being run. -/
  logs : Array String

/-- A session action: it changes the session and may fail. -/
abbrev Act (σ : Type) := ExceptT Error (StateM (Session σ))

namespace Act

variable {σ : Type} [Executor σ]

/-- Logs lines. -/
def log (lines : List String) : Act σ Unit :=
  modify fun s => { s with logs := s.logs ++ lines.toArray }

/-- The session's log level. -/
def level : Act σ LogLevel := do return (← get).level

/-- Fails as an outcome says. -/
def ofResult {α : Type} : Result α → Act σ α
  | .ok a => pure a
  | .error e => throw e

/-- Runs an action, catching its failure. -/
def attempt {α : Type} (a : Act σ α) : Act σ (Except Error α) :=
  tryCatch (Except.ok <$> a) (fun e => pure (.error e))

/-- Borrows a connection from a backend. -/
def connect (b : Backend) : Act σ Handle := do
  match b.store with
  | some c =>
    if (← get).held.contains c then
      throw (.validation "a unit of work is already open on this backend; pass it as tx")
    modify fun s => { s with held := c :: s.held }
    pure ⟨c, false⟩
  | none =>
    match openProblem b.path with
    | some problem => throw (Failure.general problem).toError
    | none =>
      let s ← get
      let (e, c) := Executor.connect s.engine b.path
      set { s with engine := e }
      pure ⟨c, true⟩

/-- Gives a borrowed connection back. -/
def release (h : Handle) : Act σ Unit :=
  modify fun s =>
    if h.owned then { s with engine := Executor.close s.engine h.connection }
    else { s with held := s.held.erase h.connection }

/-- Runs a statement for its changes on a connection. -/
def execute (h : Handle) (sql : String) (params : List Datum) : Act σ Nat := do
  let s ← get
  let (e, r) := Executor.execute s.engine h.connection sql params
  set { s with engine := e }
  match r with
  | .ok n => pure n
  | .error f => throw f.toError

/-- Runs a query on a connection. -/
def query (h : Handle) (sql : String) (params : List Datum) :
    Act σ (List String × Array (Array Datum)) := do
  let s ← get
  let (e, r) := Executor.query s.engine h.connection sql params
  set { s with engine := e }
  match r with
  | .ok rows => pure rows
  | .error f => throw f.toError

/-- Runs a transaction command on a connection. -/
def control (h : Handle) (command : TxCommand) : Act σ Unit := do
  let s ← get
  let (e, r) := Executor.control s.engine h.connection command
  set { s with engine := e }
  match r with
  | .ok _ => pure ()
  | .error f => throw f.toError

/-- Opens a unit of work on the facade's backend. -/
def beginUnit : Act σ Handle := do
  let s ← get
  let some b := s.backend
    | throw (.validation ("no execution backend configured for dialect " ++ s.compiler.dialect.name))
  let h ← tryCatch (connect b) (fun e => throw (e.wrap executionContext))
  match ← attempt (control h .begin) with
  | .ok _ => pure h
  | .error e =>
    release h
    throw (e.wrap executionContext)

/-- Ends a unit of work with `commit` or `rollback`, giving its connection back. -/
def endUnit (h : Handle) (command : TxCommand) : Act σ Unit := do
  let r ← attempt (control h command)
  release h
  match r with
  | .ok _ => pure ()
  | .error e => throw (e.wrap executionContext)

/-- Runs work in the open transaction, or in a unit of work of its own. -/
def inScope {α : Type} (work : Handle → Act σ α) : Act σ α := do
  match (← get).transaction with
  | some h => work h
  | none =>
    let h ← beginUnit
    match ← attempt (work h) with
    | .ok v =>
      endUnit h .commit
      pure v
    | .error e =>
      match ← attempt (endUnit h .rollback) with
      | .ok _ => pure ()
      | .error re => log (errorLines (← level) "rollback" re.display)
      throw e

/-- Runs an operation, logging its document first and how it ended last. -/
def instrument {α : Type} (operation : String) (document : Option String) (work : Act σ α) : Act σ α := do
  if let some d := document then log [info (operation ++ " " ++ d)]
  match ← attempt work with
  | .ok v =>
    log (resultLines (← level) true)
    pure v
  | .error e =>
    let lv ← level
    log (errorLines lv operation e.display ++ resultLines lv false)
    throw (e.wrap executionContext)

/-- A statement's document, when the log level writes documents. -/
def document (s : Statement) : Act σ (Option String) := do
  if (← level).atLeast .debug then pure (some s.toJsonText) else pure none

/-- A bound value as a stored value. -/
def paramDatum : Param → Datum
  | .null => .null
  | .bool b => .integer (if b then 1 else 0)
  | .integer n => .integer n
  | .float f => Datum.ofReal f
  | .string s => .text s

/-- Runs compiled SQL as a query, logging it: the rows as object members. -/
def queryRows (h : Handle) (c : Compiled) : Act σ (List (List (String × Json))) := do
  log (sqlLines (← level) c.sql c.params)
  let (names, rows) ← query h c.sql (c.params.map paramDatum)
  pure (rows.toList.map fun r => rowMembers names r.toList)

/-- Runs a plan's steps in order: the rows each changed. -/
def runPlan (h : Handle) (plan : QueryDoc.Plan) : Act σ (List Nat) := do
  log (planLines (← level) plan)
  let d := (← get).compiler.dialect
  let steps ← ofResult plan.stepsInOrder
  steps.mapM fun step => do
    let c := step.stmt.render d
    log (sqlLines (← level) c.sql c.params)
    execute h c.sql (c.params.map paramDatum)

/-- The integer in the first column of a count row. -/
def countValue (row : List (String × Json)) : Result Int :=
  match row with
  | [] => .error (.execution "count query returned no columns" [])
  | (_, .int i) :: _ => .ok i
  | (_, v) :: _ => .error (.execution ("row count " ++ Json.render v ++ " is not an integer") [])

/-- The number of rows a select gives, ignoring its fields and sorts. -/
def countRows (h : Handle) (select : Select) : Act σ Int := do
  let clone ← ofResult select.deepClone
  let counting := clone.clearFields.clearSorts.withField (Field.rawAs "count(*)" countAlias)
  let c ← ofResult ((← get).compiler.compile (.select counting))
  match ← queryRows h c with
  | [] => pure 0
  | row :: _ => ofResult (countValue row)

/-- Maps rows onto a type, stopping at the first that does not fit. -/
def decodeRows (t : RowType) (rows : List (List (String × Json))) : Act σ (List Json) :=
  rows.mapM fun r => ofResult (t.decode r)

/-- All rows of a select. -/
def getResults (select : Select) (t : RowType) : Act σ (List Json) := do
  let doc ← document (.select select)
  inScope fun h => instrument "get_results" doc do
    let c ← ofResult ((← get).compiler.compile (.select select))
    decodeRows t (← queryRows h c)

/-- The only row of a select, if any; several rows fail. -/
def getSingleResult (select : Select) (t : RowType) : Act σ (Option Json) := do
  let doc ← document (.select select)
  inScope fun h => instrument "get_single_result" doc do
    let c ← ofResult ((← get).compiler.compile (.select select))
    let rows ← queryRows h c
    if rows.length > 1 then
      throw (.validation ("expected at most one row but the query returned " ++ toString rows.length))
    match rows.getLast? with
    | some r => some <$> ofResult (t.decode r)
    | none => pure none

/-- The number of rows a select gives. -/
def getTotalNumResults (select : Select) : Act σ Int := do
  let doc ← document (.select select)
  inScope fun h => instrument "get_total_num_results" doc (countRows h select)

/-- One page of a select, with the count of all its rows when asked. -/
def getPagedResults (select : Select) (pageNum pageSize : Nat) (withTotal : Bool) (t : RowType) :
    Act σ (Page Json) := do
  let doc ← document (.select select)
  inScope fun h => instrument "get_paged_results" doc do
    let (limit, offset) ← ofResult (pageBounds pageNum pageSize)
    let c ← ofResult ((← get).compiler.compilePage select limit offset)
    let items ← decodeRows t (← queryRows h c)
    if !withTotal then pure ⟨pageNum, pageSize, items, none⟩
    else
      let total ← countRows h select
      if total < 0 then throw (.execution ("row count " ++ toString total ++ " is negative") [])
      pure ⟨pageNum, pageSize, items, some total.toNat⟩

/-- The work of a single write on a connection: the statement compiled and run as a plan of
one step. -/
def writeWork (statement : Statement) (doc : Option String) (h : Handle) : Act σ Nat :=
  instrument "execute_write" none do
    let compiler := (← get).compiler
    let stmt ← ofResult (compiler.toStmt statement)
    let plan := ((QueryDoc.Plan.single stmt statement.type.tag).withContext "execute_write" doc).withTag
      "dialect" compiler.dialect.name
    let counts ← runPlan h plan
    pure (counts.foldl (· + ·) 0)

/-- Runs an insert, update or delete: the rows it changed. -/
def executeWrite (statement : Statement) : Act σ Nat := do
  let doc ← document statement
  inScope (writeWork statement doc)

/-- The work of a batch write on a connection: every statement compiled first, then all run
as a chained plan. -/
def batchWork (statements : List Statement) (h : Handle) : Act σ (List Nat) :=
  instrument "execute_batch_write" none do
    let compiler := (← get).compiler
    let stmts ← ofResult (statements.mapM (writeStmt compiler))
    let plan := ((QueryDoc.Plan.chained stmts).withContext "execute_batch_write" none).withTag
      "dialect" compiler.dialect.name
    runPlan h plan

/-- Runs writes in order in one unit of work: the rows each changed. -/
def executeBatchWrite (statements : List Statement) : Act σ (List Nat) :=
  inScope (batchWork statements)

end Act

/-- What a session step asks for. -/
inductive Request where
  /-- Raw SQL on the database, outside the facade. -/
  | sql (text : String)
  | begin
  | commit
  | rollback
  /-- The dialect of the open transaction. -/
  | transactionDialect
  | write (statement : Statement)
  | batch (statements : List Statement)
  | count (select : Select)
  | results (select : Select) (rowType : RowType)
  | single (select : Select) (rowType : RowType)
  | page (select : Select) (pageNum pageSize : Nat) (withTotal : Bool) (rowType : RowType)

/-- What a session step answers. -/
inductive Reply where
  | affected (count : Nat)
  | affectedEach (counts : List Nat)
  | ok
  | dialect (name : String)
  | count (n : Int)
  | rows (rows : List Json)
  | single (row : Option Json)
  | page (p : Page Json)

/-- Why a session step failed. -/
inductive StepFailure where
  /-- The library failed. -/
  | library (e : Error)
  /-- A step that needs an open transaction found none. -/
  | noTransaction
  /-- The step could not be read. -/
  | malformed (message : String)
  /-- The step needs a select but its document holds another kind of statement. -/
  | notSelect (found : StatementType)

namespace Session

/-- Starts a session on a fresh in-memory database shared by the facade and raw SQL; only
sqlite gives the facade a backend. -/
def start (dialect : Dialect) (level : LogLevel) : Result (Session Engine) := do
  let (engine, b) ← Backend.open Engine.empty ":memory:"
  pure ⟨engine, [], level, ⟨dialect⟩, (if dialect == .sqlite then some b else none), b, none, #[]⟩

/-- Starts a session whose facade opens its own backend on a connection string, and whose
raw SQL runs on a second backend opened on the same string. -/
def startOn (dialect : Dialect) (connection : String) (level : LogLevel) :
    Result (Session Engine) := do
  let (engine, facadeBackend) ←
    if dialect == .sqlite then do
      let (e, b) ← Backend.open Engine.empty connection
      pure (e, some b)
    else pure (Engine.empty, none)
  let (engine, b) ← Backend.open engine connection
  pure ⟨engine, [], level, ⟨dialect⟩, facadeBackend, b, none, #[]⟩

variable {σ : Type} [Executor σ]

/-- Raw SQL on the raw-SQL backend: the rows it changed. -/
def rawSql (text : String) : Act σ Nat := do
  let h ← Act.connect (← get).sqlBackend
  let r ← Act.attempt (Act.execute h text [])
  Act.release h
  match r with
  | .ok n => pure n
  | .error e => throw e

/-- Opens the session's transaction. -/
def beginTransaction : Act σ Unit := do
  if (← get).transaction.isSome then
    throw (.validation "a unit of work is already open on this backend; pass it as tx")
  let h ← Act.beginUnit
  modify fun s => { s with transaction := some h }

/-- Ends the session's transaction with `commit` or `rollback`. -/
def finishTransaction (h : Handle) (command : TxCommand) : Act σ Unit := do
  modify fun s => { s with transaction := none }
  Act.endUnit h command

/-- Runs a request. -/
def request : Request → ExceptT StepFailure (StateM (Session σ)) Reply
  | .sql text => lib (.affected <$> rawSql text)
  | .begin => lib (beginTransaction *> pure .ok)
  | .commit => do
    let some h := (← get).transaction | throw .noTransaction
    lib (finishTransaction h .commit *> pure .ok)
  | .rollback => do
    let some h := (← get).transaction | throw .noTransaction
    lib (finishTransaction h .rollback *> pure .ok)
  | .transactionDialect => do
    if (← get).transaction.isNone then throw .noTransaction
    pure (.dialect (← get).compiler.dialect.name)
  | .write s => lib (.affected <$> Act.executeWrite s)
  | .batch ss => lib (.affectedEach <$> Act.executeBatchWrite ss)
  | .count s => lib (.count <$> Act.getTotalNumResults s)
  | .results s t => lib (.rows <$> Act.getResults s t)
  | .single s t => lib (.single <$> Act.getSingleResult s t)
  | .page s n size withTotal t => lib (.page <$> Act.getPagedResults s n size withTotal t)
where
  /-- A library action as a step action. -/
  lib (a : Act σ Reply) : ExceptT StepFailure (StateM (Session σ)) Reply :=
    ExceptT.adapt StepFailure.library a

/-- Runs one step: its outcome, the lines it logged, and the session after it. -/
def step (s : Session σ) (r : Request) : (Except StepFailure Reply × List String) × Session σ :=
  let (outcome, s') := (request r).run.run { s with logs := #[] }
  ((outcome, s'.logs.toList), s')

end Session

end QueryDoc.Facade
