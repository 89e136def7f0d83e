import QueryDoc.Store.Statement
import QueryDoc.Store.Location

/-!
Databases and the connections that use them.

An engine holds every main database and every open connection. A connection sees its main
database, a temporary database of its own and the databases it attached; it remembers how
many rows its last insert, update or delete changed, how many rows all its statements
changed, the row id it last inserted, and whether foreign keys are enforced.

A transaction keeps the databases as they were when it began, so that a rollback can bring
that state back; a savepoint keeps them as they were when it was set. A savepoint set with no
transaction open opens one, which releasing that savepoint commits.

Several connections reach one main database only when it is opened by a shared name. Then an
open transaction holds locks on the tables it has touched until it ends: while one
connection's transaction has written anything, no other connection may write, and no other
connection may read a table it wrote or write a table it read.
-/

namespace QueryDoc.Store

/-- The databases one connection sees, as a transaction or a savepoint keeps them. -/
abbrev Databases := List (String × Database)

/-- A savepoint: its name, the databases as they were when it was set, and the counts of
references then left broken for the commit. -/
structure Savepoint where
  name : String
  dbs : Databases
  deferredBroken : Int
  postponedBroken : Int

/-- A connection's state. -/
structure Connection where
  /-- The number of its main database. -/
  home : Nat
  /-- Its temporary database. -/
  temp : Database
  /-- The databases it attached, by name. -/
  attached : List (String × Database)
  /-- What its pragmas set. -/
  settings : Settings
  /-- References its open transaction left broken under keys declared deferred. -/
  deferredBroken : Int
  /-- References its open transaction left broken while `defer_foreign_keys` was on. -/
  postponedBroken : Int
  /-- Rows changed by its last insert, update or delete. -/
  changes : Nat
  /-- Rows changed by all its statements. -/
  total : Nat
  /-- The row id of its last inserted row. -/
  lastRowid : Int
  /-- The databases as they were when the open transaction began; `none` outside one. -/
  snapshot : Option Databases
  /-- Whether a savepoint opened the transaction. -/
  bySavepoint : Bool
  /-- The savepoints set, the latest first. -/
  savepoints : List Savepoint
  /-- Tables read by its open transaction, by folded name. -/
  reads : List String
  /-- Tables written by its open transaction, by folded name. -/
  writes : List String

namespace Connection

/-- A connection to a main database, with no transaction open. -/
def fresh (home : Nat) : Connection :=
  ⟨home, Database.emptyTemp, [], {}, 0, 0, 0, 0, 0, none, false, [], [], []⟩

/-- Whether a transaction is open. -/
def inTransaction (c : Connection) : Bool := c.snapshot.isSome

/-- Ends the open transaction and its locks. -/
def release (c : Connection) : Connection :=
  { c with snapshot := none, bySavepoint := false, savepoints := [], reads := [], writes := [],
           deferredBroken := 0, postponedBroken := 0, settings := c.settings.set .deferForeignKeys false }

/-- Refuses to commit while references wait broken for the commit. -/
def checkHeld (c : Connection) : Outcome Unit :=
  if c.deferredBroken > 0 || c.postponedBroken > 0 then
    throw (.coded .constraintForeignKey "FOREIGN KEY constraint failed")
  else pure ()

/-- The counts a statement of the connection reads. -/
def callContext (c : Connection) : CallContext :=
  ⟨c.changes, c.total, c.lastRowid, c.settings.caseSensitiveLike, c.settings.encoding⟩

end Connection

/-- Every database and connection. -/
structure Engine where
  /-- Main databases by number. -/
  databases : List (Nat × Database)
  /-- Shared names and the databases they open. -/
  sharedNames : List (String × Nat)
  /-- Open connections by number. -/
  connections : List (Nat × Connection)
  /-- The next unused number. -/
  nextId : Nat

namespace Engine

/-- An engine with nothing open. -/
def empty : Engine := ⟨[], [], [], 0⟩

/-- A main database by number; a number that names none is an empty database. -/
def database (e : Engine) (id : Nat) : Database :=
  ((e.databases.find? (fun (entry : Nat × Database) => entry.1 == id)).map (·.2)).getD Database.empty

/-- Replaces a main database. -/
def setDatabase (e : Engine) (id : Nat) (db : Database) : Engine :=
  { e with databases := (id, db) :: e.databases.filter (·.1 != id) }

/-- A connection by number. -/
def connection? (e : Engine) (c : Nat) : Option Connection :=
  (e.connections.find? (fun (entry : Nat × Connection) => entry.1 == c)).map (·.2)

/-- Replaces a connection. -/
def setConnection (e : Engine) (c : Nat) (conn : Connection) : Engine :=
  { e with connections := e.connections.map fun (i, x) => if i == c then (i, conn) else (i, x) }

/-- The databases a connection sees: main, temp, then the attached ones. -/
def databasesOf (e : Engine) (conn : Connection) : Databases :=
  [("main", e.database conn.home), ("temp", conn.temp)] ++ conn.attached

/-- The catalog a connection's statements run on. -/
def catalogOf (e : Engine) (conn : Connection) : Catalog :=
  { dbs := e.databasesOf conn, settings := conn.settings, inTransaction := conn.inTransaction,
    deferredBroken := conn.deferredBroken, postponedBroken := conn.postponedBroken,
    written := conn.inTransaction && !conn.writes.isEmpty }

/-- Puts a connection's databases back in place. -/
def restore (e : Engine) (c : Nat) (conn : Connection) (dbs : Databases) : Engine :=
  let main := ((dbs.find? (·.1 == "main")).map (·.2)).getD (e.database conn.home)
  let temp := ((dbs.find? (·.1 == "temp")).map (·.2)).getD conn.temp
  let attached := dbs.filter fun (n, _) => n != "main" && n != "temp"
  (e.setDatabase conn.home main).setConnection c { conn with temp := temp, attached := attached }

/-- The name by which a path shares its database, if it does: the part between `file:` and
the query. -/
def sharedName? (path : String) : Option String :=
  if isSharedPath path then some (((path.drop 5).copy.splitOn "?").headD "") else none

/-- Opens a connection on the database a path names: the shared database of that name if
there is one, else a new empty database. -/
def connect (e : Engine) (path : String) : Engine × Nat :=
  let fresh := e.nextId
  let (e, home) :=
    match sharedName? path with
    | some name =>
      match e.sharedNames.find? (fun (entry : String × Nat) => entry.1 == name) with
      | some (_, id) => (e, id)
      | none =>
        let names := (name, fresh) :: e.sharedNames
        let dbs := (fresh, Database.empty) :: e.databases
        ({ e with sharedNames := names, databases := dbs }, fresh)
    | none => ({ e with databases := (fresh, Database.empty) :: e.databases }, fresh)
  let id := fresh + 1
  ({ e with connections := e.connections ++ [(id, Connection.fresh home)], nextId := id + 1 }, id)

/-- Databases put back by a rollback: when the schema of any of them changed since, every
schema is read again. -/
def rereadIfChanged (now back : Databases) : Databases :=
  let changed := back.any fun (n, db) =>
    (now.find? (·.1 == n)).any fun (_, d) => d.schemaVersion != db.schemaVersion
  if changed then back.map fun (n, db) => (n, db.reread) else back

/-- Undoes a connection's open transaction and ends it. -/
def abandon (e : Engine) (c : Nat) : Engine :=
  match e.connection? c with
  | some conn =>
    match conn.snapshot with
    | some dbs =>
      let dbs := rereadIfChanged (e.databasesOf conn) dbs
      let e := if conn.writes.isEmpty then e.restore c conn (dbs.filter (·.1 != "main")) else e.restore c conn dbs
      match e.connection? c with
      | some conn => e.setConnection c conn.release
      | none => e
    | none => e
  | none => e

/-- Closes a connection, undoing its open transaction. -/
def close (e : Engine) (c : Nat) : Engine :=
  let e := e.abandon c
  { e with connections := e.connections.filter (·.1 != c) }

/-- The failure when a table is locked by another connection. -/
def tableLocked (name : String) : Failure := .coded .lockedSharedCache ("database table is locked: " ++ name)

/-- Checks what a statement reads and writes against the locks other connections'
transactions hold on the same main database. -/
def checkLocks (e : Engine) (c : Nat) (conn : Connection) (reads writes : List String) : Outcome Unit := do
  let others := (e.connections.filter fun (i, x) => i != c && x.home == conn.home && x.inTransaction).map (·.2)
  if !writes.isEmpty && others.any (!·.writes.isEmpty) then
    throw (.coded .lockedSharedCache "database table is locked")
  for t in reads do
    if others.any (·.writes.contains (foldName t)) then throw (tableLocked t)
  for t in writes do
    if others.any (·.reads.contains (foldName t)) then throw (tableLocked t)

/-- The text an `attach` or `detach` names: a string, or a bare or quoted name. -/
def nameText : Term → Option String
  | .literal (.text s) => some s
  | .column none name _ _ => some name
  | _ => none

/-- Opens, commits or rolls back a transaction, or sets, releases or goes back to a
savepoint. -/
def control (e : Engine) (c : Nat) (conn : Connection) : Command → Outcome Engine
  | .begin =>
    if conn.inTransaction then throw (.general "cannot start a transaction within a transaction")
    else pure (e.setConnection c { conn with snapshot := some (e.databasesOf conn) })
  | .commit =>
    if conn.inTransaction then do
      conn.checkHeld
      pure (e.setConnection c conn.release)
    else throw (.general "cannot commit - no transaction is active")
  | .rollback =>
    if conn.inTransaction then pure (e.abandon c)
    else throw (.general "cannot rollback - no transaction is active")
  | .savepoint name =>
    let now := e.databasesOf conn
    let conn := if conn.inTransaction then conn
      else { conn with snapshot := some now, bySavepoint := true }
    let mark : Savepoint := ⟨name, now, conn.deferredBroken, conn.postponedBroken⟩
    pure (e.setConnection c { conn with savepoints := mark :: conn.savepoints })
  | .release name =>
    match conn.savepoints.findIdx? (fun sp => sameName sp.name name) with
    | none => throw (.general ("no such savepoint: " ++ name))
    | some k =>
      let rest := conn.savepoints.drop (k + 1)
      if rest.isEmpty && conn.bySavepoint then do
        conn.checkHeld
        pure (e.setConnection c conn.release)
      else pure (e.setConnection c { conn with savepoints := rest })
  | .rollbackTo name =>
    match conn.savepoints.findIdx? (fun sp => sameName sp.name name) with
    | none => throw (.general ("no such savepoint: " ++ name))
    | some k =>
      let kept := conn.savepoints.drop k
      match kept.head? with
      | some sp =>
        let conn := { conn with savepoints := kept, deferredBroken := sp.deferredBroken,
                                postponedBroken := sp.postponedBroken }
        pure (e.restore c conn (rereadIfChanged (e.databasesOf conn) sp.dbs))
      | none => pure e
  | .attach file schemaName =>
    match nameText file, nameText schemaName with
    | some _, some name =>
      if conn.inTransaction then throw (.general "cannot ATTACH database within transaction")
      else if (e.databasesOf conn).any (fun (n, _) => sameName n name) then
        throw (.general ("database " ++ name ++ " is already in use"))
      else pure (e.setConnection c { conn with attached := conn.attached ++ [(name, Database.empty)] })
    | _, _ => throw (.general "unable to open database")
  | .detach schemaName =>
    match nameText schemaName with
    | some name =>
      if sameName name "main" || sameName name "temp" then
        throw (.general ("cannot detach database " ++ name))
      else if conn.attached.any (fun (n, _) => sameName n name) then
        if conn.inTransaction then throw (.general ("database " ++ name ++ " is locked"))
        else pure (e.setConnection c { conn with attached := conn.attached.filter fun (n, _) => !sameName n name })
      else throw (.general ("no such database: " ++ name))
    | none => throw (.general "no such database: ")
  | .vacuum schema into => do
    if conn.inTransaction then throw (.general "cannot VACUUM from within a transaction")
    match into with
    | some (.literal (.text _)) | none => pure ()
    | some (.literal _) => throw (.general "non-text filename")
    | some _ => pure ()
    let name := schema.getD "main"
    if into.isSome || sameName name "temp" then pure e
    else
      let dbs := (e.databasesOf conn).map fun (n, db) => if sameName n name then (n, db.vacuum) else (n, db)
      pure (e.restore c conn dbs)
  | _ => pure e

/-- Binds parameter values: exactly as many as the statement takes. -/
def bindParameters (needed : Nat) (params : List Datum) : Outcome (Array Datum) :=
  if params.length == needed then pure params.toArray
  else throw (.parameterCount (min params.length (needed + 1)) needed)

/-- Whether a statement controls transactions or attached databases rather than running on
them. -/
def isControl : Command → Bool
  | .begin | .commit | .rollback | .savepoint _ | .release _ | .rollbackTo _ | .attach _ _ | .detach _
  | .vacuum _ _ => true
  | _ => false

/-- Keeps what a statement did: its databases, the connection's counts, and the tables its
transaction touched. A failure that undoes the whole transaction rolls it back. -/
def settle (e : Engine) (c : Nat) (conn : Connection) (ran : Ran) (reads writes : List String)
    (readsDatabase : Bool) : Engine :=
  let conn := match ran.changes with
    | some n => { conn with changes := n }
    | none => conn
  let conn := { conn with total := conn.total + ran.total, lastRowid := ran.lastRowid.getD conn.lastRowid }
  let wrote := ran.failure.isNone || (ran.failure.map (·.2 == .fail)).getD false
  let conn := if conn.inTransaction then
      { conn with reads := conn.reads ++ reads.map foldName,
                  writes := conn.writes ++ (if wrote then writes.map foldName else []) }
    else conn
  let conn := { conn with settings := ran.catalog.settings, deferredBroken := ran.catalog.deferredBroken,
                          postponedBroken := ran.catalog.postponedBroken }
  -- a statement that reads a database outside a transaction commits as it ends
  let conn := if !conn.inTransaction && readsDatabase then
      { conn with deferredBroken := 0, postponedBroken := 0,
                  settings := conn.settings.set .deferForeignKeys false }
    else conn
  let e := e.restore c conn ran.catalog.dbs
  match ran.failure with
  | some (_, .rollback) =>
    if conn.inTransaction then e.abandon c else e
  | _ => e

/-- Runs the first statement of a text for a connection: what it answered, and its failure
if it failed. -/
def run (e : Engine) (c : Nat) (sql : String) (params : List Datum) : Outcome (Engine × Answer × Option Failure) := do
  let some conn := e.connection? c | throw (.coded .misuse "not an error")
  let cat := e.catalogOf conn
  let (p, needed) ← Statement.prepare cat sql
  let values ← bindParameters needed params
  match p with
  | .command .empty => throw (.coded .misuse "not an error")
  | .command cmd =>
    if isControl cmd then
      let e ← e.control c conn cmd
      return (e, .done, none)
    else pure ()
  | _ => pure ()
  let (reads, writes) := Statement.access p
  e.checkLocks c conn reads writes
  let ran := Statement.run p cat ⟨values, conn.callContext⟩ sql
  let e := e.settle c conn ran reads writes (Statement.readsDatabase p)
  pure (e, ran.answer, ran.failure.map (·.1))

/-- The engine after a connection has read a statement: each `pragma_` table the statement
names becomes a module of the connection, kept even when the statement then fails. -/
def noteModules (e : Engine) (c : Nat) (sql : String) : Engine :=
  match Command.parse sql, e.connection? c with
  | .ok (cmd, _), some conn =>
    let known := conn.settings.pragmaModules
    let added := (Pragma.namedTables cmd).foldl (fun acc nm =>
      if (known ++ acc).any (sameName nm) then acc else acc ++ [nm]) []
    if added.isEmpty then e
    else e.setConnection c { conn with settings := { conn.settings with pragmaModules := known ++ added } }
  | _, _ => e

/-- Runs a statement for its changes: the number of rows the connection's last insert,
update or delete changed. A statement that produces a row fails, though what it changed
stays. -/
def execute (e : Engine) (c : Nat) (sql : String) (params : List Datum) : Engine × Outcome Nat :=
  let e := e.noteModules c sql
  match e.run c sql params with
  | .error f => (e, .error f)
  | .ok (e', _, some f) => (e', .error f)
  | .ok (e', .rows _ rows, none) =>
    if rows.isEmpty then (e', .ok (((e'.connection? c).map (·.changes)).getD 0))
    else (e', .error .returnedRows)
  | .ok (e', .done, none) => (e', .ok (((e'.connection? c).map (·.changes)).getD 0))

/-- Runs a query: its column names and rows. -/
def query (e : Engine) (c : Nat) (sql : String) (params : List Datum) :
    Engine × Outcome (List String × Array (Array Datum)) :=
  let e := e.noteModules c sql
  match e.run c sql params with
  | .error f => (e, .error f)
  | .ok (e', _, some f) => (e', .error f)
  | .ok (e', .rows names rows, none) => (e', .ok (names, rows))
  | .ok (e', .done, none) => (e', .ok ([], #[]))

end Engine

end QueryDoc.Store
