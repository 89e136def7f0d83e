import QueryDoc.Store.Datum
import QueryDoc.Store.Failure

/-!
Statements as read from their text, before any name is looked up.

An expression (`Term`) keeps, for each name it mentions, the byte offset where the name was
written, so that a name that turns out not to exist can be pointed at. A name written in
double quotes is marked: where nothing by that name exists, it reads as a string.

A query is a chain of simple selects joined by `union`, `union all`, `intersect` and `except`,
with common tables before it and an ordering, a limit and an offset after it. A simple
select is either a projection over a source (tables, subqueries and their joins) with a
filter, a grouping, a group filter and named windows, or a list of value rows.

Besides queries, a statement may change rows (`insert`, `update`, `delete`, each maybe
returning rows), define or drop schema objects (tables, indexes, views, triggers), alter a
table, set or read a pragma, or control transactions and attached databases.
-/

namespace QueryDoc.Store

/-- How two sources are joined. -/
inductive JoinOp where
  | inner
  | left
  | right
  | full
  | cross
  deriving Repr, BEq, DecidableEq, Inhabited

/-- How two selects of a chain are combined. -/
inductive CompoundOp where
  | union
  | unionAll
  | intersect
  | except
  deriving Repr, BEq, DecidableEq, Inhabited

/-- The operator's name in failure texts. -/
def CompoundOp.name : CompoundOp → String
  | .union => "UNION"
  | .unionAll => "UNION ALL"
  | .intersect => "INTERSECT"
  | .except => "EXCEPT"

/-- Binary operators of expressions. -/
inductive BinaryOp where
  | add | sub | mul | div | rem | concat
  | eq | ne | lt | le | gt | ge
  | isSame | isNotSame
  | and | or
  | bitAnd | bitOr | shiftLeft | shiftRight
  deriving Repr, BEq, DecidableEq, Inhabited

/-- Whether an operator compares its operands. -/
def BinaryOp.isComparison (op : BinaryOp) : Bool :=
  op == .eq || op == .ne || op == .lt || op == .le || op == .gt || op == .ge ||
    op == .isSame || op == .isNotSame

/-- Unary operators of expressions. -/
inductive UnaryOp where
  | neg | plus | not | bitNot
  deriving Repr, BEq, DecidableEq, Inhabited

/-- What a window frame counts: rows, values of the ordering, or groups of equal ordering. -/
inductive FrameUnit where
  | rows
  | range
  | groups
  deriving Repr, BEq, DecidableEq, Inhabited

/-- Which rows a window frame leaves out. -/
inductive FrameExclude where
  | noOthers
  | currentRow
  | group
  | ties
  deriving Repr, BEq, DecidableEq, Inhabited

mutual

/-- An expression as written. -/
inductive Term where
  | literal (d : Datum)
  /-- A bound parameter, numbered from 1. -/
  | param (index : Nat)
  /-- A name, maybe qualified by a table; `doubleQuoted` when written in double quotes. -/
  | column (table : Option String) (name : String) (doubleQuoted : Bool) (offset : Nat)
  | unary (op : UnaryOp) (t : Term)
  | binary (op : BinaryOp) (l r : Term)
  | isNull (t : Term) (negated : Bool)
  | between (t lo hi : Term) (negated : Bool)
  | inList (t : Term) (items : List Term) (negated : Bool)
  | inQuery (t : Term) (q : Query) (negated : Bool)
  | exists (q : Query)
  | scalar (q : Query)
  | like (t pattern : Term) (escape : Option Term) (negated : Bool)
  /-- A function call; `star` for `f(*)`, with the order an aggregate takes its rows in, the
  rows it keeps (`filter`) and the window it runs over. -/
  | call (name : String) (args : List Term) (distinct : Bool) (star : Bool) (offset : Nat)
      (order : List OrderTerm) (filter : Option Term) (window : Option WindowSpec)
  | cast (t : Term) (type : String)
  | caseOf (operand : Option Term) (branches : List (Term × Term)) (otherwise : Option Term)
  | collate (t : Term) (collation : String)
  /-- Several values in parentheses, compared position by position. -/
  | rowValue (items : List Term)
  /-- `raise(…)`, which only a trigger may use. -/
  | raise (action : RaiseAction) (message : Option Term) (offset : Nat)
  /-- `current_date`, `current_time` or `current_timestamp`. -/
  | currentTime (kind : String)

/-- Where a window frame starts or ends. -/
inductive FrameBound where
  | unboundedPreceding
  | preceding (t : Term)
  | currentRow
  | following (t : Term)
  | unboundedFollowing

/-- A window frame: what it counts, its two ends and what it leaves out. -/
inductive FrameSpec where
  | mk (unit : FrameUnit) (start finish : FrameBound) (exclude : FrameExclude)

/-- A window: the named window it refines, its partitions, its ordering and its frame. -/
inductive WindowSpec where
  | mk (base : Option String) (partition : List Term) (order : List OrderTerm) (frame : Option FrameSpec)

/-- One item of a select's column list. -/
inductive ResultColumn where
  /-- `*`: every column of every source. -/
  | all
  /-- `t.*`: every column of one source. -/
  | allOf (table : String) (offset : Nat)
  /-- An expression, with its alias and its text as written. -/
  | term (t : Term) (aliasName : Option String) (span : String)

/-- What a select reads from. -/
inductive Source where
  /-- A table, view or common table, maybe in a named schema, maybe called with arguments;
  `indexed` is `some none` for `not indexed` and `some (some i)` for `indexed by i`. -/
  | table (schema : Option String) (name : String) (aliasName : Option String)
      (args : Option (List Term)) (indexed : Option (Option String)) (offset : Nat)
  | query (q : Query) (aliasName : Option String)
  | join (left : Source) (op : JoinOp) (natural : Bool) (right : Source) (on : Option Term)
      (usingColumns : List String)

/-- A simple select. -/
inductive Core where
  | select (distinct : Bool) (columns : List ResultColumn) (source : Option Source)
      (filter : Option Term) (groupBy : List Term) (having : Option Term)
      (windows : List (String × WindowSpec))
  | values (rows : List (List Term))

/-- A common table: a name, maybe its column names, and its query. -/
inductive CommonTable where
  | mk (name : String) (columns : List String) (q : Query)

/-- One term of an ordering: the expression, whether it is descending, and where nulls go
when that is said (`some true` for first). -/
inductive OrderTerm where
  | mk (t : Term) (descending : Bool) (nullsFirst : Option Bool)

/-- A full query. -/
inductive Query where
  | mk (recursive : Bool) (ctes : List CommonTable) (first : Core) (rest : List (CompoundOp × Core))
      (orderBy : List OrderTerm) (limit : Option Term) (offset : Option Term)

end

/-- What an insert or update does with a row that breaks a NOT NULL, CHECK, primary key or
UNIQUE constraint: undo the statement (`abort`, the default), keep what the statement did
before the row and stop (`fail`), undo the whole transaction (`rollback`), skip the row
(`ignore`), or make room for it (`replace`: a missing value takes the column's default, and
the rows it collides with are deleted). -/
inductive OnConflict where
  | abort
  | fail
  | rollback
  | ignore
  | replace
  deriving Repr, BEq, Inhabited

/-- What a foreign key does to child rows when their parent row changes or goes. -/
inductive ForeignAction where
  | noAction
  | restrict
  | setNull
  | setDefault
  | cascade
  deriving Repr, BEq, Inhabited

/-- A foreign key: the parent table, its columns (the primary key when none are named), and
what happens on a delete or an update of the parent. -/
structure ForeignKey where
  parent : String
  parentColumns : List String
  onDelete : ForeignAction := .noAction
  onUpdate : ForeignAction := .noAction
  deferred : Bool := false
  deriving Inhabited

/-- A column of an index or key: a name or an expression, its collation and direction. -/
structure IndexedColumn where
  term : Term
  collation : Option String
  descending : Bool

/-- A column of a table definition. -/
structure ColumnDef where
  name : String
  declaredType : Option String
  notNull : Bool
  primaryKey : Bool
  unique : Bool
  defaultValue : Option Term
  /-- The default as written, for the schema's description of the column. -/
  defaultText : Option String := none
  collation : Option String := none
  /-- Check constraints, each with its name when given, else its text as written. -/
  checks : List (Option String × Term) := []
  /-- A generated column's expression, and whether it is stored. -/
  generated : Option (Term × Bool) := none
  autoincrement : Bool := false
  /-- A primary key declared descending. -/
  descending : Bool := false
  references : Option ForeignKey := none
  /-- The conflict clauses of its NOT NULL, PRIMARY KEY and UNIQUE constraints. -/
  notNullConflict : Option OnConflict := none
  keyConflict : Option OnConflict := none
  uniqueConflict : Option OnConflict := none
  /-- The name given to its first constraint, if any. -/
  constraintName : Option String := none
  /-- Where the name was written, for failures. -/
  offset : Nat := 0
  deriving Inhabited

/-- A constraint over several columns of a table definition. -/
inductive TableConstraint where
  | primaryKey (columns : List IndexedColumn) (autoincrement : Bool) (conflict : Option OnConflict)
  | unique (columns : List IndexedColumn) (conflict : Option OnConflict)
  /-- A check, with its name when given, else its text as written. -/
  | check (name : Option String) (t : Term)
  | foreignKey (columns : List String) (ref : ForeignKey)

/-- The options after a table definition. -/
structure TableOptions where
  withoutRowid : Bool := false
  strict : Bool := false

/-- What a new table is made of: column definitions, or the result of a query. -/
inductive TableBody where
  | columns (cols : List ColumnDef) (constraints : List TableConstraint) (options : TableOptions)
  | query (q : Query)

/-- Where the rows of an insert come from. -/
inductive InsertRows where
  | values (rows : List (List Term))
  | query (q : Query)
  | defaults

/-- What an upsert does with a row whose key is taken: nothing, or an update of the row that
holds the key. -/
inductive UpsertAction where
  | nothing
  | update (assignments : List (List String × Term)) (filter : Option Term)

/-- One `on conflict` clause of an insert: the key it is for (any key when none is named),
with the key's own filter, and what it does. -/
structure UpsertClause where
  target : Option (List IndexedColumn × Option Term)
  action : UpsertAction

/-- When a trigger fires relative to its statement. -/
inductive TriggerTiming where
  | before
  | after
  | insteadOf
  deriving Repr, BEq, Inhabited

/-- The change a trigger fires on; an update may name the columns it watches. -/
inductive TriggerEvent where
  | insert
  | delete
  | update (columns : List String)
  deriving Repr, BEq, Inhabited

/-- The kinds of schema objects. -/
inductive ObjectKind where
  | table
  | index
  | view
  | trigger
  deriving Repr, BEq, DecidableEq, Inhabited

/-- The name of a kind of schema object, as the schema table writes it. -/
def ObjectKind.name : ObjectKind → String
  | .table => "table"
  | .index => "index"
  | .view => "view"
  | .trigger => "trigger"

/-- How a pragma is given a value: `pragma p = v` or `pragma p(v)`, with the value as text: a
number as written (with its minus sign), a name or a string without its quotes. -/
inductive PragmaValue where
  | assign (text : String)
  | call (text : String)

/-- The text of a pragma's value. -/
def PragmaValue.text : PragmaValue → String
  | .assign t => t
  | .call t => t

/-- A change to a table's definition. -/
inductive AlterAction where
  | renameTable (newName : String)
  /-- `quotedNew` when the new name is written quoted. -/
  | renameColumn (old new : String) (quotedNew : Bool)
  /-- A new column, with its definition as written. -/
  | addColumn (c : ColumnDef) (text : String)
  | dropColumn (name : String)

/-- A statement as written. -/
inductive Command where
  | query (q : Query)
  /-- `text` is the definition from the name on, as the schema table keeps it. -/
  | createTable (temp : Bool) (ifNotExists : Bool) (schema : Option String) (name : String)
      (body : TableBody) (text : String)
  | createVirtualTable (ifNotExists : Bool) (schema : Option String) (name : String)
      (module : String) (text : String)
  | createIndex (unique : Bool) (ifNotExists : Bool) (schema : Option String) (name : String)
      (table : String) (columns : List IndexedColumn) (filter : Option Term) (text : String)
  | createView (temp : Bool) (ifNotExists : Bool) (schema : Option String) (name : String)
      (columns : List String) (q : Query) (text : String)
  | createTrigger (temp : Bool) (ifNotExists : Bool) (schema : Option String) (name : String)
      (timing : TriggerTiming) (event : TriggerEvent) (table : String) (whenCond : Option Term)
      (body : List Command) (text : String)
  | drop (kind : ObjectKind) (ifExists : Bool) (schema : Option String) (name : String)
  | alterTable (schema : Option String) (table : String) (action : AlterAction)
  | insert (recursive : Bool) (ctes : List CommonTable) (onConflict : Option OnConflict)
      (schema : Option String) (table : String) (aliasName : Option String)
      (columns : Option (List String)) (rows : InsertRows) (upserts : List UpsertClause)
      (returning : List ResultColumn)
  | update (recursive : Bool) (ctes : List CommonTable) (onConflict : Option OnConflict)
      (schema : Option String) (table : String) (aliasName : Option String)
      (assignments : List (List String × Term)) (source : Option Source) (filter : Option Term)
      (returning : List ResultColumn)
  | delete (recursive : Bool) (ctes : List CommonTable) (schema : Option String) (table : String)
      (aliasName : Option String) (filter : Option Term) (returning : List ResultColumn)
  | pragma (schema : Option String) (name : String) (value : Option PragmaValue)
  | begin
  | commit
  | rollback
  | savepoint (name : String)
  | release (name : String)
  | rollbackTo (name : String)
  | attach (file : Term) (schemaName : Term)
  | detach (schemaName : Term)
  /-- `analyze`, of every database but the temporary one, of one database, or of a table or
  an index. -/
  | analyze (target : Option (Option String × String))
  /-- `vacuum` of `main` or of a named database, maybe into another file. -/
  | vacuum (schema : Option String) (into : Option Term)
  /-- `reindex` of everything, or of what a name names: a collation, a table or an index. -/
  | reindex (target : Option (Option String × String))
  /-- `explain` of a statement, or `explain query plan` (`queryPlan`): the statement is
  prepared, never run. -/
  | explain (queryPlan : Bool) (c : Command)
  /-- A text with no statement in it. -/
  | empty

end QueryDoc.Store
