import QueryDoc.Error

/-!
The statement model: database-agnostic descriptions of `select`, `insert`, `update` and
`delete` statements.

A select reads from a source (a table, a derived table or a common table expression),
projects fields, joins further sources, filters rows with a tree of conditions, groups,
sorts and combines with other selects through set operations. A condition (`Expression`)
compares a column with a value under a `Relation`, and says through its `Connective` how it
joins what precedes it. A value may itself be a select, for `In` and `Exists` conditions.

Each type carries its builders in its namespace: `Select.ofTable`, `Select.withField`,
`Expression.new`, and so on.
-/

namespace QueryDoc

/-- The comparison a condition performs. -/
inductive Relation where
  | equalTo
  | greaterThan
  | greaterThanOrEqualTo
  | lessThan
  | lessThanOrEqualTo
  | isIn
  | nullValue
  | trueValue
  | exists
  | startsWith
  | endsWith
  | contains
  deriving Repr, BEq, DecidableEq, Inhabited

/-- How a condition or a group joins what precedes it: by `and` or `or`, and negated or
not. -/
inductive Connective where
  | and
  | or
  | andNot
  | orNot
  deriving Repr, BEq, DecidableEq, Inhabited

namespace Connective

/-- Whether the condition is negated. -/
def isNegated : Connective → Bool
  | .andNot | .orNot => true
  | _ => false

/-- Whether the condition joins by `or`. -/
def isOr : Connective → Bool
  | .or | .orNot => true
  | _ => false

/-- The `and` connective with the same negation. -/
def toAnd : Connective → Connective
  | .and | .or => .and
  | .andNot | .orNot => .andNot

/-- The name a document uses. -/
def name : Connective → String
  | .and => "And"
  | .or => "Or"
  | .andNot => "AndNot"
  | .orNot => "OrNot"

end Connective

/-- The name a document uses for a relation. -/
def Relation.name : Relation → String
  | .equalTo => "EqualTo"
  | .greaterThan => "GreaterThan"
  | .greaterThanOrEqualTo => "GreaterThanOrEqualTo"
  | .lessThan => "LessThan"
  | .lessThanOrEqualTo => "LessThanOrEqualTo"
  | .isIn => "In"
  | .nullValue => "NullValue"
  | .trueValue => "TrueValue"
  | .exists => "Exists"
  | .startsWith => "StartsWith"
  | .endsWith => "EndsWith"
  | .contains => "Contains"

/-- How a joined source is joined. -/
inductive JoinKind where
  | inner
  | left
  deriving Repr, BEq, DecidableEq, Inhabited

/-- How a combined select joins the one before it. -/
inductive SetOperation where
  | union
  | unionAll
  | intersect
  | except
  deriving Repr, BEq, DecidableEq, Inhabited

/-- A table, maybe aliased; a raw table is SQL text written as it is. -/
structure Table where
  name : String
  aliasName : Option String
  raw : Bool
  deriving Repr, BEq, Inhabited

/-- A projected column or, when raw, SQL text, maybe aliased. -/
structure Field where
  name : String
  aliasName : Option String
  raw : Bool
  deriving Repr, BEq, Inhabited

/-- A grouping column or, when raw, SQL text. -/
structure GroupBy where
  value : String
  raw : Bool
  deriving Repr, BEq, Inhabited

/-- A sort key. -/
structure SortKey where
  name : String
  ascending : Bool
  deriving Repr, BEq, Inhabited

mutual

/-- A value bound into a condition or an assignment. `integer` holds 64-bit signed
integers. -/
inductive Value where
  | null
  | bool (b : Bool)
  | integer (n : Int)
  | float (f : Float)
  | text (s : String)
  | list (items : List Value)
  | query (select : Select)

/-- A condition: `name relation value`, joined to what precedes it by `connective`. A raw
condition is SQL text whose `?` markers take the items of its list value in order. -/
structure Expression where
  name : String
  value : Value
  relation : Relation
  connective : Connective
  raw : Bool

/-- A group of conditions: its own conditions, then its subgroups, which join each other by
`connective`. -/
structure Filter where
  expressions : List Expression
  filters : List Filter
  connective : Connective

/-- A select under an alias, used as a source. -/
structure DerivedTable where
  select : Select
  aliasName : String

/-- The body of a common table expression. -/
inductive CteQuery where
  | select (s : Select)
  | rawSql (sql : String)

/-- A common table expression: a named query declared ahead of a statement. -/
structure Cte where
  aliasName : String
  query : CteQuery

/-- Where rows come from. -/
inductive Source where
  | table (t : Table)
  | derived (d : DerivedTable)
  | cte (c : Cte)

/-- A joined source: `on` names a column of one side in `name` and of the other in its text
value; further conditions join with `and`. -/
structure Join where
  target : Source
  on : Expression
  expressions : List Expression
  kind : JoinKind

/-- A select appended through a set operation. -/
structure Combine where
  select : Select
  operation : SetOperation

/-- A select statement. -/
structure Select where
  ctes : List Cte
  source : Option Source
  fields : List Field
  joins : List Join
  filter : Option Filter
  groupBys : List GroupBy
  having : Option Filter
  sorts : List SortKey
  combines : List Combine

end

deriving instance BEq for Value, Expression, Filter, DerivedTable, CteQuery, Cte, Source, Join,
  Combine, Select

/-- A column assignment of an insert or update. -/
structure FieldValue where
  name : String
  value : Value
  deriving BEq

/-- An insert of field values or of a query's rows (not both). -/
structure Insert where
  table : Table
  fields : List FieldValue
  query : Option Select
  deriving BEq

/-- An update of field values on the rows its conditions pick. -/
structure Update where
  table : Table
  fields : List FieldValue
  filters : List Expression
  deriving BEq

/-- A delete of the rows its conditions pick. -/
structure Delete where
  table : Table
  filters : List Expression
  deriving BEq

/-- The four kinds of statement. -/
inductive StatementType where
  | select
  | insert
  | update
  | delete
  deriving Repr, BEq, DecidableEq, Inhabited

/-- A statement of any kind. -/
inductive Statement where
  | select (s : Select)
  | insert (s : Insert)
  | update (s : Update)
  | delete (s : Delete)
  deriving BEq

namespace StatementType

/-- The tag a document carries. -/
def tag : StatementType → String
  | .select => "select"
  | .insert => "insert"
  | .update => "update"
  | .delete => "delete"

/-- Reads a tag. -/
def parse (tag : String) : Result StatementType :=
  if tag == "select" then .ok .select
  else if tag == "insert" then .ok .insert
  else if tag == "update" then .ok .update
  else if tag == "delete" then .ok .delete
  else invalid ("unknown statement type '" ++ tag ++ "'")

end StatementType

/-- The kind of a statement. -/
def Statement.type : Statement → StatementType
  | .select _ => .select
  | .insert _ => .insert
  | .update _ => .update
  | .delete _ => .delete

/-- Whether a statement changes rows. -/
def Statement.isWrite (s : Statement) : Bool := s.type != .select

/-! ### Builders -/

namespace Table

/-- A table by name. -/
def new (name : String) : Table := ⟨name, none, false⟩

/-- A table under an alias. -/
def aliased (name aliasName : String) : Table := ⟨name, some aliasName, false⟩

/-- The same table under an alias. -/
def withAlias (t : Table) (aliasName : String) : Table := { t with aliasName := some aliasName }

/-- The same table written as raw SQL. -/
def withRaw (t : Table) : Table := { t with raw := true }

end Table

namespace Field

/-- A column. -/
def new (name : String) : Field := ⟨name, none, false⟩

/-- A column under an alias. -/
def aliased (name aliasName : String) : Field := ⟨name, some aliasName, false⟩

/-- Raw SQL under an alias. -/
def rawAs (sql aliasName : String) : Field := ⟨sql, some aliasName, true⟩

/-- The same field under an alias. -/
def withAlias (f : Field) (aliasName : String) : Field := { f with aliasName := some aliasName }

/-- The same field as raw SQL. -/
def withRaw (f : Field) : Field := { f with raw := true }

/-- The name a result column gets: the alias if there is one, else the name. -/
def outputName (f : Field) : String := f.aliasName.getD f.name

end Field

/-- A grouping column. -/
def GroupBy.new (value : String) : GroupBy := ⟨value, false⟩

/-- A raw grouping expression. -/
def GroupBy.rawSql (value : String) : GroupBy := ⟨value, true⟩

/-- An ascending sort. -/
def SortKey.new (name : String) : SortKey := ⟨name, true⟩

/-- A descending sort. -/
def SortKey.descending (name : String) : SortKey := ⟨name, false⟩

/-- The same sort with the given direction. -/
def SortKey.withAscending (s : SortKey) (ascending : Bool) : SortKey := { s with ascending }

namespace Value

/-- Whether the value is null. -/
def isNull : Value → Bool
  | .null => true
  | _ => false

/-- The items of a list value. -/
def asList? : Value → Option (List Value)
  | .list xs => some xs
  | _ => none

end Value

/-- A select with nothing set: it reads `select *`. -/
def Select.empty : Select := ⟨[], none, [], [], none, [], none, [], []⟩

/-- An empty filter joining its subgroups by `and`. -/
def Filter.empty : Filter := ⟨[], [], .and⟩

namespace Expression

/-- An equality condition. -/
def new (name : String) (value : Value) : Expression := ⟨name, value, .equalTo, .and, false⟩

/-- A condition with nothing set. -/
def empty : Expression := new "" .null

/-- Raw SQL with no bindings. -/
def rawSql (sql : String) : Expression := ⟨sql, .list [], .equalTo, .and, true⟩

/-- Raw SQL whose `?` markers take `bindings` in order. -/
def rawWithBindings (sql : String) (bindings : List Value) : Expression :=
  ⟨sql, .list bindings, .equalTo, .and, true⟩

/-- `exists (select …)`. -/
def existsQuery (s : Select) : Expression := ⟨"", .query s, .exists, .and, false⟩

/-- `name in (select …)`. -/
def inQuery (name : String) (s : Select) : Expression := ⟨name, .query s, .isIn, .and, false⟩

/-- The same condition with another relation. -/
def withRelation (e : Expression) (r : Relation) : Expression := { e with relation := r }

/-- The same condition with another connective. -/
def withConnective (e : Expression) (c : Connective) : Expression := { e with connective := c }

/-- The same condition with another value. -/
def withValue (e : Expression) (v : Value) : Expression := { e with value := v }

/-- The same condition as raw SQL: an absent value becomes an empty binding list, and any
other value that is not a list is refused. -/
def withRaw (e : Expression) : Result Expression :=
  match e.value with
  | .null => .ok { e with value := .list [], raw := true }
  | .list _ => .ok { e with raw := true }
  | _ => invalid ("raw expression '" ++ e.name ++ "' needs a list of bindings as its value")

/-- The bindings of a raw condition: its list value, or none. -/
def bindings (e : Expression) : List Value := e.value.asList?.getD []

end Expression

namespace Filter

/-- The same filter with one more condition. -/
def withExpression (f : Filter) (e : Expression) : Filter :=
  { f with expressions := f.expressions ++ [e] }

/-- The same filter with one more raw condition. -/
def withRawExpression (f : Filter) (sql : String) : Filter := f.withExpression (.rawSql sql)

/-- The same filter with one more subgroup. -/
def withFilter (f : Filter) (g : Filter) : Filter := { f with filters := f.filters ++ [g] }

/-- The same filter joining its subgroups by `c`. -/
def withConnective (f : Filter) (c : Connective) : Filter := { f with connective := c }

/-- Adds a condition that may have failed its own checks. -/
def tryWithExpression (f : Filter) (e : Result Expression) : Result Filter :=
  e.map f.withExpression

/-- A filter with neither conditions nor subgroups. -/
def isEmpty (f : Filter) : Bool := f.expressions.isEmpty && f.filters.isEmpty

end Filter

namespace Cte

/-- A named select. -/
def ofSelect (s : Select) (aliasName : String) : Cte := ⟨aliasName, .select s⟩

/-- A named piece of raw SQL. -/
def ofRaw (sql aliasName : String) : Cte := ⟨aliasName, .rawSql sql⟩

/-- The select of the expression, if it is not raw SQL. -/
def select? (c : Cte) : Option Select :=
  match c.query with
  | .select s => some s
  | .rawSql _ => none

end Cte

namespace Join

/-- A join of a given kind. -/
def new (target : Source) (on : Expression) (kind : JoinKind) : Join := ⟨target, on, [], kind⟩

/-- An inner join. -/
def inner (target : Source) (on : Expression) : Join := new target on .inner

/-- A left join. -/
def left (target : Source) (on : Expression) : Join := new target on .left

/-- The same join with one more condition. -/
def withExpression (j : Join) (e : Expression) : Join := { j with expressions := j.expressions ++ [e] }

end Join

namespace Select

/-- A select from a table. -/
def ofTable (t : Table) : Select := { Select.empty with source := some (.table t) }

/-- A select from a derived table. -/
def ofDerived (d : DerivedTable) : Select := { Select.empty with source := some (.derived d) }

/-- A select from a common table expression; the expressions its own select declares are
copied onto the new select, in order. -/
def ofCte (c : Cte) : Select :=
  { Select.empty with ctes := (c.select?.map (·.ctes)).getD [], source := some (.cte c) }

/-- One more common table expression. -/
def withCte (s : Select) (c : Cte) : Select := { s with ctes := s.ctes ++ [c] }

/-- One more field. -/
def withField (s : Select) (f : Field) : Select := { s with fields := s.fields ++ [f] }

/-- One more join. -/
def withJoin (s : Select) (j : Join) : Select := { s with joins := s.joins ++ [j] }

/-- The row filter. -/
def withWhere (s : Select) (f : Filter) : Select := { s with filter := some f }

/-- One more grouping. -/
def withGroupBy (s : Select) (g : GroupBy) : Select := { s with groupBys := s.groupBys ++ [g] }

/-- The group filter. -/
def withHaving (s : Select) (f : Filter) : Select := { s with having := some f }

/-- One more sort. -/
def withSort (s : Select) (o : SortKey) : Select := { s with sorts := s.sorts ++ [o] }

/-- One more combined select. -/
def withCombine (s : Select) (c : Combine) : Select := { s with combines := s.combines ++ [c] }

/-- The source. -/
def withSource (s : Select) (src : Source) : Select := { s with source := some src }

/-- No fields: `select *`. -/
def clearFields (s : Select) : Select := { s with fields := [] }

/-- No sorts. -/
def clearSorts (s : Select) : Select := { s with sorts := [] }

/-- No joins. -/
def clearJoins (s : Select) : Select := { s with joins := [] }

end Select

/-- An insert into a table with nothing set. -/
def Insert.new (t : Table) : Insert := ⟨t, [], none⟩

/-- One more field value. -/
def Insert.withField (i : Insert) (f : FieldValue) : Insert := { i with fields := i.fields ++ [f] }

/-- The rows of a query. -/
def Insert.withQuery (i : Insert) (q : Select) : Insert := { i with query := some q }

/-- An update of a table with nothing set. -/
def Update.new (t : Table) : Update := ⟨t, [], []⟩

/-- One more assignment. -/
def Update.withField (u : Update) (f : FieldValue) : Update := { u with fields := u.fields ++ [f] }

/-- One more condition. -/
def Update.withFilter (u : Update) (e : Expression) : Update := { u with filters := u.filters ++ [e] }

/-- A delete from a table with no conditions. -/
def Delete.new (t : Table) : Delete := ⟨t, []⟩

/-- One more condition. -/
def Delete.withFilter (d : Delete) (e : Expression) : Delete := { d with filters := d.filters ++ [e] }

end QueryDoc
