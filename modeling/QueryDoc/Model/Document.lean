import QueryDoc.Model.Basic
import QueryDoc.Json.Decode
import QueryDoc.Json.Reader

/-!
Statements as JSON documents.

A document is a statement's fields plus a `statementType` tag. Writing puts the tag first
and then the fields in declaration order, leaving out empty lists, absent options, a `false`
raw flag, an empty condition name and a `null` value; relations, connectives, join kinds and
sort directions are always written. Reading drops the tag and reads the rest as the tagged
kind of statement; unknown keys are ignored.

A value is written as plain JSON: `null`, a boolean, an integer, a double, a string, an array
of values, or a select object. Reading tries these shapes in that order and takes the first
that fits, so any object whose known keys read as a select is a select, and so is an array
that is no list of values but reads as a select's fields in order.

Writing goes in two steps, as serde's do: the parts are written in serde's data model, where a
double stays a double, and serde_json's value writer then stores every double that is NaN or
infinite as `null` (`Json.storeFloats`). Such a value reads back as `null`.
-/

namespace QueryDoc

open Json

/-! ### Writing -/

/-- A member when `keep` holds. -/
def memberIf (keep : Bool) (key : String) (v : Json) : List (String × Json) :=
  if keep then [(key, v)] else []

/-- The document name of a join kind. -/
def JoinKind.name : JoinKind → String
  | .inner => "Inner"
  | .left => "Left"

/-- The document name of a set operation. -/
def SetOperation.name : SetOperation → String
  | .union => "Union"
  | .unionAll => "UnionAll"
  | .intersect => "Intersect"
  | .except => "Except"

/-- A table as a document. -/
def Table.toJson (t : Table) : Json :=
  .obj ([("name", .str t.name)] ++ (match t.aliasName with | some a => [("alias", .str a)] | none => []) ++
    memberIf t.raw "raw" (.bool true))

/-- A field as a document. -/
def Field.toJson (f : Field) : Json :=
  .obj ([("name", .str f.name)] ++ (match f.aliasName with | some a => [("alias", .str a)] | none => []) ++
    memberIf f.raw "raw" (.bool true))

/-- A grouping as a document. -/
def GroupBy.toJson (g : GroupBy) : Json :=
  .obj ([("value", .str g.value)] ++ memberIf g.raw "raw" (.bool true))

/-- A sort key as a document. -/
def SortKey.toJson (s : SortKey) : Json :=
  .obj [("name", .str s.name), ("ascending", .bool s.ascending)]

mutual

/-- A value in serde's data model; `Json.storeFloats` then stores a NaN or infinite double as
`null`. -/
def Value.toJson : Value → Json
  | .null => .null
  | .bool b => .bool b
  | .integer n => .int n
  | .float f => .float f
  | .text s => .str s
  | .list xs => .arr (Value.listToJson xs)
  | .query s => Select.toJson s

/-- Values as plain JSON. -/
def Value.listToJson : List Value → List Json
  | [] => []
  | v :: vs => Value.toJson v :: Value.listToJson vs

/-- A condition as a document. -/
def Expression.toJson : Expression → Json
  | ⟨name, value, relation, connective, raw⟩ =>
    .obj (memberIf (!name.isEmpty) "name" (.str name) ++
      memberIf (!value.isNull) "value" (Value.toJson value) ++
      [("relation", .str relation.name), ("logicalRelation", .str connective.name)] ++
      memberIf raw "raw" (.bool true))

/-- Conditions as documents. -/
def Expression.listToJson : List Expression → List Json
  | [] => []
  | e :: es => Expression.toJson e :: Expression.listToJson es

/-- A filter as a document. -/
def Filter.toJson : Filter → Json
  | ⟨expressions, filters, connective⟩ =>
    .obj (memberIf (!expressions.isEmpty) "expressions" (.arr (Expression.listToJson expressions)) ++
      memberIf (!filters.isEmpty) "filters" (.arr (Filter.listToJson filters)) ++
      [("logicalRelation", .str connective.name)])

/-- Filters as documents. -/
def Filter.listToJson : List Filter → List Json
  | [] => []
  | f :: fs => Filter.toJson f :: Filter.listToJson fs

/-- A common table expression as a document. -/
def Cte.toJson : Cte → Json
  | ⟨aliasName, .select s⟩ => .obj [("alias", .str aliasName), ("query", .obj [("select", Select.toJson s)])]
  | ⟨aliasName, .rawSql sql⟩ => .obj [("alias", .str aliasName), ("query", .obj [("rawSql", .str sql)])]

/-- Common table expressions as documents. -/
def Cte.listToJson : List Cte → List Json
  | [] => []
  | c :: cs => Cte.toJson c :: Cte.listToJson cs

/-- A source as a document with one key naming its kind. -/
def Source.toJson : Source → Json
  | .table t => .obj [("table", t.toJson)]
  | .derived ⟨s, aliasName⟩ => .obj [("derived", .obj [("select", Select.toJson s), ("alias", .str aliasName)])]
  | .cte c => .obj [("cte", Cte.toJson c)]

/-- A join as a document. -/
def Join.toJson : Join → Json
  | ⟨target, on, expressions, kind⟩ =>
    .obj ([("target", Source.toJson target), ("on", Expression.toJson on)] ++
      memberIf (!expressions.isEmpty) "expressions" (.arr (Expression.listToJson expressions)) ++
      [("joinType", .str kind.name)])

/-- Joins as documents. -/
def Join.listToJson : List Join → List Json
  | [] => []
  | j :: js => Join.toJson j :: Join.listToJson js

/-- Combined selects as documents. -/
def Combine.listToJson : List Combine → List Json
  | [] => []
  | ⟨s, op⟩ :: cs => .obj [("select", Select.toJson s), ("operation", .str op.name)] :: Combine.listToJson cs

/-- An optional source as a member. -/
def Source.optMember : Option Source → List (String × Json)
  | none => []
  | some s => [("from", Source.toJson s)]

/-- An optional filter as a member. -/
def Filter.optMember (key : String) : Option Filter → List (String × Json)
  | none => []
  | some f => [(key, Filter.toJson f)]

/-- A select as a document, without a tag. -/
def Select.toJson : Select → Json
  | ⟨ctes, source, fields, joins, filter, groupBys, having, sorts, combines⟩ =>
    .obj (memberIf (!ctes.isEmpty) "ctes" (.arr (Cte.listToJson ctes)) ++
      Source.optMember source ++
      memberIf (!fields.isEmpty) "fields" (.arr (fields.map Field.toJson)) ++
      memberIf (!joins.isEmpty) "joins" (.arr (Join.listToJson joins)) ++
      Filter.optMember "where" filter ++
      memberIf (!groupBys.isEmpty) "groupBys" (.arr (groupBys.map GroupBy.toJson)) ++
      Filter.optMember "having" having ++
      memberIf (!sorts.isEmpty) "sorts" (.arr (sorts.map SortKey.toJson)) ++
      memberIf (!combines.isEmpty) "combines" (.arr (Combine.listToJson combines)))

end

/-- An assignment as a document. -/
def FieldValue.toJson (f : FieldValue) : Json :=
  .obj ([("name", .str f.name)] ++ memberIf (!f.value.isNull) "value" f.value.toJson)

/-- The members of an insert. -/
def Insert.members (i : Insert) : List (String × Json) :=
  [("table", i.table.toJson)] ++
    memberIf (!i.fields.isEmpty) "fields" (.arr (i.fields.map FieldValue.toJson)) ++
    (match i.query with | some q => [("query", q.toJson)] | none => [])

/-- The members of an update. -/
def Update.members (u : Update) : List (String × Json) :=
  [("table", u.table.toJson)] ++
    memberIf (!u.fields.isEmpty) "fields" (.arr (u.fields.map FieldValue.toJson)) ++
    memberIf (!u.filters.isEmpty) "filters" (.arr (Expression.listToJson u.filters))

/-- The members of a delete. -/
def Delete.members (d : Delete) : List (String × Json) :=
  [("table", d.table.toJson)] ++
    memberIf (!d.filters.isEmpty) "filters" (.arr (Expression.listToJson d.filters))

/-- The members of a statement, without its tag. -/
def Statement.members : Statement → List (String × Json)
  | .select s => match s.toJson with
    | .obj ms => ms
    | _ => []
  | .insert i => i.members
  | .update u => u.members
  | .delete d => d.members

/-- A statement as a tagged document in serde's data model. -/
def Statement.document (s : Statement) : Json :=
  .obj (("statementType", .str s.type.tag) :: s.members)

/-- A statement as a tagged document, as serde_json's value writer stores it. -/
def Statement.encode (s : Statement) : Json := s.document.storeFloats

/-- A statement as compact document text. -/
def Statement.toJsonText (s : Statement) : String := render s.encode

/-! ### Reading -/

/-- Relations by document name. -/
def Relation.byName : List (String × Relation) :=
  [("EqualTo", .equalTo), ("GreaterThan", .greaterThan),
   ("GreaterThanOrEqualTo", .greaterThanOrEqualTo), ("LessThan", .lessThan),
   ("LessThanOrEqualTo", .lessThanOrEqualTo), ("In", .isIn), ("NullValue", .nullValue),
   ("TrueValue", .trueValue), ("Exists", .exists), ("StartsWith", .startsWith),
   ("EndsWith", .endsWith), ("Contains", .contains)]

/-- Connectives by document name. -/
def Connective.byName : List (String × Connective) :=
  [("And", .and), ("Or", .or), ("AndNot", .andNot), ("OrNot", .orNot)]

/-- Join kinds by document name. -/
def JoinKind.byName : List (String × JoinKind) := [("Inner", .inner), ("Left", .left)]

/-- Set operations by document name. -/
def SetOperation.byName : List (String × SetOperation) :=
  [("Union", .union), ("UnionAll", .unionAll), ("Intersect", .intersect), ("Except", .except)]

/-- A table. -/
def Table.decode : Decoder Table
  | .obj ms => do
    let name := (member? ms "name").map decodeString
    let aliasName := (member? ms "alias").map (decodeOption decodeString)
    let raw := (member? ms "raw").map decodeBool
    firstFailure ms [("name", failureOf name), ("alias", failureOf aliasName), ("raw", failureOf raw)]
    return ⟨← required "name" name, ← orDefault none aliasName, ← orDefault false raw⟩
  | .arr xs => do
    let name ← itemRequired xs 0 (recordExpecting "Table" 3) decodeString
    let aliasName ← itemOrDefault xs 1 none (decodeOption decodeString)
    let raw ← itemOrDefault xs 2 false decodeBool
    itemsEnd xs 3
    return ⟨name, aliasName, raw⟩
  | j => .error (.invalidType (.of j) "struct Table")

/-- A field. -/
def Field.decode : Decoder Field
  | .obj ms => do
    let name := (member? ms "name").map decodeString
    let aliasName := (member? ms "alias").map (decodeOption decodeString)
    let raw := (member? ms "raw").map decodeBool
    firstFailure ms [("name", failureOf name), ("alias", failureOf aliasName), ("raw", failureOf raw)]
    return ⟨← required "name" name, ← orDefault none aliasName, ← orDefault false raw⟩
  | .arr xs => do
    let name ← itemRequired xs 0 (recordExpecting "Field" 3) decodeString
    let aliasName ← itemOrDefault xs 1 none (decodeOption decodeString)
    let raw ← itemOrDefault xs 2 false decodeBool
    itemsEnd xs 3
    return ⟨name, aliasName, raw⟩
  | j => .error (.invalidType (.of j) "struct Field")

/-- A grouping. -/
def GroupBy.decode : Decoder GroupBy
  | .obj ms => do
    let value := (member? ms "value").map decodeString
    let raw := (member? ms "raw").map decodeBool
    firstFailure ms [("value", failureOf value), ("raw", failureOf raw)]
    return ⟨← required "value" value, ← orDefault false raw⟩
  | .arr xs => do
    let value ← itemRequired xs 0 (recordExpecting "GroupBy" 2) decodeString
    let raw ← itemOrDefault xs 1 false decodeBool
    itemsEnd xs 2
    return ⟨value, raw⟩
  | j => .error (.invalidType (.of j) "struct GroupBy")

/-- A sort key; the direction defaults to ascending. -/
def SortKey.decode : Decoder SortKey
  | .obj ms => do
    let name := (member? ms "name").map decodeString
    let ascending := (member? ms "ascending").map decodeBool
    firstFailure ms [("name", failureOf name), ("ascending", failureOf ascending)]
    return ⟨← required "name" name, ← orDefault true ascending⟩
  | .arr xs => do
    let name ← itemRequired xs 0 (recordExpecting "Sort" 2) decodeString
    let ascending ← itemOrDefault xs 1 true decodeBool
    itemsEnd xs 2
    return ⟨name, ascending⟩
  | j => .error (.invalidType (.of j) "struct Sort")

/-- An integer read from a document as a value: in the signed 64-bit range it stays an
integer, above it becomes the nearest double. -/
def Value.ofJsonInt (i : Int) : Value :=
  if i < Int.pow 2 63 then .integer i else .float (UInt64.ofNat i.toNat).toFloat

mutual

/-- A value: the first shape that fits, in the order null, boolean, integer, double, string,
list of values, select (an object, or an array of the select's fields in order). -/
def Value.decode : Nat → Decoder Value
  | 0, _ => .error .tooDeep
  | n + 1, j =>
    match j with
    | .null => .ok .null
    | .bool b => .ok (.bool b)
    | .int i => .ok (Value.ofJsonInt i)
    | .float f => .ok (.float f)
    | .str s => .ok (.text s)
    | .arr xs => match xs.mapM (Value.decode n) with
      | .ok vs => .ok (.list vs)
      | .error _ => match Select.decode n (.arr xs) with
        | .ok s => .ok (.query s)
        | .error _ => .error (.noVariantMatched "Value")
    | .obj ms => match Select.decode n (.obj ms) with
      | .ok s => .ok (.query s)
      | .error _ => .error (.noVariantMatched "Value")

/-- A condition; every field has a default. -/
def Expression.decode : Nat → Decoder Expression
  | 0, _ => .error .tooDeep
  | n + 1, j =>
    match j with
    | .obj ms => do
      let name := (member? ms "name").map decodeString
      let value := (member? ms "value").map (Value.decode n)
      let relation := (member? ms "relation").map (decodeNamed Relation.byName)
      let connective := (member? ms "logicalRelation").map (decodeNamed Connective.byName)
      let raw := (member? ms "raw").map decodeBool
      firstFailure ms [("name", failureOf name), ("value", failureOf value),
        ("relation", failureOf relation), ("logicalRelation", failureOf connective),
        ("raw", failureOf raw)]
      return ⟨← orDefault "" name, ← orDefault .null value, ← orDefault .equalTo relation,
        ← orDefault .and connective, ← orDefault false raw⟩
    | .arr xs => do
      let name ← itemOrDefault xs 0 "" decodeString
      let value ← itemOrDefault xs 1 .null (Value.decode n)
      let relation ← itemOrDefault xs 2 .equalTo (decodeNamed Relation.byName)
      let connective ← itemOrDefault xs 3 .and (decodeNamed Connective.byName)
      let raw ← itemOrDefault xs 4 false decodeBool
      itemsEnd xs 5
      return ⟨name, value, relation, connective, raw⟩
    | j => .error (.invalidType (.of j) "struct Expression")

/-- A filter; every field has a default. -/
def Filter.decode : Nat → Decoder Filter
  | 0, _ => .error .tooDeep
  | n + 1, j =>
    match j with
    | .obj ms => do
      let expressions := (member? ms "expressions").map (decodeList (Expression.decode n))
      let filters := (member? ms "filters").map (decodeList (Filter.decode n))
      let connective := (member? ms "logicalRelation").map (decodeNamed Connective.byName)
      firstFailure ms [("expressions", failureOf expressions), ("filters", failureOf filters),
        ("logicalRelation", failureOf connective)]
      return ⟨← orDefault [] expressions, ← orDefault [] filters, ← orDefault .and connective⟩
    | .arr xs => do
      let expressions ← itemOrDefault xs 0 [] (decodeList (Expression.decode n))
      let filters ← itemOrDefault xs 1 [] (decodeList (Filter.decode n))
      let connective ← itemOrDefault xs 2 .and (decodeNamed Connective.byName)
      itemsEnd xs 3
      return ⟨expressions, filters, connective⟩
    | j => .error (.invalidType (.of j) "struct Filter")

/-- A derived table. -/
def DerivedTable.decode : Nat → Decoder DerivedTable
  | 0, _ => .error .tooDeep
  | n + 1, j =>
    match j with
    | .obj ms => do
      let select := (member? ms "select").map (Select.decode n)
      let aliasName := (member? ms "alias").map decodeString
      firstFailure ms [("select", failureOf select), ("alias", failureOf aliasName)]
      return ⟨← required "select" select, ← required "alias" aliasName⟩
    | .arr xs => do
      let select ← itemRequired xs 0 (recordExpecting "DerivedTable" 2) (Select.decode n)
      let aliasName ← itemRequired xs 1 (recordExpecting "DerivedTable" 2) decodeString
      itemsEnd xs 2
      return ⟨select, aliasName⟩
    | j => .error (.invalidType (.of j) "struct DerivedTable")

/-- The body of a common table expression: `{"select": …}` or `{"rawSql": …}`. -/
def CteQuery.decode : Nat → Decoder CteQuery
  | 0, _ => .error .tooDeep
  | n + 1, j =>
    decodeTagged ["select", "rawSql"]
      (fun name v => if name == "select" then (Select.decode n v).map .select
        else (decodeString v).map .rawSql) j

/-- A common table expression. -/
def Cte.decode : Nat → Decoder Cte
  | 0, _ => .error .tooDeep
  | n + 1, j =>
    match j with
    | .obj ms => do
      let aliasName := (member? ms "alias").map decodeString
      let query := (member? ms "query").map (CteQuery.decode n)
      firstFailure ms [("alias", failureOf aliasName), ("query", failureOf query)]
      return ⟨← required "alias" aliasName, ← required "query" query⟩
    | .arr xs => do
      let aliasName ← itemRequired xs 0 (recordExpecting "CommonTableExpression" 2) decodeString
      let query ← itemRequired xs 1 (recordExpecting "CommonTableExpression" 2) (CteQuery.decode n)
      itemsEnd xs 2
      return ⟨aliasName, query⟩
    | j => .error (.invalidType (.of j) "struct CommonTableExpression")

/-- A source: `{"table": …}`, `{"derived": …}` or `{"cte": …}`. -/
def Source.decode : Nat → Decoder Source
  | 0, _ => .error .tooDeep
  | n + 1, j =>
    decodeTagged ["table", "derived", "cte"]
      (fun name v =>
        if name == "table" then (Table.decode v).map .table
        else if name == "derived" then (DerivedTable.decode n v).map .derived
        else (Cte.decode n v).map .cte) j

/-- A join. -/
def Join.decode : Nat → Decoder Join
  | 0, _ => .error .tooDeep
  | n + 1, j =>
    match j with
    | .obj ms => do
      let target := (member? ms "target").map (Source.decode n)
      let on := (member? ms "on").map (Expression.decode n)
      let expressions := (member? ms "expressions").map (decodeList (Expression.decode n))
      let kind := (member? ms "joinType").map (decodeNamed JoinKind.byName)
      firstFailure ms [("target", failureOf target), ("on", failureOf on),
        ("expressions", failureOf expressions), ("joinType", failureOf kind)]
      return ⟨← required "target" target, ← required "on" on, ← orDefault [] expressions,
        ← orDefault .inner kind⟩
    | .arr xs => do
      let target ← itemRequired xs 0 (recordExpecting "Join" 4) (Source.decode n)
      let on ← itemRequired xs 1 (recordExpecting "Join" 4) (Expression.decode n)
      let expressions ← itemOrDefault xs 2 [] (decodeList (Expression.decode n))
      let kind ← itemOrDefault xs 3 .inner (decodeNamed JoinKind.byName)
      itemsEnd xs 4
      return ⟨target, on, expressions, kind⟩
    | j => .error (.invalidType (.of j) "struct Join")

/-- A combined select. -/
def Combine.decode : Nat → Decoder Combine
  | 0, _ => .error .tooDeep
  | n + 1, j =>
    match j with
    | .obj ms => do
      let select := (member? ms "select").map (Select.decode n)
      let operation := (member? ms "operation").map (decodeNamed SetOperation.byName)
      firstFailure ms [("select", failureOf select), ("operation", failureOf operation)]
      return ⟨← required "select" select, ← required "operation" operation⟩
    | .arr xs => do
      let select ← itemRequired xs 0 (recordExpecting "SqlCombine" 2) (Select.decode n)
      let operation ← itemRequired xs 1 (recordExpecting "SqlCombine" 2)
        (decodeNamed SetOperation.byName)
      itemsEnd xs 2
      return ⟨select, operation⟩
    | j => .error (.invalidType (.of j) "struct SqlCombine")

/-- A select; every field has a default. -/
def Select.decode : Nat → Decoder Select
  | 0, _ => .error .tooDeep
  | n + 1, j =>
    match j with
    | .obj ms => do
      let ctes := (member? ms "ctes").map (decodeList (Cte.decode n))
      let source := (member? ms "from").map (decodeOption (Source.decode n))
      let fields := (member? ms "fields").map (decodeList Field.decode)
      let joins := (member? ms "joins").map (decodeList (Join.decode n))
      let filter := (member? ms "where").map (decodeOption (Filter.decode n))
      let groupBys := (member? ms "groupBys").map (decodeList GroupBy.decode)
      let having := (member? ms "having").map (decodeOption (Filter.decode n))
      let sorts := (member? ms "sorts").map (decodeList SortKey.decode)
      let combines := (member? ms "combines").map (decodeList (Combine.decode n))
      firstFailure ms [("ctes", failureOf ctes), ("from", failureOf source),
        ("fields", failureOf fields), ("joins", failureOf joins), ("where", failureOf filter),
        ("groupBys", failureOf groupBys), ("having", failureOf having),
        ("sorts", failureOf sorts), ("combines", failureOf combines)]
      return ⟨← orDefault [] ctes, ← orDefault none source, ← orDefault [] fields,
        ← orDefault [] joins, ← orDefault none filter, ← orDefault [] groupBys,
        ← orDefault none having, ← orDefault [] sorts, ← orDefault [] combines⟩
    | .arr xs => do
      let ctes ← itemOrDefault xs 0 [] (decodeList (Cte.decode n))
      let source ← itemOrDefault xs 1 none (decodeOption (Source.decode n))
      let fields ← itemOrDefault xs 2 [] (decodeList Field.decode)
      let joins ← itemOrDefault xs 3 [] (decodeList (Join.decode n))
      let filter ← itemOrDefault xs 4 none (decodeOption (Filter.decode n))
      let groupBys ← itemOrDefault xs 5 [] (decodeList GroupBy.decode)
      let having ← itemOrDefault xs 6 none (decodeOption (Filter.decode n))
      let sorts ← itemOrDefault xs 7 [] (decodeList SortKey.decode)
      let combines ← itemOrDefault xs 8 [] (decodeList (Combine.decode n))
      itemsEnd xs 9
      return ⟨ctes, source, fields, joins, filter, groupBys, having, sorts, combines⟩
    | j => .error (.invalidType (.of j) "struct SqlSelect")

end

/-- An assignment. -/
def FieldValue.decode (n : Nat) : Decoder FieldValue
  | .obj ms => do
    let name := (member? ms "name").map decodeString
    let value := (member? ms "value").map (Value.decode n)
    firstFailure ms [("name", failureOf name), ("value", failureOf value)]
    return ⟨← required "name" name, ← orDefault .null value⟩
  | .arr xs => do
    let name ← itemRequired xs 0 (recordExpecting "FieldValue" 2) decodeString
    let value ← itemOrDefault xs 1 .null (Value.decode n)
    itemsEnd xs 2
    return ⟨name, value⟩
  | j => .error (.invalidType (.of j) "struct FieldValue")

/-- An insert. -/
def Insert.decode (n : Nat) : Decoder Insert
  | .obj ms => do
    let table := (member? ms "table").map Table.decode
    let fields := (member? ms "fields").map (decodeList (FieldValue.decode n))
    let query := (member? ms "query").map (decodeOption (Select.decode n))
    firstFailure ms [("table", failureOf table), ("fields", failureOf fields), ("query", failureOf query)]
    return ⟨← required "table" table, ← orDefault [] fields, ← orDefault none query⟩
  | .arr xs => do
    let table ← itemRequired xs 0 (recordExpecting "SqlInsert" 3) Table.decode
    let fields ← itemOrDefault xs 1 [] (decodeList (FieldValue.decode n))
    let query ← itemOrDefault xs 2 none (decodeOption (Select.decode n))
    itemsEnd xs 3
    return ⟨table, fields, query⟩
  | j => .error (.invalidType (.of j) "struct SqlInsert")

/-- An update. -/
def Update.decode (n : Nat) : Decoder Update
  | .obj ms => do
    let table := (member? ms "table").map Table.decode
    let fields := (member? ms "fields").map (decodeList (FieldValue.decode n))
    let filters := (member? ms "filters").map (decodeList (Expression.decode n))
    firstFailure ms [("table", failureOf table), ("fields", failureOf fields),
      ("filters", failureOf filters)]
    return ⟨← required "table" table, ← orDefault [] fields, ← orDefault [] filters⟩
  | .arr xs => do
    let table ← itemRequired xs 0 (recordExpecting "SqlUpdate" 3) Table.decode
    let fields ← itemOrDefault xs 1 [] (decodeList (FieldValue.decode n))
    let filters ← itemOrDefault xs 2 [] (decodeList (Expression.decode n))
    itemsEnd xs 3
    return ⟨table, fields, filters⟩
  | j => .error (.invalidType (.of j) "struct SqlUpdate")

/-- A delete. -/
def Delete.decode (n : Nat) : Decoder Delete
  | .obj ms => do
    let table := (member? ms "table").map Table.decode
    let filters := (member? ms "filters").map (decodeList (Expression.decode n))
    firstFailure ms [("table", failureOf table), ("filters", failureOf filters)]
    return ⟨← required "table" table, ← orDefault [] filters⟩
  | .arr xs => do
    let table ← itemRequired xs 0 (recordExpecting "SqlDelete" 2) Table.decode
    let filters ← itemOrDefault xs 1 [] (decodeList (Expression.decode n))
    itemsEnd xs 2
    return ⟨table, filters⟩
  | j => .error (.invalidType (.of j) "struct SqlDelete")

/-- Removes a key the way the document store does: the last member takes the place of the
removed one. -/
def removeKey (ms : List (String × Json)) (key : String) : List (String × Json) :=
  match ms.findIdx? (·.1 == key) with
  | none => ms
  | some i =>
    if i + 1 == ms.length then ms.take i
    else match ms.getLast? with
      | some last => (ms.take i ++ [last] ++ ms.drop (i + 1)).take (ms.length - 1)
      | none => ms

/-- The budget of nesting a reader needs for a value. -/
def decodeBudget (j : Json) : Nat := j.depth + 2

/-- Reads a tagged document. -/
def Statement.decode (doc : Json) : Result Statement :=
  match doc with
  | .obj ms =>
    match member? ms "statementType" with
    | some (.str tag) => do
      let ty ← StatementType.parse tag
      let body := Json.obj (removeKey ms "statementType")
      let n := decodeBudget body
      let failed := fun (e : DecodeError) =>
        Error.validation ("invalid " ++ tag ++ " statement: " ++ e.message)
      match ty with
      | .select => (Select.decode n body).map Statement.select |>.mapError failed
      | .insert => (Insert.decode n body).map Statement.insert |>.mapError failed
      | .update => (Update.decode n body).map Statement.update |>.mapError failed
      | .delete => (Delete.decode n body).map Statement.delete |>.mapError failed
    | _ => invalid "statement document has no statementType"
  | _ => invalid "statement document must be a JSON object"

/-- Reads a statement from document text. -/
def Statement.fromJsonText (text : String) : Result Statement :=
  match Json.parse text with
  | .error e => invalid ("malformed statement document: " ++ e.message)
  | .ok doc => Statement.decode doc

/-- A copy made by writing the select as a document and reading it back. -/
def Select.deepClone (s : Select) : Result Select :=
  let j := s.toJson.storeFloats
  (Select.decode (decodeBudget j) j).mapError
    (fun e => Error.validation ("cannot deserialize statement: " ++ e.message))

end QueryDoc
