import QueryDoc.Store.Datum
import QueryDoc.Json.Writer
import QueryDoc.Error
import QueryDoc.Decimal.Layout
import QueryDoc.Text.Debug

/-!
Result rows as JSON, and JSON rows mapped onto the types callers ask for.

A row is an object whose keys are the column names in column order. Two columns of one name
make one key, at the first one's place, holding the last one's value. Null is `null`,
integers and texts are themselves, a real is a JSON number (or `null` when it is not finite),
and a blob is the array of its bytes.

A row maps onto a scalar type when the whole row is that type, which an object never is, or
else when it has one column whose value is. A row of several columns that is not the type
fails as a row; a single column that is not the type fails as a column.
-/

namespace QueryDoc.Facade

open Store

/-- A stored value as JSON. -/
def datumJson : Datum → Json
  | .null => .null
  | .integer n => .int n
  | .real x => if x.isNaN || x.isInf then .null else .float x
  | .text s => .str s
  | .rawText bytes => .str (bytesText bytes)
  | .blob bytes => .arr (bytes.map fun b => .int b.toNat)

/-- A row as object members: a repeated name keeps its first place and its last value. -/
def rowMembers (names : List String) (values : List Datum) : List (String × Json) :=
  (names.zip values).foldl (fun acc (n, v) => Json.setField acc n (datumJson v)) []

/-- The types a row can be mapped onto. -/
inductive RowType where
  /-- The row object itself. -/
  | row
  | string
  /-- A 64-bit signed integer. -/
  | int
  /-- A double. -/
  | float
  | bool
  /-- A string or null. -/
  | optString
  deriving BEq, Inhabited, Repr

/-- How a mapping failure describes a JSON value. -/
def unexpectedText : Json → String
  | .null => "null"
  | .bool b => "boolean `" ++ (if b then "true" else "false") ++ "`"
  | .int i => "integer `" ++ toString i ++ "`"
  | .float f => "floating point `" ++ Decimal.Style.pointed.format f ++ "`"
  | .str s => "string " ++ Text.debugQuote s
  | .arr _ => "sequence"
  | .obj _ => "map"

namespace RowType

/-- The type by its request name. -/
def byName : List (String × RowType) :=
  [("row", .row), ("string", .string), ("int", .int), ("float", .float), ("bool", .bool),
    ("optstring", .optString)]

/-- How a mapping failure names the type. -/
def expected : RowType → String
  | .row => "any value"
  | .string | .optString => "a string"
  | .int => "i64"
  | .float => "f64"
  | .bool => "a boolean"

/-- A value mapped onto the type, or the reason it does not fit. -/
def cast : RowType → Json → Except String Json
  | .row, v => .ok v
  | .string, .str s => .ok (.str s)
  | .int, .int i => .ok (.int i)
  | .float, .int i => .ok (.float (Float.ofInt i))
  | .float, .float f => .ok (.float f)
  | .bool, .bool b => .ok (.bool b)
  | .optString, .null => .ok .null
  | .optString, .str s => .ok (.str s)
  | t, v => .error ("invalid type: " ++ unexpectedText v ++ ", expected " ++ t.expected)

/-- A row mapped onto the type: the whole row first, then its only column. -/
def decode (t : RowType) (members : List (String × Json)) : Result Json :=
  match t.cast (.obj members) with
  | .ok v => .ok v
  | .error rowProblem =>
    match members with
    | [(_, v)] =>
      match t.cast v with
      | .ok v' => .ok v'
      | .error problem => invalid ("cannot map result column: " ++ problem)
    | _ => invalid ("cannot map result row: " ++ rowProblem)

end RowType

end QueryDoc.Facade
