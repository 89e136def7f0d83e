/-!
The functions a statement may call, by name.

A scalar function computes one value from its arguments. An aggregate function folds the
values of a group's rows into one; it may also run over a window. A window function only runs
over a window. Each name admits some numbers of arguments; a call with another number is
refused, and so is a call of a name no function has.
-/

namespace QueryDoc.Store

/-- Scalar functions. -/
inductive Builtin where
  | abs | changes | char | coalesce | concat | concatWs | format | glob | hex | ifnull | iif
  | instr | lastInsertRowid | length | like | likelihood | likely | unlikely | lower | ltrim | greatest
  | least | nullif | octetLength | quote | random | randomblob | replace | round | rtrim | sign
  | soundex | compileOptionGet | compileOptionUsed | sqliteOffset | sourceId | version | substr
  | totalChanges | trim | typeOf | unhex | unicode | upper | zeroblob
  | date | time | datetime | julianday | unixepoch | strftime | timediff
  | json | jsonArray | jsonArrayLength | jsonErrorPosition | jsonExtract | jsonArrow
  | jsonArrowText | jsonInsert | jsonObject | jsonPatch | jsonQuote | jsonRemove | jsonReplace
  | jsonSet | jsonType | jsonValid | jsonPretty
  | jsonb | jsonbArray | jsonbExtract | jsonbInsert | jsonbObject | jsonbPatch | jsonbRemove
  | jsonbReplace | jsonbSet
  | fts5SourceId | matchOp | snippet | offsets | matchinfo | optimize | highlight | bm25
  /-- `highlight`, `bm25` and `snippet` on the row of a full-text search, as the binder gives
  them: see `Virtual.withAuxiliaries`. -/
  | rowHighlight | rowBm25 | rowSnippet
  deriving Repr, BEq, DecidableEq, Inhabited

/-- Aggregate functions. -/
inductive AggregateFn where
  | count | countAll | sum | total | avg | min | max | groupConcat
  | jsonGroupArray | jsonGroupObject | jsonbGroupArray | jsonbGroupObject
  deriving Repr, BEq, DecidableEq, Inhabited

/-- Functions that only run over a window. -/
inductive WindowFn where
  | rowNumber | rank | denseRank | percentRank | cumeDist | ntile
  | lag | lead | firstValue | lastValue | nthValue
  deriving Repr, BEq, DecidableEq, Inhabited

namespace Builtin

/-- Whether a count of arguments is between two bounds. -/
def within (lo hi : Nat) (n : Nat) : Bool := lo ≤ n && n ≤ hi

/-- Whether a count of arguments is exactly `k`. -/
def exactly (k : Nat) (n : Nat) : Bool := n == k

/-- Whether a count of arguments is at least `k`. -/
def atLeast (k : Nat) (n : Nat) : Bool := n ≥ k

/-- Any count of arguments. -/
def anyCount (_ : Nat) : Bool := true

/-- The scalar functions on values by name, with the numbers of arguments each admits. -/
def valueTable : List (String × Builtin × (Nat → Bool)) :=
  [("abs", Builtin.abs, (exactly 1)), ("changes", Builtin.changes, (exactly 0)), ("char", Builtin.char, anyCount),
   ("coalesce", Builtin.coalesce, (atLeast 2)), ("concat", Builtin.concat, (atLeast 1)),
   ("concat_ws", Builtin.concatWs, (atLeast 2)), ("format", Builtin.format, anyCount),
   ("printf", Builtin.format, anyCount), ("glob", Builtin.glob, (exactly 2)), ("hex", Builtin.hex, (exactly 1)),
   ("ifnull", Builtin.ifnull, (exactly 2)), ("iif", Builtin.iif, (exactly 3)), ("instr", Builtin.instr, (exactly 2)),
   ("last_insert_rowid", Builtin.lastInsertRowid, (exactly 0)), ("length", Builtin.length, (exactly 1)),
   ("like", Builtin.like, within 2 3), ("likelihood", Builtin.likelihood, (exactly 2)),
   ("likely", Builtin.likely, (exactly 1)), ("unlikely", Builtin.unlikely, (exactly 1)), ("lower", Builtin.lower, (exactly 1)),
   ("ltrim", Builtin.ltrim, within 1 2), ("max", Builtin.greatest, (atLeast 2)), ("min", Builtin.least, (atLeast 2)),
   ("nullif", Builtin.nullif, (exactly 2)), ("octet_length", Builtin.octetLength, (exactly 1)),
   ("quote", Builtin.quote, (exactly 1)), ("random", Builtin.random, (exactly 0)),
   ("randomblob", Builtin.randomblob, (exactly 1)), ("replace", Builtin.replace, (exactly 3)),
   ("round", Builtin.round, within 1 2), ("rtrim", Builtin.rtrim, within 1 2), ("sign", Builtin.sign, (exactly 1)),
   ("soundex", Builtin.soundex, (exactly 1)),
   ("sqlite_compileoption_get", Builtin.compileOptionGet, (exactly 1)),
   ("sqlite_compileoption_used", Builtin.compileOptionUsed, (exactly 1)),
   ("sqlite_offset", Builtin.sqliteOffset, (exactly 1)), ("sqlite_source_id", Builtin.sourceId, (exactly 0)),
   ("sqlite_version", Builtin.version, (exactly 0)), ("substr", Builtin.substr, within 2 3),
   ("substring", Builtin.substr, within 2 3), ("total_changes", Builtin.totalChanges, (exactly 0)),
   ("trim", Builtin.trim, within 1 2), ("typeof", Builtin.typeOf, (exactly 1)), ("unhex", Builtin.unhex, within 1 2),
   ("unicode", Builtin.unicode, (exactly 1)), ("upper", Builtin.upper, (exactly 1)),
   ("zeroblob", Builtin.zeroblob, (exactly 1))]

/-- The date and time functions by name, with the numbers of arguments each admits. -/
def timeTable : List (String × Builtin × (Nat → Bool)) :=
  [("date", Builtin.date, anyCount), ("time", Builtin.time, anyCount),
   ("datetime", Builtin.datetime, anyCount), ("julianday", Builtin.julianday, anyCount),
   ("unixepoch", Builtin.unixepoch, anyCount), ("strftime", Builtin.strftime, anyCount),
   ("timediff", Builtin.timediff, (exactly 2)), ("current_date", Builtin.date, (exactly 0)),
   ("current_time", Builtin.time, (exactly 0)), ("current_timestamp", Builtin.datetime, (exactly 0))]

/-- The JSON functions by name, with the numbers of arguments each admits; those that take
any number check it when they run. -/
def jsonTable : List (String × Builtin × (Nat → Bool)) :=
  [("json", Builtin.json, (exactly 1)), ("json_array", Builtin.jsonArray, anyCount),
   ("json_array_length", Builtin.jsonArrayLength, within 1 2),
   ("json_error_position", Builtin.jsonErrorPosition, (exactly 1)),
   ("json_extract", Builtin.jsonExtract, anyCount), ("->", Builtin.jsonArrow, (exactly 2)),
   ("->>", Builtin.jsonArrowText, (exactly 2)), ("json_insert", Builtin.jsonInsert, anyCount),
   ("json_object", Builtin.jsonObject, anyCount), ("json_patch", Builtin.jsonPatch, (exactly 2)),
   ("json_quote", Builtin.jsonQuote, (exactly 1)), ("json_remove", Builtin.jsonRemove, anyCount),
   ("json_replace", Builtin.jsonReplace, anyCount), ("json_set", Builtin.jsonSet, anyCount),
   ("json_type", Builtin.jsonType, within 1 2), ("json_valid", Builtin.jsonValid, within 1 2),
   ("json_pretty", Builtin.jsonPretty, within 1 2), ("jsonb", Builtin.jsonb, (exactly 1)),
   ("jsonb_array", Builtin.jsonbArray, anyCount), ("jsonb_extract", Builtin.jsonbExtract, anyCount),
   ("jsonb_insert", Builtin.jsonbInsert, anyCount), ("jsonb_object", Builtin.jsonbObject, anyCount),
   ("jsonb_patch", Builtin.jsonbPatch, (exactly 2)), ("jsonb_remove", Builtin.jsonbRemove, anyCount),
   ("jsonb_replace", Builtin.jsonbReplace, anyCount), ("jsonb_set", Builtin.jsonbSet, anyCount)]

/-- The functions of the full-text search tables by name. Outside a search they cannot run:
the `match` operator and the helpers `snippet`, `offsets`, `matchinfo`, `optimize`,
`highlight` and `bm25` fail when they are called. -/
def searchTable : List (String × Builtin × (Nat → Bool)) :=
  [("fts5_source_id", Builtin.fts5SourceId, (exactly 0)), ("match", Builtin.matchOp, (exactly 2)),
   ("snippet", Builtin.snippet, anyCount), ("offsets", Builtin.offsets, (exactly 1)),
   ("matchinfo", Builtin.matchinfo, within 1 2), ("optimize", Builtin.optimize, (exactly 1)),
   ("highlight", Builtin.highlight, anyCount), ("bm25", Builtin.bm25, anyCount)]

/-- Whether a function is one of the JSON functions. -/
def isJson (f : Builtin) : Bool := jsonTable.any (·.2.1 == f)

/-- The scalar functions by name, with the numbers of arguments each admits. -/
def table : List (String × Builtin × (Nat → Bool)) := valueTable ++ timeTable ++ jsonTable ++ searchTable

end Builtin

namespace AggregateFn

/-- The aggregate functions by name, with the numbers of arguments each admits; `count`
with none counts rows. -/
def table : List (String × (Nat → Option AggregateFn)) :=
  [("count", fun n => if n == 0 then some .countAll else if n == 1 then some .count else none),
   ("sum", fun n => if n == 1 then some .sum else none),
   ("total", fun n => if n == 1 then some .total else none),
   ("avg", fun n => if n == 1 then some .avg else none),
   ("min", fun n => if n == 1 then some .min else none),
   ("max", fun n => if n == 1 then some .max else none),
   ("group_concat", fun n => if n == 1 || n == 2 then some .groupConcat else none),
   ("string_agg", fun n => if n == 2 then some .groupConcat else none),
   ("json_group_array", fun n => if n == 1 then some .jsonGroupArray else none),
   ("json_group_object", fun n => if n == 2 then some .jsonGroupObject else none),
   ("jsonb_group_array", fun n => if n == 1 then some .jsonbGroupArray else none),
   ("jsonb_group_object", fun n => if n == 2 then some .jsonbGroupObject else none)]

end AggregateFn

namespace WindowFn

/-- The window functions by name, with the numbers of arguments each admits. -/
def table : List (String × WindowFn × (Nat → Bool)) :=
  [("row_number", WindowFn.rowNumber, (Builtin.exactly 0)), ("rank", WindowFn.rank, (Builtin.exactly 0)),
   ("dense_rank", WindowFn.denseRank, (Builtin.exactly 0)), ("percent_rank", WindowFn.percentRank, (Builtin.exactly 0)),
   ("cume_dist", WindowFn.cumeDist, (Builtin.exactly 0)), ("ntile", WindowFn.ntile, (Builtin.exactly 1)),
   ("lag", WindowFn.lag, Builtin.within 1 3), ("lead", WindowFn.lead, Builtin.within 1 3),
   ("first_value", WindowFn.firstValue, (Builtin.exactly 1)), ("last_value", WindowFn.lastValue, (Builtin.exactly 1)),
   ("nth_value", WindowFn.nthValue, (Builtin.exactly 2))]

end WindowFn

/-- What a function name stands for at a number of arguments. -/
inductive FunctionKind where
  | scalar (f : Builtin)
  | aggregate (f : AggregateFn)
  | window (f : WindowFn)
  /-- A function of that name exists, but not with that many arguments. -/
  | wrongCount
  | unknown

/-- Looks a function up by name, in any case, and number of arguments. An aggregate of one
argument wins over the scalar of the same name, as `min` and `max` show. -/
def lookupFunction (name : String) (args : Nat) : FunctionKind :=
  let n := String.ofList (name.toList.map Char.toLower)
  let aggs := AggregateFn.table.filter (·.1 == n)
  let scalars := Builtin.table.filter (·.1 == n)
  let wins := WindowFn.table.filter (·.1 == n)
  match aggs.findSome? (fun (_, f) => f args) with
  | some f => .aggregate f
  | none =>
    match scalars.find? (fun (_, _, ok) => ok args) with
    | some (_, f, _) => .scalar f
    | none =>
      match wins.find? (fun (_, _, ok) => ok args) with
      | some (_, f, _) => .window f
      | none => if aggs.isEmpty && scalars.isEmpty && wins.isEmpty then .unknown else .wrongCount

end QueryDoc.Store
