import QueryDoc.Store.Schema

/-!
The pragmas the library knows, and the functions and modules a connection has.

Each pragma is known by its name, in any case. Some give rows: with no value (a setting read
back, a listing), with a value (a listing about a table), or both. Those that give rows are
also tables, named `pragma_` and the pragma's name: their columns are the pragma's, then, as
hidden columns, its value (`arg`) when it takes one about a table, and the database it reads
(`schema`) when it may be given one.

`function_list` and `module_list` walk the library's tables of functions and modules in the
order their hashes keep them. The built-in functions sit in 23 buckets by the first letter and
length of their names; in a bucket the name registered last comes first, and the definitions of
one name come in the order of registration, the first one leading and the others after it
from the last back. The functions and modules a connection adds sit in a hash of names like
the schema's (`NameHash`).
-/

namespace QueryDoc.Store

namespace Pragma

/-- How a pragma is read and what its table looks like. -/
structure Spec where
  name : String
  /-- The columns of its rows; none when its one column bears its name. -/
  columns : List String := []
  /-- Whether it gives rows when given no value. -/
  result0 : Bool := false
  /-- Whether its value names a table or index, which its table takes as `arg`. -/
  result1 : Bool := false
  /-- Whether it may be given a database, which its table takes as `schema`. -/
  schema : Bool := false
  deriving Inhabited

namespace Spec

/-- Whether it is a table. -/
def isTable (s : Spec) : Bool := s.result0 || s.result1

/-- The columns its rows show. -/
def shown (s : Spec) : List String := if s.columns.isEmpty then [s.name] else s.columns

/-- Its hidden columns, in order. -/
def hidden (s : Spec) : List String :=
  (if s.result1 then ["arg"] else []) ++ (if s.schema then ["schema"] else [])

end Spec

/-- A setting read back as one row. -/
def setting (name : String) : Spec := { name, result0 := true }

/-- A setting of one database, read back as one row. -/
def fileSetting (name : String) : Spec := { name, result0 := true, schema := true }

/-- A pragma that gives no rows. -/
def silent (name : String) : Spec := { name }

/-- Every pragma, in the order of their names. -/
def specs : List Spec :=
  [setting "analysis_limit", setting "application_id", fileSetting "auto_vacuum",
   setting "automatic_index", { setting "busy_timeout" with columns := ["timeout"] },
   fileSetting "cache_size", fileSetting "cache_spill", silent "case_sensitive_like",
   setting "cell_size_check", setting "checkpoint_fullfsync",
   { setting "collation_list" with columns := ["seq", "name"] }, setting "compile_options",
   setting "count_changes", setting "data_version",
   { setting "database_list" with columns := ["seq", "name", "file"] },
   { fileSetting "default_cache_size" with columns := ["cache_size"] },
   setting "defer_foreign_keys", setting "empty_result_callbacks", setting "encoding",
   { name := "foreign_key_check", columns := ["table", "rowid", "parent", "fkid"], result0 := true,
     result1 := true, schema := true },
   { name := "foreign_key_list", columns := ["id", "seq", "table", "from", "to", "on_update", "on_delete",
       "match"], result1 := true, schema := true },
   setting "foreign_keys", setting "freelist_count", setting "full_column_names", setting "fullfsync",
   { setting "function_list" with columns := ["name", "builtin", "type", "enc", "narg", "flags"] },
   setting "hard_heap_limit", setting "ignore_check_constraints", silent "incremental_vacuum",
   { name := "index_info", columns := ["seqno", "cid", "name"], result1 := true, schema := true },
   { name := "index_list", columns := ["seq", "name", "unique", "origin", "partial"], result1 := true,
     schema := true },
   { name := "index_xinfo", columns := ["seqno", "cid", "name", "desc", "coll", "key"], result1 := true,
     schema := true },
   { name := "integrity_check", result0 := true, result1 := true, schema := true },
   fileSetting "journal_mode", fileSetting "journal_size_limit", setting "legacy_alter_table",
   fileSetting "locking_mode", fileSetting "max_page_count", silent "mmap_size",
   { setting "module_list" with columns := ["name"] }, { name := "optimize", result1 := true },
   fileSetting "page_count", fileSetting "page_size", { setting "pragma_list" with columns := ["name"] },
   setting "query_only", { name := "quick_check", result0 := true, result1 := true, schema := true },
   setting "read_uncommitted", setting "recursive_triggers", setting "reverse_unordered_selects",
   setting "schema_version", setting "secure_delete", setting "short_column_names",
   silent "shrink_memory", setting "soft_heap_limit", fileSetting "synchronous",
   { name := "table_info", columns := ["cid", "name", "type", "notnull", "dflt_value", "pk"],
     result1 := true, schema := true },
   { name := "table_list", columns := ["schema", "name", "type", "ncol", "wr", "strict"],
     result1 := true },
   { name := "table_xinfo", columns := ["cid", "name", "type", "notnull", "dflt_value", "pk", "hidden"],
     result1 := true, schema := true },
   setting "temp_store", silent "temp_store_directory", setting "threads", setting "trusted_schema",
   setting "user_version", silent "wal_autocheckpoint",
   { silent "wal_checkpoint" with columns := ["busy", "log", "checkpointed"] },
   setting "writable_schema"]

/-- A pragma by name, in any case. -/
def find? (name : String) : Option Spec := specs.find? (sameName ·.name name)

/-- The pragma a table name such as `pragma_table_info` stands for, when it is a table. -/
def tableSpec? (tableName : String) : Option Spec :=
  if (foldName tableName).startsWith "pragma_" then
    (find? ((foldName tableName).drop 7).copy).filter Spec.isTable
  else none

/-! ### Functions and modules -/

/-- A function as `function_list` shows it: its name, its kind (`s` scalar, `w` one that
serves as an aggregate and a window function), how many arguments it takes (-1 for any
number) and its flags. -/
structure Listed where
  name : String
  kind : String
  narg : Int
  flags : Nat

/-- The flags of a function that gives the same value for the same arguments. -/
def deterministic : Nat := 2099200

/-- The flags of a function without side effects whose value may change. -/
def innocuous : Nat := 2097152

/-- The flags of a function that also reads the subtype of its arguments. -/
def readsSubtype : Nat := 3147776

/-- Scalar functions of one flag, each with the argument counts it is registered for. -/
def scalars (flags : Nat) (fs : List (String × List Int)) : List Listed :=
  fs.flatMap fun (nm, ns) => ns.map fun n => ⟨nm, "s", n, flags⟩

/-- Functions that serve as aggregates and window functions, each with its argument counts. -/
def windowed (flags : Nat) (fs : List (String × List Int)) : List Listed :=
  fs.flatMap fun (nm, ns) => ns.map fun n => ⟨nm, "w", n, flags⟩

/-- The built-in functions in the order they are registered: window functions, date and
time functions, JSON functions, then the core functions. -/
def registered : List Listed :=
  windowed innocuous [("row_number", [0]), ("dense_rank", [0]), ("rank", [0]), ("percent_rank", [0]),
    ("cume_dist", [0]), ("ntile", [1]), ("last_value", [1]), ("nth_value", [2]), ("first_value", [1]),
    ("lead", [1, 2, 3]), ("lag", [1, 2, 3])] ++
  scalars deterministic [("julianday", [-1]), ("unixepoch", [-1]), ("date", [-1]), ("time", [-1]),
    ("datetime", [-1]), ("strftime", [-1]), ("timediff", [2])] ++
  scalars innocuous [("current_time", [0]), ("current_timestamp", [0]), ("current_date", [0])] ++
  scalars deterministic [("json", [1]), ("jsonb", [1])] ++
  scalars readsSubtype [("json_array", [-1]), ("jsonb_array", [-1])] ++
  scalars deterministic [("json_array_length", [1, 2]), ("json_error_position", [1]),
    ("json_extract", [-1]), ("jsonb_extract", [-1]), ("->", [2]), ("->>", [2])] ++
  scalars readsSubtype [("json_insert", [-1]), ("jsonb_insert", [-1]), ("json_object", [-1]),
    ("jsonb_object", [-1])] ++
  scalars deterministic [("json_patch", [2]), ("jsonb_patch", [2]), ("json_pretty", [1, 2])] ++
  scalars readsSubtype [("json_quote", [1])] ++
  scalars deterministic [("json_remove", [-1]), ("jsonb_remove", [-1])] ++
  scalars readsSubtype [("json_replace", [-1]), ("jsonb_replace", [-1]), ("json_set", [-1]),
    ("jsonb_set", [-1])] ++
  scalars deterministic [("json_type", [1, 2]), ("json_valid", [1, 2])] ++
  windowed readsSubtype [("json_group_array", [1]), ("jsonb_group_array", [1]),
    ("json_group_object", [2]), ("jsonb_group_object", [2])] ++
  scalars deterministic [("soundex", [1])] ++
  scalars 524288 [("load_extension", [1, 2])] ++
  scalars innocuous [("sqlite_compileoption_used", [1]), ("sqlite_compileoption_get", [1])] ++
  scalars deterministic [("unlikely", [1]), ("likelihood", [2]), ("likely", [1]), ("ltrim", [1, 2]),
    ("rtrim", [1, 2]), ("trim", [1, 2]), ("min", [-1])] ++
  windowed innocuous [("min", [1])] ++
  scalars deterministic [("max", [-1])] ++
  windowed innocuous [("max", [1])] ++
  scalars deterministic [("typeof", [1]), ("subtype", [1]), ("length", [1]), ("octet_length", [1]),
    ("instr", [2]), ("printf", [-1]), ("format", [-1]), ("unicode", [1]), ("char", [-1]), ("abs", [1]),
    ("round", [1, 2]), ("upper", [1]), ("lower", [1]), ("hex", [1]), ("unhex", [1, 2]),
    ("concat", [-3]), ("concat_ws", [-4]), ("ifnull", [2])] ++
  scalars innocuous [("random", [0]), ("randomblob", [1])] ++
  scalars deterministic [("nullif", [2])] ++
  scalars innocuous [("sqlite_version", [0]), ("sqlite_source_id", [0])] ++
  scalars deterministic [("sqlite_log", [2]), ("quote", [1])] ++
  scalars innocuous [("last_insert_rowid", [0]), ("changes", [0]), ("total_changes", [0])] ++
  scalars deterministic [("replace", [3]), ("zeroblob", [1]), ("substr", [2, 3]), ("substring", [2, 3])] ++
  windowed innocuous [("sum", [1]), ("total", [1]), ("avg", [1]), ("count", [0, 1]),
    ("group_concat", [1, 2]), ("string_agg", [2])] ++
  scalars deterministic [("glob", [2]), ("like", [2, 3]), ("sign", [1]), ("coalesce", [-1]), ("iif", [3])]

/-- The bucket of a built-in function's name: its first byte and its length, modulo 23. -/
def bucketOf (name : String) : Nat :=
  ((name.toUTF8[0]?.map (·.toNat)).getD 0 + name.utf8ByteSize) % 23

/-- The built-in functions as `function_list` walks them. -/
def builtinListing : List Listed :=
  let names := registered.foldl (fun acc f => if acc.contains f.name then acc else acc ++ [f.name]) []
  (List.range 23).flatMap fun b =>
    ((names.filter (bucketOf · == b)).reverse).flatMap fun nm =>
      match registered.filter (·.name == nm) with
      | [] => []
      | f :: rest => f :: rest.reverse

/-- The functions every connection adds, in the order it adds them, each with its argument
counts and flags. `like` joins them once `case_sensitive_like` has run. -/
def connectionFunctions (likeRedefined : Bool) : List (String × List Int × Nat) :=
  [("match", [2], 0), ("fts3_tokenizer", [1, 2], 524288), ("snippet", [-1], 0), ("offsets", [1], 0),
   ("matchinfo", [1, 2], 0), ("optimize", [1], 0), ("fts5_isalnum", [-1], 0), ("fts5_fold", [-1], 0),
   ("fts5", [1], 0), ("fts5_source_id", [0], deterministic), ("rtreenode", [2], 0),
   ("rtreedepth", [1], 0), ("rtreecheck", [-1], 0)] ++
  (if likeRedefined then [("like", [2, 3], innocuous)] else [])

/-- The rows of `function_list`: the built-in functions, then the connection's own, each
name's definitions the latest first. -/
def functionRows (likeRedefined : Bool) : List (Array Datum) :=
  let row (f : Listed) (builtin : Nat) : Array Datum :=
    #[.text f.name, .integer builtin, .text f.kind, .text "utf8", .integer f.narg, .integer f.flags]
  let own := connectionFunctions likeRedefined
  let hash := own.foldl (fun h (nm, _, _) => h.insert nm) (⟨[], 0⟩ : NameHash)
  (builtinListing.map (row · 1)) ++
  hash.order.flatMap fun nm =>
    match own.find? (·.1 == nm) with
    | some (_, ns, flags) => ns.reverse.map fun n => row ⟨nm, "s", n, flags⟩ 0
    | none => []

/-- The modules every connection has, in the order it adds them. -/
def builtinModules : List String :=
  ["fts4aux", "fts3", "fts4", "fts3tokenize", "fts5", "fts5vocab", "rtree", "rtree_i32", "dbstat",
   "json_each", "json_tree"]

/-- The rows of `module_list`: the modules, then the `pragma_` tables statements have named,
as the hash of modules walks them. -/
def moduleRows (pragmaModules : List String) : List (Array Datum) :=
  ((builtinModules ++ pragmaModules).foldl NameHash.insert (⟨[], 0⟩ : NameHash)).order.map fun nm =>
    #[.text nm]

/-! ### The `pragma_` tables a statement names -/

mutual

/-- The `pragma_` tables an expression names, as written. -/
def termTables : Nat → Term → List String
  | 0, _ => []
  | n + 1, t =>
    match t with
    | .unary _ a | .isNull a _ | .cast a _ | .collate a _ => termTables n a
    | .binary _ a b => termTables n a ++ termTables n b
    | .between a b c _ => termTables n a ++ termTables n b ++ termTables n c
    | .inList a items _ => termTables n a ++ items.flatMap (termTables n)
    | .inQuery a q _ => termTables n a ++ queryTables n q
    | .exists q | .scalar q => queryTables n q
    | .like a b e _ => termTables n a ++ termTables n b ++ (e.map (termTables n)).getD []
    | .call _ args _ _ _ _ f _ => args.flatMap (termTables n) ++ (f.map (termTables n)).getD []
    | .caseOf o bs e =>
      (o.map (termTables n)).getD [] ++ bs.flatMap (fun (a, b) => termTables n a ++ termTables n b) ++
        (e.map (termTables n)).getD []
    | .rowValue items => items.flatMap (termTables n)
    | .raise _ m _ => (m.map (termTables n)).getD []
    | _ => []

/-- The `pragma_` tables a query names, as written. -/
def queryTables : Nat → Query → List String
  | 0, _ => []
  | n + 1, .mk _ ctes first rest _ _ _ =>
    ctes.flatMap (fun (.mk _ _ q) => queryTables n q) ++ coreTables n first ++
      rest.flatMap fun (_, c) => coreTables n c

/-- The `pragma_` tables a simple select names, as written. -/
def coreTables : Nat → Core → List String
  | 0, _ => []
  | n + 1, .values rows => rows.flatMap (·.flatMap (termTables n))
  | n + 1, .select _ cols source filter groupBy having _ =>
    cols.flatMap (fun c => match c with
      | .term t _ _ => termTables n t
      | _ => []) ++
    (source.map (sourceTables n)).getD [] ++ (filter.map (termTables n)).getD [] ++
    groupBy.flatMap (termTables n) ++ (having.map (termTables n)).getD []

/-- The `pragma_` tables a `from` names, as written. -/
def sourceTables : Nat → Source → List String
  | 0, _ => []
  | n + 1, .table _ name _ args _ _ =>
    (if (tableSpec? name).isSome then [name] else []) ++ (args.map (·.flatMap (termTables n))).getD []
  | n + 1, .query q _ => queryTables n q
  | n + 1, .join l _ _ r on _ => sourceTables n l ++ sourceTables n r ++ (on.map (termTables n)).getD []

end

/-- The `pragma_` tables a statement names, as written: each becomes a module of the
connection when the statement is prepared. -/
def namedTables (c : Command) : List String :=
  let n := 100000
  match c with
  | .query q => queryTables n q
  | .insert _ ctes _ _ _ _ _ rows _ _ =>
    ctes.flatMap (fun (.mk _ _ q) => queryTables n q) ++ match rows with
      | .values rs => rs.flatMap (·.flatMap (termTables n))
      | .query q => queryTables n q
      | .defaults => []
  | .update _ ctes _ _ _ _ sets source filter _ =>
    ctes.flatMap (fun (.mk _ _ q) => queryTables n q) ++ sets.flatMap (fun (_, t) => termTables n t) ++
      (source.map (sourceTables n)).getD [] ++ (filter.map (termTables n)).getD []
  | .delete _ ctes _ _ _ filter _ =>
    ctes.flatMap (fun (.mk _ _ q) => queryTables n q) ++ (filter.map (termTables n)).getD []
  | _ => []

/-- The rows of `pragma_list`: every pragma's name. -/
def pragmaRows : List (Array Datum) := specs.map fun s => #[.text s.name]

end Pragma

end QueryDoc.Store
