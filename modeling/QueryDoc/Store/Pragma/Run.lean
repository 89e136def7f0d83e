import QueryDoc.Store.Pragma.Listing
import QueryDoc.Store.ColumnTypes
import QueryDoc.Store.Function

/-!
Running a pragma.

A pragma reads a setting, changes it, or lists something. Settings of the connection (its
flags, how long it waits for a lock, where temporary tables live, how text is stored) are
changed for every database; settings of a file (its page and cache sizes, its journal, its
header values) for the database named, or the main one. Some pragmas give the value they
leave behind as a row even when they change it; most give nothing then.

A value is read as text: a number from its leading digits, and the words `on`, `yes`, `true`,
`off`, `no` and `false` (with `full` and `extra` where a level is meant) for the numbers they
name. A pragma no one knows does nothing.

The databases kept in memory keep their journal in memory or not at all, and lock exclusively;
the temporary database is a file of its own until `temp_store` asks for memory.
-/

namespace QueryDoc.Store

namespace Pragma

open ValueText

/-- The rows a pragma gives, under their column names. -/
abbrev Rows := Option (List String × List (Array Datum))

/-- What running a pragma gives: the catalog as it leaves it, its rows when it gives any, and
the tables `optimize` asks to analyze, each with its database and how many entries of each
index to read (0 for all). -/
structure Reply where
  catalog : Catalog
  rows : Rows := none
  analyses : List (String × String × Nat) := []

/-- A file's settings changed. -/
def withFile (cat : Catalog) (dbName : String) (f : FileSettings → FileSettings) : Catalog :=
  cat.update dbName fun db => { db with file := f db.file }

/-- The connection's settings changed. -/
def withSettings (cat : Catalog) (f : Settings → Settings) : Catalog :=
  { cat with settings := f cat.settings }

/-- How many pages the cache holds: its size, or when that is negative, as many pages as that
many kibibytes hold with 136 bytes kept beside each page. -/
def cachePages (fs : FileSettings) : Int :=
  if fs.cacheSize ≥ 0 then fs.cacheSize
  else min (1024 * (-fs.cacheSize) / ((fs.pageSize : Int) + 136)) 1000000000

/-- The mode `auto_vacuum` names: `none`, `full`, `incremental` or their numbers, else none. -/
def autoVacuumOf (z : String) : Nat :=
  if sameName z "none" then 0 else if sameName z "full" then 1
  else if sameName z "incremental" then 2
  else
    let x := atoi z
    if 0 ≤ x && x ≤ 2 then x.toNat else 0

/-- Where `temp_store` keeps temporary tables: 0, 1 or 2 by the first digit, `file` 1, `memory`
2, anything else 0. -/
def tempStoreOf (z : String) : Nat :=
  match z.toList.head? with
  | some c => if '0' ≤ c && c ≤ '2' then c.toNat - 48
    else if sameName z "file" then 1 else if sameName z "memory" then 2 else 0
  | none => 0

/-- The encoding a name given to `pragma encoding` stands for. -/
def encodingOf (z : String) : Option TextEncoding :=
  if ["utf8", "utf-8"].any (sameName z) then some .utf8
  else if ["utf-16le", "utf16le", "utf-16", "utf16"].any (sameName z) then some .utf16le
  else if ["utf-16be", "utf16be"].any (sameName z) then some .utf16be
  else none

/-- A 32-bit pattern read as a signed integer. -/
def signed32 (n : Nat) : Int :=
  let w := n % 4294967296
  if w ≥ 2147483648 then (w : Int) - 4294967296 else w

/-- Whether the temporary database has been opened: it holds or held something. -/
def tempOpen (cat : Catalog) : Bool :=
  match cat.db? "temp" with
  | some db => db.pageCount > 0 || !db.tables.isEmpty || !db.views.isEmpty || !db.triggers.isEmpty
  | none => false

/-- The databases a setting given without a database reaches: every open one. -/
def openDatabases (cat : Catalog) : List String :=
  (cat.dbs.map (·.1)).filter fun n => n != "temp" || tempOpen cat

/-- The journal mode a database takes when asked for one: none when it cannot change now; a
database in memory takes only `memory` and `off`, and none here takes `wal`. -/
def journalAfter (cat : Catalog) (fs : FileSettings) (asked : Option Nat) : Nat :=
  match asked with
  | none => fs.journal
  | some m =>
    if cat.inTransaction && cat.written then fs.journal
    else if m == 5 then fs.journal
    else if fs.inMemory && m != 4 && m != 2 then fs.journal
    else m

/-- The tables `optimize` would analyze in a database: tables with indexes that hold rows,
when an index has no statistics yet, or, when `checkSize`, when the table grew or shrank
tenfold since it was analyzed. -/
def optimizeTargets (db : Database) (checkSize : Bool) : List String :=
  let stat1 := ((db.table? "sqlite_stat1").map fun t => t.rows.toList.map (·.values)).getD []
  let statOf (idx : String) : Option String := stat1.findSome? fun (vs : Array Datum) =>
    match (vs[1]? : Option Datum), (vs[2]? : Option Datum) with
    | some (.text i), some (.text s) => if sameName i idx then some s else none
    | _, _ => none
  let tables := (hashOrder db).filterMap fun (_, t, _) => t
  tables.filterMap fun t =>
    let idxs := db.indexesOf t.name
    let idxName (i : Index) := if t.withoutRowid && i.origin == .primaryKey then t.name else i.name
    if t.virtual.isSome || (foldName t.name).startsWith "sqlite_" || idxs.isEmpty || t.rows.isEmpty then none
    else if idxs.any (fun i => (statOf (idxName i)).isNone) then some t.name
    else if !checkSize then none
    else
      let recorded := idxs.findSome? fun i =>
        if i.filter.isSome then none
        else (statOf (idxName i)).bind fun s => (((s.splitOn " ").headD "").toNat?)
      match recorded with
      | some n =>
        let was := Estimate.ofCount n
        let now := Estimate.ofCount t.rows.size
        if (if was ≥ 33 then was - 33 else -1) ≤ now && now ≤ was + 33 then none else some t.name
      | none => some t.name

/-- The rows `table_info` gives for a name: a table's, a view's, or the schema table's. -/
def tableInfoRows (cat : Catalog) (schema : Option String) (name : String) (extended : Bool) :
    Outcome (List (Array Datum)) := do
  match cat.table? schema name with
  | some (_, t) => pure (tableInfo t extended)
  | none =>
    match cat.view? schema name with
    | some (vdb, v) => pure (plainInfo (← ColumnTypes.ofView cat vdb v) extended)
    | none =>
      let f := foldName name
      let schemaTable := f == "sqlite_master" || f == "sqlite_schema" ||
        ((schema.isNone || schema.any (sameName · "temp")) &&
          (f == "sqlite_temp_master" || f == "sqlite_temp_schema"))
      if schemaTable then pure (plainInfo schemaColumns extended)
      else
        match tableSpec? name with
        | some s =>
          pure ((plainInfo ((s.shown ++ s.hidden).map (·, "")) true).zipIdx.filterMap fun (row, k) =>
            let hidden := k ≥ s.shown.length
            if hidden && !extended then none
            else some (if extended then row.set! 6 (flag hidden) else row.extract 0 6))
        | none => pure []

/-- The rows of `table_list`: each table and view of each database (or of the one named, or
only those of the name given), the schema tables among them. -/
def tableListRows (cat : Catalog) (schema : Option String) (only : Option String) : List (Array Datum) :=
  (cat.dbs.filter fun (n, _) => schema.all (sameName n)).flatMap fun (n, db) =>
    (hashOrder db).filterMap fun (nm, t, v) =>
      let realName := match t, v with
        | some t, _ => t.name
        | none, some v => v.name
        | none, none => if nm == "sqlite_temp_schema" then "sqlite_temp_master" else "sqlite_master"
      if only.any (fun o => !sameName o realName) then none
      else some <| match t, v with
        | some t, _ => #[.text n, .text t.name, .text (tableKind db t), .integer (tableWidth t),
            flag t.withoutRowid, flag t.strict]
        | none, some v =>
          let width := match ColumnTypes.ofView cat n v with
            | .ok cols => cols.length
            | .error _ => 0
          #[.text n, .text v.name, .text "view", .integer width, .integer 0, .integer 0]
        | none, none => #[.text n, .text nm, .text "table", .integer 5, .integer 0, .integer 0]

/-- Runs a pragma that turns a flag of the connection on or off. Foreign keys cannot be
turned on or off inside a transaction; turning off the waiting of foreign key checks forgets
the references left broken. -/
def runFlag (cat : Catalog) (f : Flag) (value : Option String) : Reply :=
  match value with
  | none => ⟨cat, some ([f.pragmaName], [#[flag (cat.settings.has f)]]), []⟩
  | some z =>
    if f == .foreignKeys && cat.inTransaction then ⟨cat, none, []⟩
    else
      let on := truthOf z false
      let c := withSettings cat (·.set f on)
      ⟨if f == .deferForeignKeys && !on then { c with postponedBroken := 0 } else c, none, []⟩

/-- Runs a pragma other than a flag, known by its spec, in the database `dbName` (named as
`schema` when one was given). -/
def runSetting (cat : Catalog) (schema : Option String) (dbName : String) (spec : Spec)
    (value : Option String) : Outcome Reply := do
  let db := (cat.db? dbName).getD Database.empty
  let fs := db.file
  let st := cat.settings
  let one (v : Datum) : Rows := some (spec.shown, [#[v]])
  let many (rows : List (Array Datum)) : Rows := some (spec.shown, rows)
  let keep : Reply := ⟨cat, none, []⟩
  let answer (rows : Rows) : Outcome Reply := pure ⟨cat, rows, []⟩
  let changed (c : Catalog) : Outcome Reply := pure ⟨c, none, []⟩
  let changedWith (c : Catalog) (rows : Rows) : Outcome Reply := pure ⟨c, rows, []⟩
  -- the database gets its first page when a value is written into its header
  let created (c : Catalog) : Catalog := c.update dbName fun d => { d with pageCount := max d.pageCount 1 }
  match spec.name with
  | "analysis_limit" =>
    let st := match value with
      | some z =>
        let (n, rc) := readInt64 z
        if rc == 0 && n ≥ 0 then { st with analysisLimit := (n % 2147483648).toNat } else st
      | none => st
    changedWith { cat with settings := st } (one (.integer st.analysisLimit))
  | "application_id" =>
    match value with
    | some z => changed (created (withFile cat dbName ({ · with applicationId := atoi z })))
    | none => answer (one (.integer fs.applicationId))
  | "auto_vacuum" =>
    match value with
    | none => answer (one (.integer fs.autoVacuum))
    | some z =>
      let mode := autoVacuumOf z
      let c := withSettings cat ({ · with nextAutoVacuum := some mode })
      if db.pageCount > 0 && (mode != 0) != (fs.autoVacuum != 0) then changed c
      else
        let c := withFile c dbName ({ · with autoVacuum := mode })
        changed (if mode == 0 then c else created c)
  | "busy_timeout" =>
    let st := match value with
      | some z => { st with busyTimeout := max (atoi z) 0 }
      | none => st
    changedWith { cat with settings := st } (one (.integer st.busyTimeout))
  | "cache_size" =>
    match value with
    | some z => changed (withFile cat dbName ({ · with cacheSize := atoi z }))
    | none => answer (one (.integer fs.cacheSize))
  | "cache_spill" =>
    match value with
    | none =>
      answer (one (.integer (if st.cacheSpill then max (cachePages fs) fs.spillSize else 0)))
    | some z =>
      let size := (readInt32 z).getD 1
      let spill : Nat :=
        if size == 0 then fs.spillSize
        else if size < 0 then (1024 * (-size) / ((fs.pageSize : Int) + 136)).toNat
        else size.toNat
      let c := withFile cat dbName ({ · with spillSize := spill })
      changed (withSettings c ({ · with cacheSpill := truthOf z (size != 0) }))
  | "case_sensitive_like" =>
    match value with
    | some z => changed (withSettings cat ({ · with caseSensitiveLike := truthOf z false, likeRedefined := true }))
    | none => pure keep
  | "collation_list" =>
    answer (many [#[.integer 0, .text "RTRIM"], #[.integer 1, .text "NOCASE"], #[.integer 2, .text "BINARY"]])
  | "compile_options" => answer (many (compileOptions.map fun o => #[.text o]))
  | "data_version" => answer (one (.integer 1))
  | "database_list" =>
    answer (many (cat.dbs.zipIdx.filterMap fun ((n, _), k) =>
      if n == "temp" && !tempOpen cat then none else some #[.integer k, .text n, .text ""]))
  | "default_cache_size" =>
    match value with
    | some z =>
      let size := (atoi z).natAbs
      changed (created (withFile cat dbName ({ · with defaultCacheSize := size, cacheSize := size })))
    | none =>
      let v := fs.defaultCacheSize
      answer (one (.integer (if v > 0 then v else if v < 0 then -v else -2000)))
  | "encoding" =>
    match value with
    | none => answer (one (.text st.encoding.name))
    | some z =>
      let fixed := ((cat.db? "main").map (fun d => d.pageCount != 0)).getD false
      if fixed then pure keep
      else
        match encodingOf z with
        | some e => changed (withSettings cat ({ · with encoding := e }))
        | none => throw (Failure.general ("unsupported encoding: " ++ z))
  | "foreign_key_check" =>
    answer (many (← foreignKeyCheck cat schema value))
  | "foreign_key_list" =>
    match value with
    | some z => answer (many (((cat.table? schema z).map fun (_, t) => foreignKeyList t).getD []))
    | none => pure keep
  | "freelist_count" => answer (one (.integer db.freePageCount))
  | "function_list" => answer (many (functionRows st.likeRedefined))
  | "hard_heap_limit" =>
    let st := match value with
      | some z =>
        let (n, rc) := readInt64 z
        if rc == 0 && n > 0 && (st.hardHeapLimit == 0 || st.hardHeapLimit > n) then
          { st with hardHeapLimit := n,
                    softHeapLimit := if n < st.softHeapLimit || st.softHeapLimit == 0 then n else st.softHeapLimit }
        else st
      | none => st
    changedWith { cat with settings := st } (one (.integer st.hardHeapLimit))
  | "index_info" | "index_xinfo" =>
    match value with
    | some z =>
      let found := (indexNamed cat schema z).orElse fun _ =>
        (cat.table? schema z).bind fun (tdb, t) =>
          if t.withoutRowid then
            ((cat.db? tdb).bind fun d => d.indexes.find? fun i => i.origin == .primaryKey && sameName i.table t.name).map
              (·, t)
          else none
      answer (many ((found.map fun (i, t) => indexInfo i t (spec.name == "index_xinfo")).getD []))
    | none => pure keep
  | "index_list" =>
    match value with
    | some z =>
      answer (many (((cat.scope schema).findSome? fun (_, d) => (d.table? z).map (indexList d)).getD []))
    | none => pure keep
  | "integrity_check" | "quick_check" =>
    match value with
    | some z =>
      if (readInt32 z).isSome || (cat.table? schema z).isSome || (cat.view? schema z).isSome then
        answer (one (.text "ok"))
      else throw (Failure.general ("no such table: " ++ (match schema with
        | some s => s ++ "." ++ z
        | none => z)))
    | none => answer (one (.text "ok"))
  | "journal_mode" =>
    let asked : Option Nat := value.bind fun z => journalModes.findIdx? fun m => (foldName m).startsWith (foldName z)
    let targets := if schema.isSome || asked.isNone then [dbName] else (openDatabases cat).reverse
    let c := targets.foldl (fun c n => withFile c n fun f => { f with journal := journalAfter cat f asked }) cat
    let mode := ((c.db? (targets.getLast?.getD dbName)).map (·.file.journal)).getD 4
    changedWith c (one (.text (journalModes[mode]?.getD "memory")))
  | "journal_size_limit" =>
    match value with
    | some z =>
      let n := max (readInt64 z).1 (-1)
      changedWith (withFile cat dbName ({ · with journalSizeLimit := n })) (one (.integer n))
    | none => answer (one (.integer fs.journalSizeLimit))
  | "locking_mode" =>
    let mode : Option Bool := value.bind fun z =>
      if sameName z "exclusive" then some true else if sameName z "normal" then some false else none
    match schema, mode with
    | none, none => answer (one (.text (if st.exclusiveLocking then "exclusive" else "normal")))
    | none, some m => changedWith (withSettings cat ({ · with exclusiveLocking := m })) (one (.text "exclusive"))
    | some _, _ => answer (one (.text "exclusive"))
  | "max_page_count" =>
    let asked : Nat := match value with
      | some z =>
        let (x, rc) := readInt64 z
        if rc == 0 then (max (min x 4294967294) 0).toNat else 0
      | none => 0
    let newMax := if asked == 0 then fs.maxPageCount else max db.pageCount asked
    changedWith (withFile cat dbName ({ · with maxPageCount := newMax })) (one (.integer newMax))
  | "module_list" => answer (many (moduleRows st.pragmaModules))
  | "optimize" =>
    let mask : Int := match value with
      | some z => atoi z
      | none => 65534
    if (mask / 2) % 2 == 0 then pure keep
    else
      let limit : Nat := if (mask / 16) % 2 == 0 || (st.analysisLimit > 0 && st.analysisLimit < 2000) then
          st.analysisLimit
        else 2000
      let names := if schema.isSome then [dbName] else (cat.dbs.map (·.1)).filter (· != "temp")
      let targets := names.flatMap fun n =>
        (((cat.db? n).map fun d => optimizeTargets d ((mask / 65536) % 2 == 1)).getD []).map (n, ·)
      if mask % 2 == 1 then
        answer (many (targets.map fun (n, t) =>
          #[.text ("ANALYZE \"" ++ n.replace "\"" "\"\"" ++ "\".\"" ++ t.replace "\"" "\"\"" ++ "\"")]))
      else pure ⟨cat, none, targets.map fun (n, t) => (n, t, limit)⟩
  | "page_count" => answer (one (.integer db.pageCount))
  | "page_size" =>
    match value with
    | some z =>
      let n := atoi z
      let ok := db.pageCount == 0 && 512 ≤ n && n ≤ 65536 && (List.range 8).any (fun k => n == Int.pow 2 (k + 9))
      if ok then changed (withFile cat dbName ({ · with pageSize := n.toNat })) else pure keep
    | none => answer (one (.integer fs.pageSize))
  | "pragma_list" => answer (many pragmaRows)
  | "schema_version" =>
    match value with
    | some z =>
      changed (created (cat.update dbName fun d =>
        { d.reread with schemaVersion := (atoi z % 4294967296).toNat }))
    | none => answer (one (.integer (signed32 db.schemaVersion)))
  | "secure_delete" =>
    let asked : Option Nat := value.map fun z => if sameName z "fast" then 2 else if truthOf z false then 1 else 0
    match asked with
    | none => answer (one (.integer fs.secureDelete))
    | some b =>
      let targets := if schema.isNone then openDatabases cat else [dbName]
      let c := targets.foldl (fun c n => withFile c n ({ · with secureDelete := b })) cat
      changedWith c (one (.integer b))
  | "soft_heap_limit" =>
    let st := match value with
      | some z =>
        let (n, rc) := readInt64 z
        if rc == 0 && n ≥ 0 then
          { st with softHeapLimit := if st.hardHeapLimit > 0 && (n > st.hardHeapLimit || n == 0) then st.hardHeapLimit else n }
        else st
      | none => st
    changedWith { cat with settings := st } (one (.integer st.softHeapLimit))
  | "synchronous" =>
    match value with
    | none => answer (one (.integer ((fs.safetyLevel : Int) - 1)))
    | some z =>
      if cat.inTransaction then throw (Failure.general "Safety level may not be changed inside a transaction")
      else if dbName == "temp" then pure keep
      else
        let level := (levelOf z false 1 + 1) % 8
        changed (withFile cat dbName ({ · with safetyLevel := if level == 0 then 1 else level }))
  | "table_info" | "table_xinfo" =>
    match value with
    | some z => answer (many (← tableInfoRows cat schema z (spec.name == "table_xinfo")))
    | none => pure keep
  | "table_list" => answer (many (tableListRows cat schema value))
  | "temp_store" =>
    match value with
    | none => answer (one (.integer st.tempStore))
    | some z =>
      let ts := tempStoreOf z
      if ts == st.tempStore then pure keep
      else if tempOpen cat && cat.inTransaction then
        throw (Failure.general "temporary storage cannot be changed from within a transaction")
      else
        let wasOpen := tempOpen cat
        let fresh := { Database.emptyTemp with file := { Database.emptyTemp.file with
          inMemory := ts == 2, journal := if ts == 2 then 4 else 0 } }
        let c := { cat with dbs := cat.dbs.map fun (n, d) =>
          if n == "temp" then (n, fresh) else if wasOpen then (n, d.reread) else (n, d) }
        changed (withSettings c ({ · with tempStore := ts }))
  | "temp_store_directory" =>
    match value with
    | none => answer (one ((st.tempDirectory.map Datum.text).getD .null))
    | some z =>
      if z.isEmpty then changed (withSettings cat ({ · with tempDirectory := none }))
      else if z == "/tmp" || z == "." then changed (withSettings cat ({ · with tempDirectory := some z }))
      else throw (Failure.general "not a writable directory")
  | "threads" =>
    let st := match value with
      | some z =>
        let (n, rc) := readInt64 z
        if rc == 0 && n ≥ 0 then { st with threads := min ((n % 2147483648).toNat) 8 } else st
      | none => st
    changedWith { cat with settings := st } (one (.integer st.threads))
  | "user_version" =>
    match value with
    | some z => changed (created (cat.update dbName fun d => { d with userVersion := atoi z }))
    | none => answer (one (.integer db.userVersion))
  | "wal_autocheckpoint" =>
    let st := match value with
      | some z => { st with walAutocheckpoint := max (atoi z) 0 }
      | none => st
    changedWith { cat with settings := st } (one (.integer st.walAutocheckpoint))
  | "wal_checkpoint" => answer (many [#[.integer 0, .integer (-1), .integer (-1)]])
  | _ => pure keep

/-- Runs a pragma, in the database named or the main one, with the value given. -/
def run (cat : Catalog) (schema : Option String) (name : String) (value : Option String) : Outcome Reply := do
  let dbName ← match schema with
    | some s =>
      match cat.dbs.find? (sameName ·.1 s) with
      | some (n, _) => pure n
      | none => throw (Failure.general ("unknown database " ++ s))
    | none => pure "main"
  match find? name with
  | none => pure ⟨cat, none, []⟩
  | some spec =>
    match Flag.named spec.name with
    | some f => pure (runFlag cat f value)
    | none => runSetting cat schema dbName spec value

/-- The rows a `pragma_` table gives for the values of its hidden columns: the pragma's rows,
run with those values as text (the first as the pragma's value when it takes one, then the
database), each followed by the hidden columns' texts and numbered from 1 as its row id. -/
def tableRows (cat : Catalog) (name : String) (vals : List Datum) : Outcome (List (Array Datum)) := do
  let some spec := find? name | pure []
  let texts : List (Option String) := spec.hidden.zipIdx.map fun (_, k) => (vals[k]?).bind Datum.toText?
  let (arg, schema) := if spec.result1 then ((texts[0]?).getD none, (texts[1]?).getD none)
    else (none, (texts[0]?).getD none)
  let reply ← run cat schema spec.name arg
  let hidden : Array Datum := (texts.map fun t => (t.map Datum.text).getD .null).toArray
  match reply.rows with
  | some (_, rows) => pure (rows.zipIdx.map fun (r, k) => (r ++ hidden).push (.integer (k + 1)))
  | none => pure []

end Pragma

end QueryDoc.Store
