import QueryDoc.Store.Parser
import QueryDoc.Store.Virtual

/-!
Editing the texts the schema keeps, and reading them again.

Renaming a table or a column rewrites the statements that made the schema's objects, token by
token, and then reads each edited statement again, so that what runs (a view's query, a
trigger's steps, a table's checks and generated columns, an index's expressions) names what
its text now names.

A renamed table is written in double quotes wherever it stood, and the tables that keep a
virtual table's data are renamed with it. A renamed column is written as
given, unless it was given quoted or the name it replaces was quoted: then it is written in
double quotes. A name counts as a reference to the column when it stands where a column may:
not as an alias, a collation, a constraint's name, a function or a qualifier, and qualified
only by the table or a name the text gives the table. In the table's own definition, a
column's type and the columns of another table it refers to are left alone; other tables
change only where they refer to it; an index changes after its `on`; a view or a statement of
a trigger changes only where it reads the table, and a trigger on the table also where it
says `new.` or `old.` and in its `update of` list.
-/

namespace QueryDoc.Store

namespace SchemaText

/-- The bytes of a text between two offsets. -/
def bytesBetween (s : String) (start stop : Nat) : String :=
  (String.fromUTF8? (s.toUTF8.extract start stop)).getD ""

/-- The name a token stands for, when it is a word or a quoted name. -/
def tokenName (t : Token) : Option String :=
  match t.kind with
  | .word w => some w
  | .quotedName s | .otherQuotedName s => some s
  | _ => none

/-- A text with some of its tokens replaced: `choose` sees all tokens and a position. -/
def editTokens (sql : String) (choose : Array Token → Nat → Option String) : String :=
  let toks := tokenize sql
  let (out, last) := (List.range toks.size).foldl (fun (acc : String × Nat) k =>
    match toks[k]?, choose toks k with
    | some tok, some rep => (acc.1 ++ bytesBetween sql acc.2 tok.offset ++ rep, tok.stop)
    | _, _ => acc) ("", 0)
  out ++ bytesBetween sql last sql.utf8ByteSize

/-- A name in double quotes. -/
def quoted (name : String) : String :=
  "\"" ++ String.ofList (name.toList.flatMap fun c => if c == '"' then ['"', '"'] else [c]) ++ "\""

/-- Whether the token at a position is a word, in any case. -/
def wordAt (toks : Array Token) (k : Nat) (w : String) : Bool :=
  match toks[k]? with
  | some t =>
    match t.kind with
    | .word x => foldName x == foldName w
    | _ => false
  | none => false

/-- Whether the token at a position names something, in any case. -/
def nameAt (toks : Array Token) (k : Nat) (name : String) : Bool :=
  ((toks[k]?.bind tokenName).map (sameName · name)).getD false

/-- Whether the token at a position is the symbol `s`. -/
def symbolAt (toks : Array Token) (k : Nat) (s : String) : Bool :=
  ((toks[k]?).map (·.kind == .symbol s)).getD false

/-- Whether the token at a position is a plain word. -/
def isWordAt (toks : Array Token) (k : Nat) : Bool :=
  match toks[k]? with
  | some t =>
    match t.kind with
    | .word _ => true
    | _ => false
  | none => false

/-- The depth of parentheses each token stands at. -/
def depths (toks : Array Token) : Array Nat :=
  (toks.foldl (fun (acc : Array Nat × Nat) tok =>
    let d := acc.2
    if tok.kind == .symbol "(" then (acc.1.push d, d + 1)
    else if tok.kind == .symbol ")" then (acc.1.push (d - 1), d - 1)
    else (acc.1.push d, d)) (#[], 0)).1

/-- The position of the first token at or after `k` that satisfies `p`. -/
def findFrom (toks : Array Token) (k : Nat) (p : Nat → Bool) : Option Nat :=
  ((List.range (toks.size - k)).map (· + k)).find? p

/-- The positions from `k` up to the next `)`. -/
def untilClose (toks : Array Token) (k : Nat) : List Nat :=
  ((List.range (toks.size - k)).map (· + k)).takeWhile fun j => !symbolAt toks j ")"

/-- Whether the token at a position names a table where it is read, not as a qualifier. -/
def tableAt (toks : Array Token) (k : Nat) (table : String) : Bool :=
  nameAt toks k table && !symbolAt toks (k + 1) "." && !(k > 0 && symbolAt toks (k - 1) ".")

/-- The names a text gives a table: its own, and each alias written after it. -/
def aliasesOf (toks : Array Token) (table : String) : List String :=
  table :: (List.range toks.size).filterMap fun k =>
    if tableAt toks k table then
      if wordAt toks (k + 1) "AS" then toks[k + 2]?.bind tokenName
      else
        match toks[k + 1]? with
        | some t =>
          match t.kind with
          | .word w => if isKeyword w then none else some w
          | .quotedName s | .otherQuotedName s => some s
          | _ => none
        | none => none
    else none

/-- Whether the token at a position refers to a column: it names it, unqualified or qualified
by one of `qualifiers`, and is not an alias, a collation, a constraint's name, a function or
a qualifier itself. -/
def columnRefAt (toks : Array Token) (k : Nat) (column : String) (qualifiers : List String) : Bool :=
  nameAt toks k column && !symbolAt toks (k + 1) "." && !symbolAt toks (k + 1) "(" &&
    (if k > 0 && symbolAt toks (k - 1) "." then k > 1 && qualifiers.any (nameAt toks (k - 2) ·)
     else !(k > 0 && (wordAt toks (k - 1) "AS" || wordAt toks (k - 1) "COLLATE" ||
       wordAt toks (k - 1) "CONSTRAINT")))

/-- The positions of the column lists of `references p (…)` clauses: those whose parent is
`table` when `own`, the others when not. -/
def parentColumns (toks : Array Token) (table : String) (own : Bool) : List Nat :=
  (List.range toks.size).flatMap fun k =>
    if wordAt toks k "REFERENCES" && nameAt toks (k + 1) table == own && symbolAt toks (k + 2) "(" then
      untilClose toks (k + 3)
    else []

/-- The statements of a trigger's body, as ranges of token positions. -/
def triggerSteps (toks : Array Token) : List (Nat × Nat) :=
  match findFrom toks 0 (wordAt toks · "BEGIN") with
  | none => []
  | some b =>
    let ends := ((List.range (toks.size - (b + 1))).map (· + (b + 1))).filter (symbolAt toks · ";")
    let starts := (b + 1) :: ends.map (· + 1)
    starts.zip ends

/-! ### Reading edited texts again -/

/-- A table read again from its edited definition: its checks and the defaults and generated
expressions of its columns are those of the text; its rows and storage stay. -/
def refreshTable (t : Table) (sql : String) : Table :=
  let t := { t with sql := sql }
  match Command.parse sql with
  | .ok (.createTable _ _ _ _ (.columns cols constraints options) _, _) =>
    match Define.table t.name cols constraints options sql with
    | .ok (fresh, _) =>
      { t with checks := fresh.checks, foreignKeys := fresh.foreignKeys,
               columns := t.columns.mapIdx fun i c =>
                 match fresh.columns[i]? with
                 | some f => { c with defaultValue := f.defaultValue, defaultText := f.defaultText,
                                      generated := f.generated }
                 | none => c }
    | .error _ => t
  | _ => t

/-- An index read again from its edited text, on its table as it now is. -/
def refreshIndex (t : Table) (i : Index) (sql : String) : Index :=
  let i := { i with sql := some sql }
  match Command.parse sql with
  | .ok (.createIndex _ _ _ _ _ ics filter _, _) =>
    match Define.indexParts t ics with
    | .ok parts => { i with parts := parts, filter := filter }
    | .error _ => i
  | _ => i

/-- A view read again from its edited text. -/
def refreshView (v : View) (sql : String) : View :=
  let v := { v with sql := sql }
  match Command.parse sql with
  | .ok (.createView _ _ _ _ cols q _, _) => { v with columns := cols, query := q }
  | _ => v

/-- A trigger read again from its edited text. -/
def refreshTrigger (tr : Trigger) (sql : String) : Trigger :=
  let tr := { tr with sql := sql }
  match Command.parse sql with
  | .ok (.createTrigger _ _ _ _ _ event _ whenCond body _, _) =>
    { tr with event := event, whenCond := whenCond, body := body }
  | _ => tr

/-! ### Renaming -/

/-- How a rename of a table reaches the schema: in the `legacy` way, views and the bodies of
triggers keep their texts, and references from other tables follow only while foreign keys are
enforced (`enforced`). -/
structure RenameMode where
  legacy : Bool
  enforced : Bool

/-- Renames one table in the texts of a database's schema and in the objects that refer to
it. -/
def renameOne (mode : RenameMode) (db : Database) (t : Table) (newName : String) : Database :=
  let old := t.name
  let q := quoted newName
  -- the table's own name follows `table`, and may be written as a string
  let ownSql := editTokens t.sql fun toks k =>
    let named := nameAt toks k old || (match toks[k]? with
      | some tok =>
        match tok.kind with
        | .string s => sameName s old
        | _ => false
      | none => false)
    if k > 0 && wordAt toks (k - 1) "TABLE" && named then some q else none
  let afterOn (sql : String) := editTokens sql fun toks k =>
    if k > 0 && wordAt toks (k - 1) "ON" && nameAt toks k old then some q else none
  let refsIn (sql : String) := editTokens sql fun toks k =>
    if k > 0 && wordAt toks (k - 1) "REFERENCES" && nameAt toks k old then some q else none
  let anyUse (sql : String) := editTokens sql fun toks k =>
    if nameAt toks k old && !(k > 0 && symbolAt toks (k - 1) ".") then some q else none
  -- a trigger's own table follows its first `on`
  let firstOn (sql : String) := editTokens sql fun toks k =>
    if k > 0 && findFrom toks 0 (wordAt toks · "ON") == some (k - 1) && nameAt toks k old then some q
    else none
  let follows := !mode.legacy || mode.enforced
  let autoName (i : Index) : String :=
    let stem := "sqlite_autoindex_" ++ old ++ "_"
    if i.origin != .created && i.name.startsWith stem then
      "sqlite_autoindex_" ++ newName ++ "_" ++ (i.name.drop stem.length).copy
    else i.name
  let repoint (fk : ForeignKeyDef) : ForeignKeyDef :=
    if follows && sameName fk.ref.parent old then { fk with ref := { fk.ref with parent := newName } } else fk
  let table (u : Table) : Table :=
    if sameName u.name old then
      { u with name := newName, sql := (if follows then refsIn ownSql else ownSql),
               foreignKeys := u.foreignKeys.map repoint }
    else if follows && u.foreignKeys.any (fun fk => sameName fk.ref.parent old) then
      { u with sql := refsIn u.sql, foreignKeys := u.foreignKeys.map repoint }
    else u
  let index (i : Index) : Index :=
    if sameName i.table old then { i with table := newName, name := autoName i, sql := i.sql.map afterOn } else i
  let trigger (tr : Trigger) : Trigger :=
    if mode.legacy then
      if sameName tr.table old then { tr with table := newName, sql := firstOn tr.sql } else tr
    else
      let tr := if sameName tr.table old then { tr with table := newName } else tr
      let sql := anyUse tr.sql
      if sql == tr.sql then tr else refreshTrigger tr sql
  let view (v : View) : View :=
    if mode.legacy then v
    else
      let sql := anyUse v.sql
      if sql == v.sql then v else refreshView v sql
  { db with tables := db.tables.map table, indexes := db.indexes.map index,
            triggers := db.triggers.map trigger, views := db.views.map view }.touch

/-- Renames a table in the texts of a database's schema and in the objects that refer to it;
the tables that keep a virtual table's data take its new name as their stem. -/
def renameTable (mode : RenameMode) (db : Database) (t : Table) (newName : String) : Database :=
  (Virtual.shadowTables t).foldl (fun db s =>
    match db.table? s with
    | some u => renameOne mode db u (newName ++ (s.drop t.name.length).copy)
    | none => db) (renameOne mode db t newName)

/-- Renames the column `i` of a table: in its definition, in the texts that refer to it, and
in what those texts run. -/
def renameColumn (db : Database) (t : Table) (i : Nat) (newName : String) (quotedNew : Bool) : Database :=
  let old := ((t.columns[i]?).map (·.name)).getD ""
  let rep (toks : Array Token) (k : Nat) : String :=
    if !quotedNew && isWordAt toks k then newName else quoted newName
  let ownSql := editTokens t.sql fun toks k =>
    let ds := depths toks
    let others := parentColumns toks t.name false
    let typeName := k ≥ 2 && (toks[k - 1]?.bind tokenName).isSome &&
      (symbolAt toks (k - 2) "(" || symbolAt toks (k - 2) ",") && ds[k]? == some 1
    if ds.getD k 0 ≥ 1 && !typeName && !others.contains k && columnRefAt toks k old [t.name] then
      some (rep toks k)
    else none
  let refersTo (sql : String) := editTokens sql fun toks k =>
    if (parentColumns toks t.name true).contains k && nameAt toks k old then some (rep toks k) else none
  let indexSql (sql : String) := editTokens sql fun toks k =>
    match findFrom toks 0 (symbolAt toks · "(") with
    | some o => if k > o && columnRefAt toks k old [t.name] then some (rep toks k) else none
    | none => none
  let viewSql (sql : String) := editTokens sql fun toks k =>
    let reads := (List.range toks.size).any (tableAt toks · t.name)
    match findFrom toks 0 (wordAt toks · "AS") with
    | some a =>
      if reads && k > a && columnRefAt toks k old (aliasesOf toks t.name) then some (rep toks k) else none
    | none => none
  let triggerSql (onTable : Bool) (sql : String) := editTokens sql fun toks k =>
    let rowRef := onTable && k > 1 && symbolAt toks (k - 1) "." &&
      (wordAt toks (k - 2) "NEW" || wordAt toks (k - 2) "OLD") && nameAt toks k old
    let ofList := onTable && nameAt toks k old &&
      (match findFrom toks 0 (wordAt toks · "OF"), findFrom toks 0 (wordAt toks · "ON") with
       | some a, some b => a < k && k < b
       | _, _ => false)
    let inStep := (triggerSteps toks).any fun (s, e) =>
      s ≤ k && k < e && ((List.range (e - s)).any fun j => tableAt toks (s + j) t.name) &&
        columnRefAt toks k old (aliasesOf toks t.name)
    if rowRef || ofList || inStep then some (rep toks k) else none
  let rename (c : String) : String := if sameName c old then newName else c
  let own (fk : ForeignKeyDef) : ForeignKeyDef := { fk with columns := fk.columns.map rename }
  let t' : Table := refreshTable { t with columns := t.columns.modify i fun c => { c with name := newName },
                                          foreignKeys := t.foreignKeys.map own } ownSql
  let refer (fk : ForeignKeyDef) : ForeignKeyDef :=
    if sameName fk.ref.parent t.name then
      { fk with ref := { fk.ref with parentColumns := fk.ref.parentColumns.map rename } }
    else fk
  let table (u : Table) : Table :=
    if sameName u.name t.name then t'
    else if u.foreignKeys.any (fun fk => sameName fk.ref.parent t.name) then
      { u with sql := refersTo u.sql, foreignKeys := u.foreignKeys.map refer }
    else u
  let index (ix : Index) : Index :=
    if sameName ix.table t.name then
      match ix.sql with
      | some sql => refreshIndex t' ix (indexSql sql)
      | none => ix
    else ix
  let trigger (tr : Trigger) : Trigger :=
    let sql := triggerSql (sameName tr.table t.name) tr.sql
    if sql == tr.sql then tr else refreshTrigger tr sql
  let view (v : View) : View :=
    let sql := viewSql v.sql
    if sql == v.sql then v else refreshView v sql
  { db with tables := db.tables.map table, indexes := db.indexes.map index,
            triggers := db.triggers.map trigger, views := db.views.map view }.touch

/-! ### Adding and dropping columns -/

/-- A reference as written: the name, after its qualifier when it has one. -/
def referenceText (toks : Array Token) (k : Nat) : String :=
  let nm := (toks[k]?.bind tokenName).getD ""
  if k > 1 && symbolAt toks (k - 1) "." then ((toks[k - 2]?.bind tokenName).getD "") ++ "." ++ nm else nm

/-- The first token of a text that `refers` picks, as written. -/
def firstReference (sql : String) (refers : Array Token → Nat → Bool) : Option String :=
  let toks := tokenize sql
  ((List.range toks.size).find? (refers toks)).map (referenceText toks)

/-- What dropping a column of a table breaks: the first object, in the schema's order, whose
text still refers to the column once the table's definition is `tableSql`; with its kind, its
name and the reference as written. -/
def danglingReference (db : Database) (t : Table) (tableSql : String) (column : String) :
    Option (String × String × String) :=
  let inTable := firstReference tableSql fun toks k =>
    (depths toks).getD k 0 ≥ 1 && !(parentColumns toks t.name false).contains k &&
      columnRefAt toks k column [t.name]
  let tableHit : List (Nat × String × String × String) :=
    (inTable.map fun r => (t.seq, "table", t.name, r)).toList
  let indexHits := (db.indexes.filter (sameName ·.table t.name)).filterMap fun ix =>
    (ix.sql.bind fun sql => firstReference sql fun toks k =>
      match findFrom toks 0 (symbolAt toks · "(") with
      | some o => k > o && columnRefAt toks k column [t.name]
      | none => false).map fun r => (ix.seq, "index", ix.name, r)
  let viewHits := db.views.filterMap fun v =>
    (firstReference v.sql fun toks k =>
      (List.range toks.size).any (tableAt toks · t.name) &&
      (match findFrom toks 0 (wordAt toks · "AS") with
       | some a => k > a && columnRefAt toks k column (aliasesOf toks t.name)
       | none => false)).map fun r => (v.seq, "view", v.name, r)
  let triggerHits := db.triggers.filterMap fun tr =>
    let onTable := sameName tr.table t.name
    (firstReference tr.sql fun toks k =>
      (onTable && k > 1 && symbolAt toks (k - 1) "." &&
        (wordAt toks (k - 2) "NEW" || wordAt toks (k - 2) "OLD") && nameAt toks k column) ||
      (triggerSteps toks).any fun (s, e) =>
        s ≤ k && k < e && ((List.range (e - s)).any fun j => tableAt toks (s + j) t.name) &&
          columnRefAt toks k column (aliasesOf toks t.name)).map fun r => (tr.seq, "trigger", tr.name, r)
  let hits := tableHit ++ indexHits ++ viewHits ++ triggerHits
  (hits.foldl (fun (best : Option (Nat × String × String × String)) h =>
    match best with
    | some b => if h.1 < b.1 then some h else some b
    | none => some h) none).map (·.2)

/-- The byte offset of the parenthesis that closes a table definition's column list. -/
def closingParen (sql : String) : Option Nat :=
  let toks := tokenize sql
  let step (acc : Option Nat × Nat × Bool) (tok : Token) : Option Nat × Nat × Bool :=
    match acc with
    | (some o, d, s) => (some o, d, s)
    | (none, depth, started) =>
      if tok.kind == .symbol "(" then (none, depth + 1, true)
      else if tok.kind == .symbol ")" then
        if depth == 1 && started then (some tok.offset, 0, true) else (none, depth - 1, started)
      else (none, depth, started)
  (toks.foldl step (none, 0, false)).1

/-- The byte range of a column's definition in a table's text, with the comma before it. -/
def columnRange (sql : String) (name : String) : Option (Nat × Nat) :=
  let toks := tokenize sql
  let n := toks.size
  let rec findStart : Nat → Nat → Nat → Option Nat
    | 0, _, _ => none
    | fuel + 1, k, depth =>
      match toks[k]? with
      | none => none
      | some tok =>
        if tok.kind == .symbol "(" then findStart fuel (k + 1) (depth + 1)
        else if tok.kind == .symbol ")" then findStart fuel (k + 1) (depth - 1)
        else if depth == 1 && nameAt toks k name && k > 0 &&
            (((toks[k - 1]?).map fun p => p.kind == .symbol "," || p.kind == .symbol "(").getD false) then some k
        else findStart fuel (k + 1) depth
  let rec findEnd : Nat → Nat → Nat → Option Nat
    | 0, _, _ => none
    | fuel + 1, k, depth =>
      match toks[k]? with
      | none => none
      | some tok =>
        if tok.kind == .symbol "(" then findEnd fuel (k + 1) (depth + 1)
        else if tok.kind == .symbol ")" then (if depth == 0 then some k else findEnd fuel (k + 1) (depth - 1))
        else if tok.kind == .symbol "," && depth == 0 then some k
        else findEnd fuel (k + 1) depth
  match findStart (n + 1) 0 0 with
  | none => none
  | some s =>
    match findEnd (n + 1) (s + 1) 0 with
    | none => none
    | some e =>
      let prevComma := s > 0 && ((toks[s - 1]?).map (·.kind == .symbol ",")).getD false
      if prevComma then
        match toks[s - 1]?, toks[e - 1]? with
        | some c, some last => some (c.offset, last.stop)
        | _, _ => none
      else
        match toks[s]?, toks[e]? with
        | some first, some stopTok =>
          if stopTok.kind == .symbol "," then
            match toks[e + 1]? with
            | some nxt => some (first.offset, nxt.offset)
            | none => none
          else
            match toks[e - 1]? with
            | some last => some (first.offset, last.stop)
            | none => none
        | _, _ => none

end SchemaText

end QueryDoc.Store
