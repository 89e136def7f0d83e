import QueryDoc.Store.Define
import QueryDoc.Store.Record
import QueryDoc.Store.FullText.Search

/-!
Virtual tables: full-text tables and r-trees.

A virtual table is declared by a module and its arguments, and keeps its data in ordinary
tables named after it. What it shows as a table is its declared columns, then some hidden
columns that names reach but `*` leaves out:

* A full-text table of the third or fourth version shows the table's own name, `docid` (the
  row id) and `__langid` (zero). Its rows come in row id order. A `match` on the table's own
  column searches all columns; on a column, that column. Only the last such search of a filter
  is answered by the table; any other is left to the filter, which cannot evaluate it.
* One of the fifth version shows the table's own name and `rank`: the row's `bm25` weight
  when the statement searches, else null. Every search of the filter is answered, and `=` on
  the table's own column searches too.
* An r-tree shows an id and pairs of coordinates, kept as 32-bit floats rounded outwards (or
  as 32-bit integers), then auxiliary columns. Its rows come in the order they were last
  written.

The table answers searches whose query text does not depend on the row being read.
-/

namespace QueryDoc.Store

namespace Virtual

open FullText

/-- The version of a full-text table, none for another table. -/
def textVersion (t : Table) : Option Nat :=
  match t.virtual with
  | some (.fullText s) => some s.version
  | _ => none

/-- The hidden columns a virtual table shows after its declared ones. -/
def hiddenColumns (t : Table) : List String :=
  match t.virtual with
  | some (.fullText s) => if s.version == 5 then [t.name, "rank"] else [t.name, "docid", "__langid"]
  | _ => []

/-- The values of a row's hidden columns, given its rank. -/
def hiddenValues (t : Table) (rowid : Int) (rank : Datum) : Array Datum :=
  match t.virtual with
  | some (.fullText s) => if s.version == 5 then #[.null, rank] else #[.null, .integer rowid, .integer 0]
  | _ => #[]

/-- The columns of a virtual table as names see them. -/
def visibleColumns (t : Table) : List VisibleColumn :=
  t.columns.toList.map (fun c => ⟨c.name, some c.affinity, some c.collation, false⟩) ++
    (hiddenColumns t).map fun nm => ⟨nm, none, some .binary, true⟩

/-- The number of slots a row of a table fills: its columns, its hidden columns and its row
id. -/
def rowWidth (t : Table) : Nat := t.columns.size + (hiddenColumns t).length + 1

/-- A stored row as statements read it: its values, its hidden columns (no rank) and its row
id. -/
def fullRow (t : Table) (r : Row) : Array Datum := (r.values ++ hiddenValues t r.rowid .null).push (.integer r.rowid)

/-- A search a full-text source answers: the column it searches (the number of declared
columns for all of them) and the query's expression. -/
abbrev Search := Nat × Bound.Expr

/-- Joins conjuncts back into a filter. -/
def joinConjuncts : List Bound.Expr → Option Bound.Expr
  | [] => none
  | e :: es => some (es.foldl (fun acc x => .binary .and acc x ⟨none, .binary⟩) e)

/-- The searches of a filter that a full-text source answers itself, and the rest of the
filter. The source's columns start at slot `offset`. -/
def takeSearches (offset : Nat) (t : Table) (filter : Option Bound.Expr) : List Search × Option Bound.Expr :=
  match textVersion t with
  | none => ([], filter)
  | some version =>
    let w := t.columns.size
    let parts := (filter.map Binder.conjuncts).getD []
    let constant (q : Bound.Expr) : Bool := !Binder.mentionsRange 0 (offset + w + 8 + 1000000) q
    let searchOf (e : Bound.Expr) : Option Search :=
      match e with
      | .call .matchOp [q, .column 0 s _ _] _ =>
        if offset ≤ s && s ≤ offset + w && constant q then some (s - offset, q) else none
      | .binary .eq (.column 0 s _ _) q _ =>
        if version == 5 && s == offset + w && constant q then some (w, q) else none
      | .binary .eq q (.column 0 s _ _) _ =>
        if version == 5 && s == offset + w && constant q then some (w, q) else none
      | _ => none
    if version == 5 then
      let taken := parts.filterMap searchOf
      (taken, joinConjuncts (parts.filter fun e => (searchOf e).isNone))
    else
      let isMatch (e : Bound.Expr) : Bool := match e with
        | .call .matchOp _ _ => (searchOf e).isSome
        | _ => false
      match (parts.zipIdx.filter fun (e, _) => isMatch e).getLast? with
      | some (e, k) =>
        ((searchOf e).toList, joinConjuncts (parts.zipIdx.filterMap fun (x, j) => if j == k then none else some x))
      | none => ([], filter)

/-- A source with each full-text table in it answering the searches of the filter that it
can, and the filter left. Only tables joined by inner joins answer searches; the source's
slots start at `base`. -/
def answerSearches (visibles : List Visible) (filter : Option Bound.Expr) :
    Nat → Bound.Source → Bound.Source × Option Bound.Expr
  | base, .virtual ref [] =>
    match visibles.find? (fun v => v.offset == base && (v.table.map (·.1)) == some ref) with
    | some v =>
      match v.table with
      | some (_, t) =>
        let (taken, rest) := takeSearches base t filter
        (.virtual ref taken, rest)
      | none => (.virtual ref [], filter)
    | none => (.virtual ref [], filter)
  | base, .join l op r on lw rw =>
    if op == .inner || op == .cross then
      let (l', f1) := answerSearches visibles filter base l
      let (r', f2) := answerSearches visibles f1 (base + lw) r
      (.join l' op r' on lw rw, f2)
    else (.join l op r on lw rw, filter)
  | _, src => (src, filter)

/-- The row of a full-text table as it reads: the terms of each column, none for a column
that is not searched or is null. -/
def document (s : TextSetup) (r : Row) : Document :=
  r.values.mapIdx fun c v =>
    if s.unindexed.contains c then #[]
    else match v.toText? with
      | some txt => (s.tokenizer.pieces txt).toArray
      | none => #[]

/-- The query a search asks, read as the table's version reads it. -/
def searchQuery (t : Table) (s : TextSetup) (col : Nat) (q : Datum) : Outcome TextQuery := do
  let names := t.columns.toList.map (·.name)
  let w := t.columns.size
  if s.version == 5 then
    let text := q.toText?.getD ""
    match Syntax5.parse ⟨s.tokenizer, names⟩ text with
    | .ok query => pure (if col < w then Syntax5.limitTo [col] query else query)
    | .error m => throw (Failure.general m)
  else
    match q.toText? with
    | none => pure .nothing
    | some text =>
      match Syntax4.parse ⟨s.tokenizer, names, col, s.version == 4⟩ text with
      | .ok (some query) => pure query
      | .ok none => pure .nothing
      | .error _ => throw (Failure.general ("malformed MATCH expression: [" ++ text ++ "]"))

/-- The rows a virtual table gives a statement, each its values, its hidden columns and its
row id: for a full-text table, the rows that match every search (with their rank when there
is a search), in row id order; for an r-tree, every row, in scan order. -/
def readRows (t : Table) (searches : List (Nat × Datum)) : Outcome (Array (Array Datum)) := do
  match t.virtual with
  | some (.fullText s) =>
    let queries ← searches.mapM fun (c, q) => searchQuery t s c q
    let combined := match queries with
      | [] => none
      | q :: qs => some (qs.foldl .both q)
    let docs := t.rows.toList.map (document s)
    let kept := (t.rows.toList.zip docs).filter fun (_, d) => queries.all (·.matches d)
    pure (kept.map fun (r, d) =>
      let rank : Datum := match combined with
        | some q => if s.version == 5 then .real (bm25 docs d q []) else .null
        | none => .null
      (r.values ++ hiddenValues t r.rowid rank).push (.integer r.rowid)).toArray
  | some (.rtree _ cells) =>
    pure (cells.filterMap fun id => (t.row? id).map fun r => r.values.push (.integer r.rowid)).toArray
  | none => pure (t.rows.map fun r => r.values.push (.integer r.rowid))

/-! ### Auxiliary functions of full-text tables -/

/-- A full-text source of the fifth version as its auxiliary functions see it: the slot of its
own column, the slot of its row id, the table and the searches it answers. -/
structure AuxSource where
  own : Nat
  rowid : Nat
  ref : TableRef
  searches : List Search

/-- The full-text sources of the fifth version in a source whose slots start at `base`. -/
def auxSources (visibles : List Visible) : Nat → Bound.Source → List AuxSource
  | base, .virtual ref searches =>
    match visibles.find? (fun v => v.offset == base && (v.table.map (·.1)) == some ref) with
    | some v =>
      match v.table with
      | some (_, t) =>
        if textVersion t == some 5 then [⟨base + t.columns.size, base + v.columns.length, ref, searches⟩]
        else []
      | none => []
    | none => []
  | base, .join l _ r _ lw _ => auxSources visibles base l ++ auxSources visibles (base + lw) r
  | _, _ => []

/-- An expression with each call of `highlight`, `bm25` or `snippet` whose first argument is the own
column of a full-text source of the fifth version given what it reads: the row id, the
table's database and name, the number of searches, the column of each search and the query of
each, then the arguments written after the own column. Calls inside subqueries stay as they
are; called elsewhere, the functions cannot run. -/
def withAuxiliaries (srcs : List AuxSource) : Bound.Expr → Bound.Expr
  | .call f args coll =>
    let args' : List Bound.Expr := args.attach.map fun ⟨a, _⟩ => withAuxiliaries srcs a
    let attached : Option Bound.Expr :=
      let row : Option Builtin := match f with
        | .highlight => some .rowHighlight
        | .bm25 => some .rowBm25
        | .snippet => some .rowSnippet
        | _ => none
      if let some g := row then
        match args' with
        | .column 0 s _ _ :: rest =>
          (srcs.find? (·.own == s)).map fun src =>
            .call g
              (.column 0 src.rowid none none :: .const (.text src.ref.schema) :: .const (.text src.ref.name) ::
                .const (.integer src.searches.length) ::
                (src.searches.map fun (c, _) => Bound.Expr.const (.integer c)) ++ src.searches.map (·.2) ++ rest)
              coll
        | _ => none
      else none
    attached.getD (.call f args' coll)
  | .unary op e => .unary op (withAuxiliaries srcs e)
  | .binary op l r c => .binary op (withAuxiliaries srcs l) (withAuxiliaries srcs r) c
  | .cast e a => .cast (withAuxiliaries srcs e) a
  | .collate e c => .collate (withAuxiliaries srcs e) c
  | .isNull e negated => .isNull (withAuxiliaries srcs e) negated
  | e => e

/-- The value of `highlight`, `bm25` or `snippet` on a row of a full-text table of the fifth version,
from the values its call was given (see `withAuxiliaries`). -/
def auxiliary (cat : Catalog) (f : Builtin) (vals : List Datum) : Outcome Datum := do
  let rowid := (vals.headD .null).toInteger
  let schema := ((vals.getD 1 .null).toText?).getD ""
  let name := ((vals.getD 2 .null).toText?).getD ""
  let k := (vals.getD 3 .null).toInteger.toNat
  let cols := ((vals.drop 4).take k).map fun v => v.toInteger.toNat
  let queries := (vals.drop (4 + k)).take k
  let args := vals.drop (4 + 2 * k)
  match (cat.db? schema).bind (·.table? name) with
  | some t =>
    match t.virtual with
    | some (.fullText s) =>
      let parsed ← (cols.zip queries).mapM fun (c, q) => searchQuery t s c q
      let combined := match parsed with
        | [] => TextQuery.nothing
        | q :: qs => qs.foldl .both q
      let docs := t.rows.toList.map (document s)
      match t.row? rowid with
      | some r =>
        let doc := document s r
        let text (d : Datum) : String := (d.toText?).getD ""
        if f == .rowBm25 then
          pure (.real (bm25 docs doc combined (args.map Datum.toReal)))
        else if f == .rowSnippet then
          if args.length != 5 then throw (Failure.general "wrong number of arguments to function snippet()")
          let texts := r.values.map Datum.toText?
          match snippet s.tokenizer texts doc combined (args.headD .null).toInteger (text (args.getD 1 .null))
              (text (args.getD 2 .null)) (text (args.getD 3 .null)) (args.getD 4 .null).toInteger with
          | .ok (some out) => pure (.text out)
          | .ok none => pure .null
          | .error .noPhrases => throw (.coded .outOfMemory "out of memory")
          | .error .noColumn => throw (.coded .range "column index out of range")
        else
          if args.length != 3 then throw (Failure.general "wrong number of arguments to function highlight()")
          let col := (args.headD .null).toInteger
          if col < 0 || col ≥ t.columns.size then pure (.text "")
          else
            match (r.values[col.toNat]?.getD .null).toText? with
            | none => pure .null
            | some body =>
              let runs := coveredRuns combined (combined.instances doc) col.toNat
              pure (.text (highlight s.tokenizer body runs (text (args.getD 1 .null)) (text (args.getD 2 .null))))
      | none => pure .null
    | _ => pure .null
  | none => pure .null

/-- The table with a row put in; an r-tree scans it last. -/
def addRow (t : Table) (r : Row) : Table :=
  let t' := t.insertRow r
  match t.virtual with
  | some (.rtree b cells) => { t' with virtual := some (.rtree b (cells.filter (· != r.rowid) ++ [r.rowid])) }
  | _ => t'

/-- The table without the row of a row id. -/
def removeRow (t : Table) (rowid : Int) : Table :=
  let t' := t.dropRows [rowid]
  match t.virtual with
  | some (.rtree b cells) => { t' with virtual := some (.rtree b (cells.filter (· != rowid))) }
  | _ => t'

/-- The size of an r-tree's node: room for 51 cells after a four-byte header. -/
def nodeSize (b : BoxSetup) : Nat := min 4032 (4 + (8 + 4 * b.coordinates) * 51)

/-- The bytes of an r-tree's cell: its row id in eight bytes, then each coordinate in four, a
32-bit float or integer, all big-endian. -/
def cellBytes (b : BoxSetup) (r : Row) : List UInt8 :=
  let coord (d : Datum) : Nat :=
    if b.integral then Record.unsigned d.toInteger % 4294967296
    else d.toReal.toFloat32.toBits.toNat
  Record.bigEndian 8 (Record.unsigned r.rowid) ++
    ((List.range b.coordinates).flatMap fun i => Record.bigEndian 4 (coord (r.values[i + 1]?.getD .null)))

/-- A database with an r-tree's tables holding what its node keeps: a root node, node 1, of
depth 0 with the cells in scan order after its depth and count; each row id with the node
that holds it and its auxiliary values; and no parents. -/
def withBoxNodes (db : Database) (t : Table) : Database :=
  match t.virtual with
  | some (.rtree b cells) =>
    let rows := cells.filterMap t.row?
    let body := [0, 0] ++ Record.bigEndian 2 rows.length ++ rows.flatMap (cellBytes b)
    let node : Row := ⟨1, #[.integer 1, .blob (body ++ List.replicate (nodeSize b - body.length) 0)]⟩
    let ids := (rows.map fun r =>
      (⟨r.rowid, (#[.integer r.rowid, .integer 1] : Array Datum) ++ r.values.extract (1 + b.coordinates)⟩ : Row))
      |>.mergeSort fun x y => x.rowid ≤ y.rowid
    let fill (suffix : String) (rs : List Row) (db : Database) : Database :=
      match db.table? (t.name ++ suffix) with
      | some u => db.putTable { u with rows := rs.toArray, maxRowid := max u.maxRowid ((rs.map (·.rowid)).foldl max 0) }
      | none => db
    db |> fill "_node" [node] |> fill "_rowid" ids |> fill "_parent" []
  | _ => db

/-- The tables that keep a virtual table's data, in the order dropping it drops them. -/
def shadowTables (t : Table) : List String :=
  let suffixes := match t.virtual with
    | some (.fullText s) =>
      if s.version == 5 then ["_data", "_idx", "_config", "_docsize", "_content"]
      else ["_segments", "_segdir", "_docsize", "_stat", "_content"]
    | some (.rtree _ _) => ["_node", "_rowid", "_parent"]
    | none => []
  suffixes.map (t.name ++ ·)

/-- The row id a virtual table gives a row written without one: one past the largest. -/
def freshRowid (t : Table) : Int := t.rows.foldl (fun m r => max m r.rowid) 0 + 1

/-! ### Commands of full-text tables -/

/-- Whether a text is a whole number written in decimal digits. -/
def allDigits (cs : List Char) : Bool := cs.all Char.isDigit

/-- What a command written into the own column of a full-text table of the third or fourth
version does: nothing to the rows, when the table knows it. -/
def command34 (text : String) : Outcome Unit :=
  let lower := text.toLower
  let cs := lower.toList
  let known := ["optimize", "rebuild", "integrity-check", "flush"].contains lower
  let merge :=
    "merge=".isPrefixOf lower && cs.length > 6 &&
      (let rest := cs.drop 6
       let first := rest.takeWhile Char.isDigit
       let after := rest.drop first.length
       match after with
       | [] => true
       | ',' :: more => !more.isEmpty && allDigits more && (more.foldl (fun n c => 10 * n + (c.toNat - 48)) 0) ≥ 2
       | _ => false)
  let automerge := "automerge=".isPrefixOf lower && cs.length > 10
  if known || merge || automerge then pure () else throw (Failure.general "SQL logic error")

/-- What a command written into the own column of a full-text table of the fifth version
does, with the value written into `rank`: nothing to the rows when the table knows it and the
value suits it. -/
def command5 (text : String) (value : Datum) : Outcome Unit :=
  let lower := text.toLower
  let number : Option Int := match value.store .integer with
    | .integer k => some k
    | _ => none
  let within (lo hi : Int) : Bool := (number.map fun k => lo ≤ k && k ≤ hi).getD false
  if lower == "delete-all" then
    throw (Failure.general "'delete-all' may only be used with a contentless or external content fts5 table")
  else if ["rebuild", "optimize", "merge", "integrity-check", "flush", "deletemerge", "rank"].contains lower then
    pure ()
  else if (lower == "pgsz" && within 32 65536) || (lower == "hashsize" && within 1 2147483647) ||
      (lower == "automerge" && within 0 64) || (lower == "usermerge" && within 2 16) ||
      (lower == "crisismerge" && within 0 2147483647) || (lower == "secure-delete" && within 0 2147483647) then
    pure ()
  else throw (Failure.general "SQL logic error")

/-! ### Coordinates of r-trees -/

/-- A little less than one, and a little more: the factors that move a 32-bit float one step
toward zero or away from it. -/
def towardZero : Float := 1.0 - 1.0 / 8388608.0

/-- See `towardZero`. -/
def awayFromZero : Float := 1.0 + 1.0 / 8388608.0

/-- A lower coordinate as a 32-bit float no greater than the value. -/
def lowerCoordinate (d : Float) : Float :=
  let f := d.toFloat32.toFloat
  if f > d then (d * (if d < 0.0 then awayFromZero else towardZero)).toFloat32.toFloat else f

/-- An upper coordinate as a 32-bit float no less than the value. -/
def upperCoordinate (d : Float) : Float :=
  let f := d.toFloat32.toFloat
  if f < d then (d * (if d < 0.0 then towardZero else awayFromZero)).toFloat32.toFloat else f

/-- A 32-bit signed integer from a 64-bit one, keeping its low bits. -/
def lowBits32 (n : Int) : Int :=
  let m := n % 4294967296
  if m ≥ 2147483648 then m - 4294967296 else m

/-- The coordinates of a row of an r-tree from the values given, each pair checked to be in
order; the index of the first pair out of order otherwise. -/
def coordinates (b : BoxSetup) (vals : List Datum) : Except Nat (List Datum) :=
  let pairs := (List.range (b.coordinates / 2)).map fun k => (vals.getD (2 * k) .null, vals.getD (2 * k + 1) .null)
  pairs.zipIdx.foldlM (fun (acc : List Datum) ((lo, hi), k) =>
    if b.integral then
      let l := lowBits32 lo.toInteger
      let h := lowBits32 hi.toInteger
      if l > h then .error k else .ok (acc ++ [.integer l, .integer h])
    else
      let l := lowerCoordinate lo.toReal
      let h := upperCoordinate hi.toReal
      if l > h then .error k else .ok (acc ++ [.real l, .real h])) []

/-! ### Declaring virtual tables -/

/-- What declaring a virtual table makes: its columns (names and declared types), its kind,
the definitions of the tables that keep its data, rows those tables start with, and the counts
of changed rows the declaration reports (the last statement's, none when it leaves the count
as it was, and the total). -/
structure Declared where
  columns : List (String × Option String)
  kind : VirtualKind
  shadows : List String
  seeds : List (String × Row)
  changes : Option Nat
  total : Nat

/-- The arguments of a module, from the text of its declaration: what stands between the
parentheses after the module's name, split at commas outside parentheses and quotes, each
without blanks around it. -/
def moduleArguments (text : String) : List String :=
  match (text.toList.findIdx? (· == '(')) with
  | none => []
  | some open_ =>
    let inner := (((text.toList.drop (open_ + 1)).reverse.dropWhile (· != ')')).drop 1).reverse
    let step (st : List (List Char) × List Char × Nat × Option Char) (c : Char) :
        List (List Char) × List Char × Nat × Option Char :=
      let (done, cur, depth, quote) := st
      match quote with
      | some q =>
        let closing := if q == '[' then ']' else q
        (done, cur ++ [c], depth, if c == closing then none else some q)
      | none =>
        if c == '\'' || c == '"' || c == '`' || c == '[' then (done, cur ++ [c], depth, some c)
        else if c == '(' then (done, cur ++ [c], depth + 1, none)
        else if c == ')' then (done, cur ++ [c], depth - 1, none)
        else if c == ',' && depth == 0 then (done ++ [cur], [], depth, none)
        else (done, cur ++ [c], depth, none)
    let (done, cur, _, _) := inner.foldl step ([], [], 0, none)
    let trim (cs : List Char) : String :=
      String.ofList ((cs.dropWhile Char.isWhitespace).reverse.dropWhile Char.isWhitespace).reverse
    let all := (done ++ [cur]).map trim
    if all == [""] then [] else all

/-- Whether a character can stand in a name without quotes. -/
def isNameChar (c : Char) : Bool := c.isAlphanum || c == '_' || c == '$' || c.toNat ≥ 0x80

/-- A quoted text without its quotes, a doubled closing quote made single; other text as it
is. -/
def dequote (s : String) : String :=
  match s.toList with
  | q :: rest =>
    if q == '\'' || q == '"' || q == '`' || q == '[' then
      let closing := if q == '[' then ']' else q
      let rec go : List Char → List Char
        | [] => []
        | c :: d :: more => if c == closing && d == closing then c :: go more
            else if c == closing then [] else c :: go (d :: more)
        | [c] => if c == closing then [] else [c]
      String.ofList (go rest)
    else s
  | [] => s

/-- The first token of an argument: a quoted name (without its quotes), else a run of name
characters. -/
def firstToken (s : String) : String :=
  let cs := s.toList.dropWhile Char.isWhitespace
  match cs with
  | q :: rest =>
    if q == '\'' || q == '"' || q == '`' || q == '[' then
      let closing := if q == '[' then ']' else q
      dequote (String.ofList (q :: rest.takeWhile (· != closing) ++ [closing]))
    else if isNameChar q then String.ofList (cs.takeWhile isNameChar)
    else String.singleton q
  | [] => ""

/-- The definitions of an r-tree's tables, and its first node. -/
def boxShadows (name : String) (b : BoxSetup) : List String × List (String × Row) :=
  let aux := String.join ((List.range b.auxiliary).map fun i => ",a" ++ toString i)
  let q := "\"" ++ name
  (["CREATE TABLE " ++ q ++ "_rowid\"(rowid INTEGER PRIMARY KEY,nodeno" ++ aux ++ ")",
    "CREATE TABLE " ++ q ++ "_node\"(nodeno INTEGER PRIMARY KEY,data)",
    "CREATE TABLE " ++ q ++ "_parent\"(nodeno INTEGER PRIMARY KEY,parentnode)"],
   [(name ++ "_node", ⟨1, #[.integer 1, .blob (List.replicate (nodeSize b) 0)]⟩)])

/-- Declares an r-tree: an id, two to ten coordinates (an even number of them), then
auxiliary columns, written with a leading `+`. -/
def declareBoxes (name : String) (integral : Bool) (args : List String) : Except String Declared := do
  if args.length < 3 then throw "Too few columns for an rtree table"
  if args.length > 100 then throw "Too many columns for an rtree table"
  let rest := args.drop 1
  let coords := rest.takeWhile fun a => !a.startsWith "+"
  let after := rest.drop coords.length
  if !after.all (·.startsWith "+") then throw "Auxiliary rtree columns must be last"
  let n := coords.length
  if n / 2 < 1 then throw "Too few columns for an rtree table"
  if n > 10 then throw "Too many columns for an rtree table"
  if n % 2 == 1 then throw "Wrong number of columns for an rtree table"
  let b : BoxSetup := { integral := integral, coordinates := n, auxiliary := after.length }
  let coordType := if integral then "INT" else "REAL"
  let columns := (firstToken (args.headD ""), some "INT") :: coords.map (fun a => (firstToken a, some coordType)) ++
    after.map fun a => (firstToken ((a.drop 1).copy), none)
  let (shadows, seeds) := boxShadows name b
  pure { columns := columns, kind := .rtree b [], shadows := shadows, seeds := seeds,
         changes := some 1, total := 1 }

/-- A tokenizer of the third or fourth version from its name and arguments. -/
def tokenizer34 (spec : String) : Except String Tokenizer := do
  let words := (spec.splitOn " ").filter (· != "") |>.map dequote
  match words with
  | [] => pure .simple
  | nm :: rest =>
    if nm == "simple" then pure .simple
    else if nm == "porter" then pure .porter
    else if nm == "unicode61" then
      let options := rest.map fun o => match o.splitOn "=" with
        | k :: v :: _ => (k, v)
        | _ => (o, "")
      let mut rd := 1
      let mut extra : List Char := []
      let mut seps : List Char := []
      for (k, v) in options do
        if k == "remove_diacritics" && (v == "0" || v == "1" || v == "2") then rd := v.toNat!
        else if k == "tokenchars" then extra := extra ++ v.toList
        else if k == "separators" then seps := seps ++ v.toList
        else throw "unknown tokenizer"
      pure (.unicode61 rd extra seps)
    else throw ("unknown tokenizer: " ++ nm)

/-- Whether an argument of a full-text table of the third or fourth version names its
tokenizer: `tokenize` followed by a character that cannot stand in a name. -/
def namesTokenizer (a : String) : Bool :=
  a.length > 8 && foldName ((a.take 8).copy) == "tokenize" && !(isNameChar ((a.toList.getD 8 ' ')))

/-- The definitions of the tables of a full-text table of the third or fourth version. -/
def textShadows34 (name : String) (columns : List String) (version : Nat) : List String :=
  let q := "'" ++ name
  let contentCols := "docid INTEGER PRIMARY KEY" ++
    String.join (columns.zipIdx.map fun (c, i) => ", 'c" ++ toString i ++ String.join ((c.splitOn "'").intersperse "''") ++ "'")
  ["CREATE TABLE " ++ q ++ "_content'(" ++ contentCols ++ ")",
   "CREATE TABLE " ++ q ++ "_segments'(blockid INTEGER PRIMARY KEY, block BLOB)",
   "CREATE TABLE " ++ q ++ "_segdir'(level INTEGER,idx INTEGER,start_block INTEGER,leaves_end_block INTEGER," ++
     "end_block INTEGER,root BLOB,PRIMARY KEY(level, idx))"] ++
  (if version == 4 then
    ["CREATE TABLE " ++ q ++ "_docsize'(docid INTEGER PRIMARY KEY, size BLOB)",
     "CREATE TABLE " ++ q ++ "_stat'(id INTEGER PRIMARY KEY, value BLOB)"]
   else [])

/-- Declares a full-text table of the third or fourth version: columns by their first token,
`content` when none is named; a tokenizer; and, for the fourth, options written `key=value`. -/
def declareText34 (name : String) (version : Nat) (args : List String) : Except String Declared := do
  let mut tok : Option Tokenizer := none
  let mut cols : List String := []
  let mut unindexed : List String := []
  let mut noDocsize := false
  for a in args do
    if tok.isNone && namesTokenizer a then
      tok := some (← tokenizer34 ((a.drop 9).copy))
    else if version == 4 && a.contains '=' then
      let key := (a.takeWhile (· != '=')).copy
      let value := dequote ((a.dropWhile (· != '=')).drop 1).copy
      let k := foldName key
      if k == "matchinfo" then
        if foldName value != "fts3" then throw ("unrecognized matchinfo: " ++ value)
        noDocsize := true
      else if k == "order" then
        if foldName value != "asc" && foldName value != "desc" then throw ("unrecognized order: " ++ value)
      else if k == "notindexed" then unindexed := unindexed ++ [value]
      else if k == "prefix" || k == "compress" || k == "uncompress" || k == "content" || k == "languageid" then
        pure ()
      else throw ("unrecognized parameter: " ++ a)
    else cols := cols ++ [firstToken a]
  let names := if cols.isEmpty then ["content"] else cols
  for u in unindexed do
    if !names.any (sameName u) then throw ("no such column: " ++ u)
  let setup : TextSetup :=
    { version := version, tokenizer := tok.getD .simple,
      unindexed := (names.zipIdx.filter fun (c, _) => unindexed.any (sameName c)).map (·.2) }
  let shadows := textShadows34 name names (if noDocsize then 3 else version)
  pure { columns := names.map (·, none), kind := .fullText setup, shadows := shadows, seeds := [],
         changes := none, total := 0 }

/-- The definitions of the tables of a full-text table of the fifth version. -/
def textShadows5 (name : String) (count : Nat) : List String :=
  let q := "'" ++ name
  ["CREATE TABLE " ++ q ++ "_data'(id INTEGER PRIMARY KEY, block BLOB)",
   "CREATE TABLE " ++ q ++ "_idx'(segid, term, pgno, PRIMARY KEY(segid, term)) WITHOUT ROWID",
   "CREATE TABLE " ++ q ++ "_content'(id INTEGER PRIMARY KEY" ++
     String.join ((List.range count).map fun i => ", c" ++ toString i) ++ ")",
   "CREATE TABLE " ++ q ++ "_docsize'(id INTEGER PRIMARY KEY, sz BLOB)",
   "CREATE TABLE " ++ q ++ "_config'(k PRIMARY KEY, v) WITHOUT ROWID"]

/-- Reads a word of an argument of the fifth version: a quoted text (without its quotes) or a
bareword; with whether it was quoted and what follows it. -/
def gobble (cs : List Char) : Option (String × Bool × List Char) :=
  match cs with
  | q :: rest =>
    if q == '\'' || q == '"' || q == '`' || q == '[' then
      let closing := if q == '[' then ']' else q
      let rec body : Nat → List Char → Option (List Char × List Char)
        | 0, _ => none
        | _ + 1, [] => none
        | k + 1, c :: more =>
          if c == closing then
            match more with
            | d :: more' => if d == closing then (body k more').map fun (b, a) => (c :: b, a) else some ([], more)
            | [] => some ([], [])
          else (body k more).map fun (b, a) => (c :: b, a)
      (body (rest.length + 1) rest).map fun (b, a) => (String.ofList b, true, a)
    else
      let w := cs.takeWhile FullText.Syntax5.isBare
      if w.isEmpty then none else some (String.ofList w, false, cs.drop w.length)
  | [] => none

/-- A tokenizer of the fifth version from its name and arguments. -/
def tokenizer5 (words : List String) : Except String Tokenizer := do
  let pairs (ws : List String) : Except String (List (String × String)) :=
    let rec go : List String → Except String (List (String × String))
      | [] => .ok []
      | k :: v :: more => (go more).map ((k, v) :: ·)
      | [_] => .error "error in tokenizer constructor"
    go ws
  let rec build : Nat → List String → Except String Tokenizer
    | 0, _ => .error "error in tokenizer constructor"
    | _ + 1, [] => .ok (.unicode61 1 [] [])
    | k + 1, nm :: rest =>
      let n := foldName nm
      if n == "unicode61" then do
        let mut rd := 1
        let mut extra : List Char := []
        let mut seps : List Char := []
        for (key, v) in ← pairs rest do
          if key == "remove_diacritics" && (v == "0" || v == "1" || v == "2") then rd := v.toNat!
          else if key == "tokenchars" then extra := extra ++ v.toList
          else if key == "separators" then seps := seps ++ v.toList
          else if key == "categories" then pure ()
          else throw "error in tokenizer constructor"
        pure (.unicode61 rd extra seps)
      else if n == "ascii" then do
        let mut extra : List Char := []
        let mut seps : List Char := []
        for (key, v) in ← pairs rest do
          if key == "tokenchars" then extra := extra ++ v.toList
          else if key == "separators" then seps := seps ++ v.toList
          else throw "error in tokenizer constructor"
        pure (.ascii extra seps)
      else if n == "porter" then do
        let base ← build k rest
        pure (.stemmed base)
      else .error ("no such tokenizer: " ++ nm)
  build (words.length + 2) words

/-- The words of a `tokenize` option: barewords and quoted texts. -/
def tokenizeWords (v : String) : Except String (List String) :=
  let rec go : Nat → List Char → Except String (List String)
    | 0, _ => .error "parse error in tokenize directive"
    | k + 1, cs =>
      match cs.dropWhile Char.isWhitespace with
      | [] => .ok []
      | cs' =>
        match gobble cs' with
        | some (w, _, rest) => (go k rest).map (w :: ·)
        | none => .error "parse error in tokenize directive"
  go (v.length + 1) v.toList

/-- Declares a full-text table of the fifth version: columns, each maybe `UNINDEXED`, and
options written `key = value`. -/
def declareText5 (name : String) (args : List String) : Except String Declared := do
  let mut cols : List String := []
  let mut unindexed : List Nat := []
  let mut tok : Option Tokenizer := none
  for a in args do
    let fail : Except String Unit := .error ("parse error in \"" ++ a ++ "\"")
    match gobble (a.toList.dropWhile Char.isWhitespace) with
    | none => fail
    | some (one, quoted, rest) =>
      let rest := rest.dropWhile Char.isWhitespace
      match rest with
      | '=' :: value =>
        if quoted then fail
        let value := value.dropWhile Char.isWhitespace
        let two ← match gobble value with
          | some (w, _, after) =>
            if (after.dropWhile Char.isWhitespace).isEmpty then pure w
            else .error ("parse error in \"" ++ a ++ "\"")
          | none => if value.isEmpty then pure "" else .error ("parse error in \"" ++ a ++ "\"")
        let k := foldName one
        if k == "tokenize" then
          if tok.isSome then throw "multiple tokenize=... directives"
          tok := some (← tokenizer5 (← tokenizeWords two))
        else if k == "prefix" || k == "content" || k == "content_rowid" || k == "columnsize" ||
            k == "detail" || k == "tokendata" || k == "contentless_delete" then
          pure ()
        else throw ("unrecognized option: \"" ++ one ++ "\"")
      | _ =>
        let two ← match gobble rest with
          | some (w, _, after) =>
            if (after.dropWhile Char.isWhitespace).isEmpty then pure (some w)
            else .error ("parse error in \"" ++ a ++ "\"")
          | none => if rest.isEmpty then pure none else .error ("parse error in \"" ++ a ++ "\"")
        if foldName one == "rank" || foldName one == "rowid" then
          throw ("reserved fts5 column name: " ++ one)
        match two with
        | some w =>
          if foldName w == "unindexed" then unindexed := unindexed ++ [cols.length]
          else throw ("unrecognized column option: " ++ w)
        | none => pure ()
        cols := cols ++ [one]
  let setup : TextSetup := { version := 5, tokenizer := tok.getD (.unicode61 1 [] []), unindexed := unindexed }
  let seeds : List (String × Row) :=
    [(name ++ "_data", ⟨1, #[.integer 1, .blob []]⟩), (name ++ "_data", ⟨10, #[.integer 10, .blob (List.replicate 7 0)]⟩),
     (name ++ "_config", ⟨1, #[.text "version", .integer 4]⟩)]
  pure { columns := cols.map (·, none), kind := .fullText setup, shadows := textShadows5 name cols.length,
         seeds := seeds, changes := some 1, total := 3 }

/-- Declares a virtual table of a module; the message of its failure otherwise. -/
def declare (name module : String) (args : List String) : Except String Declared :=
  match foldName module with
  | "rtree" => declareBoxes name false args
  | "rtree_i32" => declareBoxes name true args
  | "fts3" => declareText34 name 3 args
  | "fts4" => declareText34 name 4 args
  | "fts5" => declareText5 name args
  | _ => .error ("no such module: " ++ module)

end Virtual

end QueryDoc.Store
