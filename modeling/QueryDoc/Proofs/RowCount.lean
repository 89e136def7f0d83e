import QueryDoc.Proofs.ActRun
import QueryDoc.Proofs.StatementCodec

/-!
Counting the rows of a select.

A select is counted by a second select: a copy of it through its document, with `count(*)`
named `total` for its fields and no sorts; the count is the first column of its first row.
Compiled, that is the select with `count(*)` for its columns and no sorting
(`compileSelect_counting`).

What either select gives depends on the database. `Relational` is a database as the standard
meaning of a select reads it, and `Relational.answer` that meaning for selects with no set
operations, `having` or paging: the rows that the sources give and the `where` clause keeps,
one answer row each when the select neither groups nor counts, else one for each group of them
by the grouping values (all of them together when it does not group), with `count(*)` the size
of the group. An executor answers a select by its meaning when its query gives those rows in
any order (`Relational.Answers`).

Main statement: `count_matches_results_ungrouped`. Grouped, the count is the size of the group
answered first (`grouped_count_is_group_size`).
-/

namespace QueryDoc.Sql

open Store Facade

/-- `count(*)`: the number of rows in a group. -/
def countAll : Expr := .raw "count(*)" []

/-- The select that counts another's rows: `count(*)` named `total` for its columns, and no
sorting. -/
def Query.counting (q : Query) : Query :=
  { q with columns := [.expr countAll (some countAlias)], orderBy := [] }

namespace SelectItem

/-- Whether a column counts the rows of a group: `count(*)`. -/
def counts : SelectItem → Bool
  | .expr (.raw "count(*)" []) _ => true
  | _ => false

/-- Whether a column reads one row: all of it, or one of its columns. -/
def readsRow : SelectItem → Bool
  | .star => true
  | .expr (.column _) _ => true
  | .expr _ _ => false

/-- Whether a column reads a group of rows: one of their columns, or their count. -/
def readsGroup : SelectItem → Bool
  | .expr (.column _) _ => true
  | .expr (.raw "count(*)" []) _ => true
  | _ => false

end SelectItem

section Groups

variable {ρ : Type} (same : ρ → ρ → Bool)

/-- A row put among groups: into the first group whose first row it is the same as, and
otherwise into a new group after the others. -/
def placeRow (r : ρ) : List (List ρ) → List (List ρ)
  | [] => [[r]]
  | g :: gs => if g.head?.any (same · r) then (g ++ [r]) :: gs else g :: placeRow r gs

/-- Rows gathered into groups of the same rows, in the order of their first rows. -/
def gatherRows (rows : List ρ) : List (List ρ) :=
  rows.foldl (fun groups r => placeRow same r groups) []

end Groups

/-- A database as the standard meaning of a select reads it, over rows of type `ρ`: the rows
that a select's `with` list and sources give and its `where` clause keeps, a row's value in a
column and all its values, and whether two rows have the same values for grouping
expressions. -/
structure Relational (ρ : Type) where
  kept : List CteDef → Option FromItem → Option Expr → List ρ
  column : ρ → ColumnRef → Datum
  star : ρ → List Datum
  sameKeys : List Expr → ρ → ρ → Bool

namespace Relational

variable {ρ : Type} (db : Relational ρ)

/-- The values a column gives for one row. -/
def rowCells (r : ρ) : SelectItem → List Datum
  | .star => db.star r
  | .expr (.column c) _ => [db.column r c]
  | .expr _ _ => []

/-- The value a column gives for a group of rows: for a column, its value in the group's first
row (the same in every row when the rows are grouped by it), and for `count(*)` the number of
rows. -/
def groupCell (g : List ρ) : SelectItem → Datum
  | .expr (.column c) _ =>
    match g with
    | r :: _ => db.column r c
    | [] => .null
  | .expr (.raw "count(*)" []) _ => .integer g.length
  | _ => .null

/-- The groups a select reads: all its rows as one when it does not group. -/
def groupsOf (q : Query) (rows : List ρ) : List (List ρ) :=
  if q.groupBy.isEmpty then [rows] else gatherRows (db.sameKeys q.groupBy) rows

/-- The rows a select gives under the standard meaning, in some order. A select that neither
groups nor counts gives one row for each row it keeps; any other gives one for each group. There
is no meaning here for a select with set operations, `having` or paging, for raw SQL among the
columns other than `count(*)`, or for `*` in a select that groups or counts. -/
def answer (q : Query) : Option (List (List Datum)) :=
  if q.setOps.isEmpty && q.having.isNone && q.limit.isNone && q.offset.isNone then
    if q.groupBy.isEmpty && !q.columns.any SelectItem.counts then
      if q.columns.all SelectItem.readsRow then
        some ((db.kept q.ctes q.source q.filter).map fun r => q.columns.flatMap (db.rowCells r))
      else none
    else if q.columns.all SelectItem.readsGroup then
      some ((db.groupsOf q (db.kept q.ctes q.source q.filter)).map fun g =>
        q.columns.map (db.groupCell g))
    else none
  else none

variable {σ : Type} [Executor σ]

/-- An executor answers select `q` on connection `c` of engine state `e` by its standard meaning
in `db`: the query of its text in dialect `d` succeeds with the meaning's rows in some order,
each with one value for each column name. -/
def Answers (e : σ) (c : Nat) (d : Dialect) (q : Query) : Prop :=
  ∀ rows, db.answer q = some rows →
    ∃ e' names answer,
      Executor.query e c ((Stmt.select q).render d).sql
          (((Stmt.select q).render d).params.map Act.paramDatum) = (e', .ok (names, answer)) ∧
        (answer.toList.map Array.toList).Perm rows ∧ ∀ r ∈ answer.toList, r.size = names.length

/-! ### The meaning of a select and of its count -/

/-- A column that reads a row does not count. -/
theorem SelectItem.counts_eq_false_of_readsRow {c : SelectItem} (h : c.readsRow = true) :
    c.counts = false := by
  cases c with
  | star => rfl
  | expr e a =>
    -- only raw SQL can count, and raw SQL does not read a row
    cases e with
    | raw => simp [SelectItem.readsRow] at h
    | _ => rfl

variable {q : Query} (hops : q.setOps = []) (hhaving : q.having = none) (hlimit : q.limit = none)
  (hoffset : q.offset = none) (hgroup : q.groupBy = [])
include hops hhaving hlimit hoffset hgroup

/-- A select with no set operations, `having`, paging or grouping, whose columns each read a
row, gives one row for each row it keeps. -/
theorem answer_ungrouped (hrow : ∀ c ∈ q.columns, c.readsRow = true) :
    db.answer q =
      some ((db.kept q.ctes q.source q.filter).map fun r => q.columns.flatMap (db.rowCells r)) := by
  have hcounts : q.columns.any SelectItem.counts = false :=
    List.any_eq_false.2 fun c hc => by simp [SelectItem.counts_eq_false_of_readsRow (hrow c hc)]
  simp [answer, hops, hhaving, hlimit, hoffset, hgroup, hcounts, List.all_eq_true.2 hrow]

/-- The count of a select with no set operations, `having`, paging or grouping is one row: the
number of rows the select keeps. -/
theorem answer_counting :
    db.answer q.counting = some [[.integer (db.kept q.ctes q.source q.filter).length]] := by
  have hcount : (SelectItem.expr countAll (some countAlias)).counts = true := rfl
  have hread : (SelectItem.expr countAll (some countAlias)).readsGroup = true := rfl
  simp [answer, Query.counting, hops, hhaving, hlimit, hoffset, hgroup, hcount, hread, groupsOf]
  rfl

omit hops hhaving hlimit hoffset hgroup

variable {db} {σ : Type} [Executor σ] {e : σ} {c : Nat} {d : Dialect}

/-- A select answered by its meaning gives as many rows as the meaning. -/
theorem Answers.length {rows : List (List Datum)} (h : db.Answers e c d q)
    (hq : db.answer q = some rows) :
    ∃ e' names answer,
      Executor.query e c ((Stmt.select q).render d).sql
          (((Stmt.select q).render d).params.map Act.paramDatum) = (e', .ok (names, answer)) ∧
        answer.size = rows.length := by
  obtain ⟨e', names, answer, hquery, hperm, -⟩ := h rows hq
  refine ⟨e', names, answer, hquery, ?_⟩
  rw [← hperm.length_eq, List.length_map, Array.length_toList]

/-- A select whose meaning is one row is answered by that row alone, under one name for each
of its values. -/
theorem Answers.single {row : List Datum} (h : db.Answers e c d q) (hq : db.answer q = some [row]) :
    ∃ e' names answer,
      Executor.query e c ((Stmt.select q).render d).sql
          (((Stmt.select q).render d).params.map Act.paramDatum) = (e', .ok (names, answer)) ∧
        answer.toList.map Array.toList = [row] ∧ names.length = row.length := by
  obtain ⟨e', names, answer, hquery, hperm, hwidth⟩ := h [row] hq
  have hrow : answer.toList.map Array.toList = [row] := List.perm_singleton.1 hperm
  obtain ⟨r, rs, hanswer, hr, -⟩ := List.map_eq_cons_iff.1 hrow
  refine ⟨e', names, answer, hquery, hrow, ?_⟩
  rw [← hwidth r (by rw [hanswer]; exact List.mem_cons_self), ← Array.length_toList, hr]

/-- A database on a connection that answers a select and its count by their standard meaning,
the count also once any other query has run. -/
structure Reads (e : σ) (c : Nat) (d : Dialect) (q : Query) : Prop where
  rows : db.Answers e c d q
  count : db.Answers e c d q.counting
  count_after : ∀ sql params, db.Answers (Executor.query e c sql params).1 c d q.counting

end Relational

end QueryDoc.Sql

namespace QueryDoc.Compile

open Sql

/-! ### The compiled count -/

/-- Combined selects are appended the same whatever the columns and sorting. -/
theorem compileCombines_recolumn {scope : List String} (columns : List SelectItem)
    (orderBy : List OrderItem) (cs : List Combine) :
    ∀ (stmt : Query) (i : Nat),
      compileCombines scope { stmt with columns := columns, orderBy := orderBy } i cs =
        (fun q => { q with columns := columns, orderBy := orderBy }) <$>
          compileCombines scope stmt i cs := by
  induction cs with
  | nil => intro _ _; rfl
  | cons c cs ih =>
    intro stmt i
    obtain ⟨s, op⟩ := c
    unfold compileCombines
    cases compileSelect scope s with
    | error e => rfl
    | ok member =>
      show (if !member.orderBy.isEmpty then _ else _) = (fun q => _) <$> (if _ then _ else _)
      split
      · rfl
      · exact ih { stmt with ctes := _, setOps := _ } (i + 1)

theorem compileCombines_counting {scope : List String} (stmt : Query) (i : Nat) (cs : List Combine) :
    Query.counting <$> compileCombines scope stmt i cs = compileCombines scope stmt.counting i cs :=
  (compileCombines_recolumn _ _ cs stmt i).symm

/-- The count of a select compiles to the select itself with `count(*)` named `total` for its
columns and no sorting. -/
theorem compileSelect_counting (scope : List String) (s : Select) :
    compileSelect scope
        ((s.clearFields.clearSorts).withField (Field.rawAs "count(*)" Facade.countAlias)) =
      Query.counting <$> compileSelect scope s := by
  obtain ⟨ctes, source, fields, joins, filter, groupBys, having, sorts, combines⟩ := s
  simp only [compileSelect, Select.clearFields, Select.clearSorts, Select.withField, map_bind,
    compileCombines_counting]
  rfl

/-- A select with no combined selects compiles to one core: no set operations or paging, its
fields for columns (`*` for none), its group keys for grouping, and no `having` unless it has
one. -/
theorem compileSelect_single {scope : List String} {s : Select} {q : Query}
    (h : compileSelect scope s = .ok q) (hc : s.combines = []) :
    q.setOps = [] ∧ q.limit = none ∧ q.offset = none ∧
      q.columns = (if s.fields.isEmpty then [.star] else s.fields.map compileField) ∧
      q.groupBy = s.groupBys.map compileGroupBy ∧ (s.having = none → q.having = none) := by
  obtain ⟨ctes, source, fields, joins, filter, groupBys, having, sorts, combines⟩ := s
  dsimp only at hc
  subst hc
  unfold compileSelect at h
  iterate 7 obtain ⟨_, -, h⟩ := Result.bind_eq_ok.1 h
  obtain ⟨cond, hcond, h⟩ := Result.bind_eq_ok.1 h
  cases h
  refine ⟨rfl, rfl, rfl, rfl, rfl, fun hnone => ?_⟩
  subst hnone
  cases hcond
  rfl

/-- Fields that are not raw SQL compile to columns that each read a row. -/
theorem readsRow_of_fields {fields : List Field} (hraw : ∀ f ∈ fields, f.raw = false) :
    ∀ c ∈ (if fields.isEmpty then [SelectItem.star] else fields.map compileField), c.readsRow = true := by
  split
  · simp [SelectItem.readsRow]
  · simp only [List.mem_map]
    rintro _ ⟨f, hf, rfl⟩
    simp [compileField, hraw f hf, Expr.columnPath, SelectItem.readsRow]

/-- A compiled select is rendered in the compiler's dialect. -/
theorem Compiler.compile_select (c : Compiler) (s : Select) :
    c.compile (.select s) = (fun q => (Stmt.select q).render c.dialect) <$> compileSelect [] s := by
  simp only [Compiler.compile, compileStatement, bind_map_left]
  cases compileSelect [] s <;> rfl

end QueryDoc.Compile

namespace QueryDoc.Facade

open Store Sql Compile Json

variable {σ : Type}

namespace Act

/-! ### Counting and reading a select -/

section Select

variable [Executor σ] {h : Handle} {select : Select} {q : Sql.Query} {s : Session σ}

/-- The count of a select that copies as itself and compiles is the integer its count's query
gives first, when that query gives its rows under one column name. -/
theorem countRows_of_first {names : List String} {answer : Array (Array Datum)} {n : Int}
    {rest : List (List Datum)} (hclone : select.deepClone = .ok select)
    (hq : compileSelect [] select = .ok q)
    (hanswer : (Executor.query s.engine h.connection
        ((Stmt.select q.counting).render s.compiler.dialect).sql
        (((Stmt.select q.counting).render s.compiler.dialect).params.map paramDatum)).2 =
          .ok (names, answer))
    (hfirst : answer.toList.map Array.toList = [.integer n] :: rest) (hnames : names.length = 1) :
    ((countRows h select).exec s).1 = .ok n := by
  obtain ⟨name, rfl⟩ := List.length_eq_one_iff.1 hnames
  obtain ⟨r, rs, hanswer', hr, -⟩ := List.map_eq_cons_iff.1 hfirst
  have hcompile : s.compiler.compile
      (.select ((select.clearFields.clearSorts).withField (Field.rawAs "count(*)" countAlias))) =
        .ok ((Stmt.select q.counting).render s.compiler.dialect) := by
    rw [Compiler.compile_select, compileSelect_counting, hq]
    rfl
  rw [countRows, exec_bind_ok (by rw [exec_ofResult, hclone]), exec_get_bind,
    hcompile, exec_bind_ok (exec_ofResult _ _), exec_bind_ok (by rw [exec_queryRows, hanswer]; rfl)]
  simp only [hanswer', List.map_cons, hr]
  rfl

/-- In an open transaction, the results of a select are as many as the rows its query gives. -/
theorem getResults_joined_length (ht : s.transaction = some h) {t : RowType} {rows : List Json}
    {s' : Session σ} (hres : (getResults select t).exec s = (.ok rows, s')) :
    ∃ q names answer, compileSelect [] select = .ok q ∧
      (Executor.query s.engine h.connection ((Stmt.select q).render s.compiler.dialect).sql
          (((Stmt.select q).render s.compiler.dialect).params.map paramDatum)).2 =
        .ok (names, answer) ∧ rows.length = answer.size := by
  rw [getResults, exec_bind_ok (exec_document _ _), exec_inScope_joined ht] at hres
  obtain ⟨logs, s₁, hwork⟩ := instrument_eq_ok hres
  rw [exec_get_bind] at hwork
  obtain ⟨c, s₂, hc, hwork⟩ := exec_bind_eq_ok hwork
  obtain ⟨found, s₃, hfound, hdecode⟩ := exec_bind_eq_ok hwork
  rw [exec_ofResult, Compiler.compile_select] at hc
  obtain ⟨hc, rfl⟩ := Prod.mk.inj hc
  cases hq : compileSelect [] select with
  | error e => rw [hq] at hc; cases hc
  | ok q =>
    rw [hq] at hc
    cases hc
    rw [exec_queryRows] at hfound
    -- the query gave rows, or the results would have failed
    rcases hanswer : (Executor.query s.engine h.connection ((Stmt.select q).render s.compiler.dialect).sql
      (((Stmt.select q).render s.compiler.dialect).params.map paramDatum)).2 with _ | ⟨names, answer⟩
    · rw [hanswer] at hfound; cases hfound
    · rw [hanswer] at hfound
      obtain ⟨hfound, rfl⟩ := Prod.mk.inj hfound
      cases hfound
      refine ⟨q, names, answer, rfl, hanswer, ?_⟩
      simp [length_of_decodeRows hdecode]

/-- In an open transaction, the count a select that copies as itself reports is the integer its
count's query gives first, when that query gives its rows under one column name. -/
theorem getTotalNumResults_joined (ht : s.transaction = some h) {names : List String}
    {answer : Array (Array Datum)} {n : Int} {rest : List (List Datum)}
    (hclone : select.deepClone = .ok select) (hq : compileSelect [] select = .ok q)
    (hanswer : (Executor.query s.engine h.connection
        ((Stmt.select q.counting).render s.compiler.dialect).sql
        (((Stmt.select q.counting).render s.compiler.dialect).params.map paramDatum)).2 =
          .ok (names, answer))
    (hfirst : answer.toList.map Array.toList = [.integer n] :: rest) (hnames : names.length = 1) :
    ((getTotalNumResults select).exec s).1 = .ok n := by
  rw [getTotalNumResults, exec_bind_ok (exec_document _ _), exec_inScope_joined ht]
  obtain ⟨logs, hout⟩ := exec_instrument_outcome "get_total_num_results" _ (countRows h select) s
  rw [hout, countRows_of_first (s := { s with logs := logs }) hclone hq hanswer hfirst hnames]
  rfl

/-- In an open transaction, a page asked with its total, of a select that copies as itself,
carries the integer that its select's count query gives first once the page's own query has run, when that query gives its rows under
one column name. -/
theorem getPagedResults_joined_total (ht : s.transaction = some h) {n : Int}
    (hclone : select.deepClone = .ok select) (hq : compileSelect [] select = .ok q)
    (hcount : ∀ sql params, ∃ names answer rest,
      (Executor.query (Executor.query s.engine h.connection sql params).1 h.connection
          ((Stmt.select q.counting).render s.compiler.dialect).sql
          (((Stmt.select q.counting).render s.compiler.dialect).params.map paramDatum)).2 =
        .ok (names, answer) ∧
      answer.toList.map Array.toList = [.integer n] :: rest ∧ names.length = 1)
    {pageNum pageSize : Nat} {t : RowType} {page : Page Json} {s' : Session σ}
    (hpage : (getPagedResults select pageNum pageSize true t).exec s = (.ok page, s')) :
    ∃ items, page = ⟨pageNum, pageSize, items, some n.toNat⟩ := by
  rw [getPagedResults, exec_bind_ok (exec_document _ _), exec_inScope_joined ht] at hpage
  obtain ⟨logs, s₁, hwork⟩ := instrument_eq_ok hpage
  obtain ⟨⟨limit, offset⟩, s₂, hbounds, hwork⟩ := exec_bind_eq_ok hwork
  obtain ⟨-, rfl⟩ := Prod.mk.inj ((exec_ofResult _ _).symm.trans hbounds)
  rw [exec_get_bind] at hwork
  obtain ⟨c, s₃, hc, hwork⟩ := exec_bind_eq_ok hwork
  obtain ⟨-, rfl⟩ := Prod.mk.inj ((exec_ofResult _ _).symm.trans hc)
  obtain ⟨found, s₄, hfound, hwork⟩ := exec_bind_eq_ok hwork
  obtain ⟨items, s₅, hitems, hwork⟩ := exec_bind_eq_ok hwork
  rw [decodeRows, exec_mapM_ofResult] at hitems
  obtain ⟨-, rfl⟩ := Prod.mk.inj hitems
  rw [exec_queryRows] at hfound
  obtain ⟨-, hs₄⟩ := Prod.mk.inj hfound
  -- the count runs on the engine as the page's query left it
  obtain ⟨total, s₆, htotal, hwork⟩ := exec_bind_eq_ok hwork
  obtain ⟨names, answer, rest, hanswer, hfirst, hnames⟩ := hcount c.sql (c.params.map paramDatum)
  have hn := countRows_of_first (s := s₄) hclone hq (by rw [← hs₄]; exact hanswer) hfirst hnames
  rw [htotal] at hn
  cases hn
  dsimp only at hwork
  split at hwork
  · -- a negative count is refused
    rw [exec_bind_error (exec_throw _ _)] at hwork
    cases hwork
  · rw [exec_pure] at hwork
    cases hwork
    exact ⟨items, rfl⟩

end Select

end Act

/-! ### The count and the results -/

/-- In an open transaction, a select that neither groups, filters groups, combines selects nor
selects raw SQL is counted as the number of rows its results have, and a page of it asked with
its total carries that count with the pages it fills, when the database answers the select and
its count by their standard meaning (the count also after the page's query) and the select's
doubles are finite. The results may be decoded to any type. -/
theorem count_matches_results_ungrouped [Executor σ] {ρ : Type} (db : Relational ρ) {s : Session σ}
    {h : Handle} (ht : s.transaction = some h) {select : Select}
    (hfit : Every IntFits select.toJson) (hfin : Every FloatFinite select.toJson)
    (hgroup : select.groupBys = [])
    (hhaving : select.having = none) (hcombines : select.combines = [])
    (hraw : ∀ f ∈ select.fields, f.raw = false)
    (hdb : ∀ q, compileSelect [] select = .ok q →
      db.Reads s.engine h.connection s.compiler.dialect q)
    {t : RowType} {rows : List Json} {s' : Session σ}
    (hres : (Act.getResults select t).exec s = (.ok rows, s')) :
    ((Act.getTotalNumResults select).exec s).1 = .ok rows.length ∧
      ∀ (pageNum pageSize : Nat) (page : Page Json) (s'' : Session σ),
        (Act.getPagedResults select pageNum pageSize true t).exec s = (.ok page, s'') →
          page.totals = some (rows.length, totalPages rows.length pageSize) := by
  obtain ⟨q, names, answer, hq, hanswer, hlen⟩ := Act.getResults_joined_length ht hres
  -- the count is made on the select's copy, which is the select itself
  have hclone := Select.deepClone_eq select hfit hfin
  obtain ⟨hops, hlimit, hoffset, hcolumns, hgroupBy, hhaving'⟩ := compileSelect_single hq hcombines
  have hgroup' : q.groupBy = [] := by rw [hgroupBy, hgroup]; rfl
  have hrow : ∀ c ∈ q.columns, c.readsRow = true := hcolumns ▸ readsRow_of_fields hraw
  have hreads := hdb q hq
  -- the results are the rows the select keeps
  have hrows : rows.length = (db.kept q.ctes q.source q.filter).length := by
    obtain ⟨e', names', answer', hquery, hsize⟩ := hreads.rows.length
      (db.answer_ungrouped hops (hhaving' hhaving) hlimit hoffset hgroup' hrow)
    rw [hquery] at hanswer
    cases hanswer
    rw [hlen, hsize, List.length_map]
  -- the count is one row holding that number, before and after any other query
  have hcount := db.answer_counting hops (hhaving' hhaving) hlimit hoffset hgroup'
  constructor
  · obtain ⟨e', names', answer', hquery, hfirst, hnames⟩ := hreads.count.single hcount
    rw [Act.getTotalNumResults_joined ht hclone hq (by rw [hquery]) hfirst hnames, hrows]
  · intro pageNum pageSize page s'' hpage
    obtain ⟨items, rfl⟩ := Act.getPagedResults_joined_total (n := (db.kept q.ctes q.source q.filter).length)
      ht hclone hq (fun sql params => by
      obtain ⟨e', names', answer', hquery, hfirst, hnames⟩ :=
        (hreads.count_after sql params).single hcount
      exact ⟨names', answer', [], by rw [hquery], hfirst, hnames⟩) hpage
    simp [Page.totals, hrows]

/-! ### Small tables -/

/-- An executor whose every query gives the same rows under the same names, and which runs
everything else with no effect. -/
structure Fixed where
  names : List String
  rows : Array (Array Datum)

instance : Executor Fixed where
  connect e _ := (e, 0)
  close e _ := e
  control e _ _ := (e, .ok ())
  execute e _ _ _ := (e, .ok 0)
  query e _ _ _ := (e, .ok (e.names, e.rows))

/-- An executor that always gives the same rows answers by its meaning every select whose
meaning is those rows, each with one value for each name. -/
theorem Fixed.answers {ρ : Type} {db : Relational ρ} {e : Fixed} {c : Nat} {d : Dialect}
    {q : Sql.Query} (hq : db.answer q = some (e.rows.toList.map Array.toList))
    (hwidth : ∀ r ∈ e.rows.toList, r.size = e.names.length) : db.Answers e c d q := by
  intro rows hrows
  rw [hq] at hrows
  cases hrows
  exact ⟨e, e.names, e.rows, rfl, List.Perm.refl _, hwidth⟩

/-- Such an executor reads a select and its count by their meaning when both meanings are its
rows. -/
theorem Fixed.reads {ρ : Type} {db : Relational ρ} {e : Fixed} {c : Nat} {d : Dialect}
    {q : Sql.Query} (hq : db.answer q = some (e.rows.toList.map Array.toList))
    (hcount : db.answer q.counting = some (e.rows.toList.map Array.toList))
    (hwidth : ∀ r ∈ e.rows.toList, r.size = e.names.length) : db.Reads e c d q :=
  ⟨Fixed.answers hq hwidth, Fixed.answers hcount hwidth, fun _ _ => Fixed.answers hcount hwidth⟩

/-- A session in a transaction on connection `0` of an executor that answers these rows. -/
def fixedSession (names : List String) (rows : Array (Array Datum)) : Session Fixed :=
  ⟨⟨names, rows⟩, [0], .off, ⟨.sqlite⟩, some ⟨":memory:", some 0⟩, ⟨":memory:", some 0⟩,
    some ⟨0, false⟩, #[]⟩

/-- A table `t` of one row, whose every column holds `1`. -/
def oneRow : Relational Nat where
  kept _ _ _ := [1]
  column _ _ := .integer 1
  star _ := [.integer 1]
  sameKeys _ _ _ := true

/-- The ids of `t`. -/
def allIds : Select := { Select.ofTable (.new "t") with fields := [.new "id"] }

theorem one_row_counted :
    (fixedSession ["id"] #[#[.integer 1]]).transaction = some ⟨0, false⟩ ∧
      Every IntFits allIds.toJson ∧ Every FloatFinite allIds.toJson ∧ allIds.groupBys = [] ∧
      allIds.having = none ∧
      allIds.combines = [] ∧ (∀ f ∈ allIds.fields, f.raw = false) ∧
      (∀ q, compileSelect [] allIds = .ok q →
        oneRow.Reads (fixedSession ["id"] #[#[.integer 1]]).engine 0 .sqlite q) ∧
      (Act.getResults allIds .row).exec (fixedSession ["id"] #[#[.integer 1]]) =
        (.ok [.obj [("id", .int 1)]],
          ((Act.getResults allIds .row).exec (fixedSession ["id"] #[#[.integer 1]])).2) ∧
      ((Act.getTotalNumResults allIds).exec (fixedSession ["id"] #[#[.integer 1]])).1 =
        .ok [Json.obj [("id", .int 1)]].length ∧
      ∀ (pageNum pageSize : Nat) (page : Page Json) (s'' : Session Fixed),
        (Act.getPagedResults allIds pageNum pageSize true .row).exec
            (fixedSession ["id"] #[#[.integer 1]]) = (.ok page, s'') →
          page.totals = some (1, totalPages 1 pageSize) := by
  have hfit : Every IntFits allIds.toJson := by
    simp [allIds, Select.ofTable, Select.empty, Select.toJson, Every, FieldsEvery, ItemsEvery,
      IntFits, memberIf, Source.optMember, Source.toJson, Filter.optMember, Table.new,
      Table.toJson, Field.new, Field.toJson]
  have hfin : Every FloatFinite allIds.toJson := by
    simp [allIds, Select.ofTable, Select.empty, Select.toJson, Every, FieldsEvery, ItemsEvery,
      FloatFinite, memberIf, Source.optMember, Source.toJson, Filter.optMember, Table.new,
      Table.toJson, Field.new, Field.toJson]
  have hraw : ∀ f ∈ allIds.fields, f.raw = false := by decide
  have hanswers : ∀ q, compileSelect [] allIds = .ok q →
      oneRow.Reads (fixedSession ["id"] #[#[.integer 1]]).engine 0 .sqlite q := by
    intro q hq
    rw [(rfl : compileSelect [] allIds = .ok _)] at hq
    cases hq
    exact Fixed.reads rfl rfl (by decide)
  have hres : (Act.getResults allIds .row).exec (fixedSession ["id"] #[#[.integer 1]]) =
      (.ok [.obj [("id", .int 1)]],
        ((Act.getResults allIds .row).exec (fixedSession ["id"] #[#[.integer 1]])).2) := rfl
  exact ⟨rfl, hfit, hfin, rfl, rfl, rfl, hraw, hanswers, hres,
    count_matches_results_ungrouped oneRow rfl hfit hfin rfl rfl rfl hraw hanswers hres⟩

/-- A table `t` of seven rows and one column, `g`, holding `3` in the first three rows and `4`
in the others; rows are the same for grouping when they hold the same value. -/
def sevenRows : Relational Nat where
  kept _ _ _ := [1, 2, 3, 4, 5, 6, 7]
  column r _ := .integer (if r ≤ 3 then 3 else 4)
  star r := [.integer (if r ≤ 3 then 3 else 4)]
  sameKeys _ a b := decide (a ≤ 3) == decide (b ≤ 3)

/-- The values of `g` in `t`, one row for each. -/
def valuesOfG : Select :=
  { Select.ofTable (.new "t") with fields := [.new "g"], groupBys := [⟨"g", false⟩] }

/-- Grouped by `g`, the seven rows are two groups: three rows holding `3` and four holding `4`.
Read by its standard meaning, the select gives two rows and its count gives the sizes of the
groups; the count reported is the size of the first group, three, not the two rows. -/
theorem grouped_count_is_group_size :
    (∀ q, compileSelect [] valuesOfG = .ok q →
      sevenRows.answer q = some [[.integer 3], [.integer 4]] ∧
        sevenRows.answer q.counting = some [[.integer 3], [.integer 4]] ∧
        sevenRows.Reads (fixedSession ["g"] #[#[.integer 3], #[.integer 4]]).engine 0 .sqlite q) ∧
      ((Act.getResults valuesOfG .row).exec (fixedSession ["g"] #[#[.integer 3], #[.integer 4]])).1 =
        .ok [.obj [("g", .int 3)], .obj [("g", .int 4)]] ∧
      ((Act.getTotalNumResults valuesOfG).exec
        (fixedSession ["g"] #[#[.integer 3], #[.integer 4]])).1 = .ok 3 := by
  refine ⟨fun q hq => ?_, rfl, rfl⟩
  rw [(rfl : compileSelect [] valuesOfG = .ok _)] at hq
  cases hq
  have hrows : (fixedSession ["g"] #[#[.integer 3], #[.integer 4]]).engine.rows.toList.map
      Array.toList = [[.integer 3], [.integer 4]] := rfl
  refine ⟨?_, ?_, Fixed.reads ?_ ?_ (by decide)⟩
  · rfl
  · rfl
  · rw [hrows]
    rfl
  · rw [hrows]
    rfl

end QueryDoc.Facade
