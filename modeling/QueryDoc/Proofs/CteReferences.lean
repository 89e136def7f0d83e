import Mathlib.Data.String.Basic
import QueryDoc.Proofs.CompileDefects

/-!
The compiler with references to common table expressions written by a parameter.

Compiled SQL reads a common table expression by its name alone (`cteRef`), the same way it
reads a table of that name, so the output does not show where a reference came from. The
compiler below is the statement compiler with that one reference made a parameter `ref`; at
`cteRef` it is the compiler itself (`compileStatementWith_cteRef`). Written as `cteMark`,
which no table's reference equals, the references made for common table expressions are
exactly the marked ones. Whether a statement compiles does not depend on `ref`
(`compileStatementWith_transfer`).
-/

namespace QueryDoc.Compile

open Sql

/-! ### The compiler, with the reference to a common table expression as a parameter

Each function is its namesake without `With`, with `ref` passed along; only
`compileSourceWith` reads it. -/

mutual

def toPredicateWith (ref : String → TableRef) (scope : List String) (name : String)
    (value : Value) : Relation → Result Predicate
  | relation@(.equalTo) | relation@(.greaterThan) | relation@(.greaterThanOrEqualTo)
  | relation@(.lessThan) | relation@(.lessThanOrEqualTo) =>
    if relation == .equalTo && value.isNull then pure (Predicate.null name)
    else
      match comparisonOperator relation with
      | some op => do
        let v ← Value.toParam value
        pure (Predicate.compare name op v)
      | none => invalid (relation.name ++ " is not a comparison")
  | .isIn =>
    match value with
    | .query s => do
      let q ← compileSelectWith ref scope s
      pure (Predicate.inQuery name q)
    | .list vs => do
      let ps ← vs.mapM Value.toParam
      pure (Predicate.isIn name ps)
    | .null => pure (Predicate.isIn name [])
    | _ => invalid ("In on '" ++ name ++ "' needs a list or a nested select")
  | .nullValue => pure (Predicate.null name)
  | .trueValue => pure (Predicate.isTrue name)
  | .exists =>
    match value with
    | .query s => do
      let q ← compileSelectWith ref scope s
      pure (Predicate.exists q)
    | _ => invalid "Exists needs a nested select as its value"
  | .startsWith => likeCondition name .startsWith value
  | .endsWith => likeCondition name .endsWith value
  | .contains => likeCondition name .contains value

def appendExpressionWith (ref : String → TableRef) (scope : List String) (acc : Option Expr)
    (c : Connective) : Expression → Result (Option Expr)
  | ⟨name, value, relation, _, raw⟩ =>
    if raw then
      if c.isNegated then
        invalid ("raw expression '" ++ name ++ "' cannot be negated with " ++ c.name)
      else do
        let bindings ← (value.asList?.getD []).mapM Value.toParam
        pushRaw acc c name bindings
    else do
      let p ← toPredicateWith ref scope name value relation
      pure (push acc c p.toExpr)

def appendExpressionsWith (ref : String → TableRef) (scope : List String) (acc : Option Expr)
    (first : Bool) : List Expression → Result (Option Expr × Bool)
  | [] => pure (acc, first)
  | e :: es => do
    let acc ←
      appendExpressionWith ref scope acc (if first then e.connective.toAnd else e.connective) e
    appendExpressionsWith ref scope acc false es

def appendAllAndWith (ref : String → TableRef) (scope : List String) (acc : Option Expr) :
    List Expression → Result (Option Expr)
  | [] => pure acc
  | e :: es => do
    let acc ← appendExpressionWith ref scope acc e.connective.toAnd e
    appendAllAndWith ref scope acc es

def applyFilterWith (ref : String → TableRef) (scope : List String) (acc : Option Expr) :
    Filter → Result (Option Expr)
  | ⟨expressions, filters, c⟩ => do
    let (acc, first) ← appendExpressionsWith ref scope acc true expressions
    applyChildrenWith ref scope acc first c filters

def applyChildrenWith (ref : String → TableRef) (scope : List String) (acc : Option Expr)
    (first : Bool) (c : Connective) : List Filter → Result (Option Expr)
  | [] => pure acc
  | f :: fs => do
    let group ← applyFilterWith ref scope none f
    applyChildrenWith ref scope (pushGroup acc (if first then .and else c) group) false c fs

def compileConditionWith (ref : String → TableRef) (scope : List String) :
    Option Filter → Result (Option Expr)
  | none => pure none
  | some f => applyFilterWith ref scope none f

def declareCteWith (ref : String → TableRef) (d : Declared) : Cte → Result Declared
  | ⟨aliasName, query⟩ =>
    if d.1.contains aliasName then pure d
    else do
      let body ← match query with
        | .select s => do
          let q ← compileSelectWith ref d.1 s
          pure (CteBody.select q)
        | .rawSql sql => pure (CteBody.raw sql)
      pure (d.1 ++ [aliasName], d.2 ++ [⟨aliasName, body⟩])

def declareCtesWith (ref : String → TableRef) (d : Declared) : List Cte → Result Declared
  | [] => pure d
  | c :: cs => do
    let d ← declareCteWith ref d c
    declareCtesWith ref d cs

def declareSourceCteWith (ref : String → TableRef) (d : Declared) :
    Option Source → Result Declared
  | some (.cte c) => declareCteWith ref d c
  | _ => pure d

def declareJoinCtesWith (ref : String → TableRef) (d : Declared) : List Join → Result Declared
  | [] => pure d
  | ⟨.cte c, _, _, _⟩ :: js => do
    let d ← declareCteWith ref d c
    declareJoinCtesWith ref d js
  | _ :: js => declareJoinCtesWith ref d js

def declareCombineCtesWith (ref : String → TableRef) (d : Declared) :
    List Combine → Result Declared
  | [] => pure d
  | ⟨⟨ctes, source, _, joins, _, _, _, _, _⟩, _⟩ :: cs => do
    let d ← declareCtesWith ref d ctes
    let d ← declareSourceCteWith ref d source
    let d ← declareJoinCtesWith ref d joins
    declareCombineCtesWith ref d cs

/-- A source: a table by its reference, a derived table compiled in the scope, and a common
table expression by the reference `ref` writes for its name. -/
def compileSourceWith (ref : String → TableRef) (scope : List String) :
    Source → Result FromItem
  | .table t => pure (.table (tableRef t))
  | .derived ⟨s, aliasName⟩ => do
    let q ← compileSelectWith ref scope s
    pure (.subquery q aliasName)
  | .cte ⟨aliasName, _⟩ => pure (.table (ref aliasName))

def compileOptSourceWith (ref : String → TableRef) (scope : List String) :
    Option Source → Result (Option FromItem)
  | none => pure none
  | some s => do
    let f ← compileSourceWith ref scope s
    pure (some f)

def compileJoinsWith (ref : String → TableRef) (scope : List String) (left : Option FromItem) :
    List Join → Result (Option FromItem)
  | [] => pure left
  | ⟨target, on, expressions, kind⟩ :: js => do
    let l ← match left with
      | some l => pure l
      | none => invalid "a select with joins needs a from source"
    let right ← compileSourceWith ref scope target
    let cond ← if on.raw then appendExpressionWith ref scope none on.connective.toAnd on
      else do
        let e ← joinComparison on
        pure (push none on.connective.toAnd e)
    let cond ← appendAllAndWith ref scope cond expressions
    compileJoinsWith ref scope (some (.join l kind right cond)) js

def compileCombinesWith (ref : String → TableRef) (scope : List String) (stmt : Query)
    (i : Nat) : List Combine → Result Query
  | [] => pure stmt
  | ⟨s, op⟩ :: cs => do
    let member ← compileSelectWith ref scope s
    if !member.orderBy.isEmpty then
      invalid "a combined select cannot be sorted on its own; sort the outer select"
    else
      let ctes := hoistCtes stmt.ctes member.ctes
      let member := { member with ctes := [] }
      let member := if member.setOps.isEmpty then member else wrapCombined member i
      compileCombinesWith ref scope
        { stmt with ctes := ctes, setOps := stmt.setOps ++ [⟨op, member⟩] } (i + 1) cs

/-- A select, with the references to common table expressions that `ref` writes. -/
def compileSelectWith (ref : String → TableRef) (scope : List String) : Select → Result Query
  | ⟨ctes, source, fields, joins, filter, groupBys, having, sorts, combines⟩ => do
    let d ← declareCtesWith ref (scope, []) ctes
    let d ← declareSourceCteWith ref d source
    let d ← declareJoinCtesWith ref d joins
    let d ← declareCombineCtesWith ref d combines
    let scope := d.1
    let source ← compileOptSourceWith ref scope source
    let source ← compileJoinsWith ref scope source joins
    let filter ← compileConditionWith ref scope filter
    let having ← compileConditionWith ref scope having
    let stmt : Query :=
      { ctes := d.2
        columns := if fields.isEmpty then [.star] else fields.map compileField
        source := source
        filter := filter
        groupBy := groupBys.map compileGroupBy
        having := having
        setOps := []
        orderBy := sorts.map compileSort
        limit := none
        offset := none }
    compileCombinesWith ref scope stmt 0 combines

end

def compileFlatConditionWith (ref : String → TableRef) (es : List Expression) :
    Result (Option Expr) := do
  let (acc, _) ← appendExpressionsWith ref [] none true es
  pure acc

def compileInsertWith (ref : String → TableRef) (s : Insert) : Result InsertStmt :=
  let table := tableRef s.table
  match s.query, s.fields.isEmpty with
  | some _, false => invalid "an insert takes either field values or a query, not both"
  | none, true => invalid "an insert needs field values or a query"
  | none, false => do
    let row ← s.fields.mapM fun f => do
      let p ← Value.toParam f.value
      pure (Expr.bound p)
    pure ⟨[], table, s.fields.map (·.name), .values [row]⟩
  | some q, true =>
    if q.fields.isEmpty then
      invalid "an insert from a query needs the query to project its fields"
    else do
      let compiled ← compileSelectWith ref [] q
      pure ⟨compiled.ctes, table, q.fields.map Field.outputName,
        .query { compiled with ctes := [] }⟩

def compileUpdateWith (ref : String → TableRef) (s : Update) : Result UpdateStmt :=
  if s.fields.isEmpty then invalid "an update needs at least one field"
  else do
    let set ← s.fields.mapM fun f => do
      let p ← Value.toParam f.value
      pure (f.name, Expr.bound p)
    let filter ← compileFlatConditionWith ref s.filters
    pure ⟨tableRef s.table, set, filter⟩

def compileDeleteWith (ref : String → TableRef) (s : Delete) : Result DeleteStmt := do
  let filter ← compileFlatConditionWith ref s.filters
  pure ⟨tableRef s.table, filter⟩

/-- A statement, with the references to common table expressions that `ref` writes. -/
def compileStatementWith (ref : String → TableRef) : Statement → Result Stmt
  | .select s => .select <$> compileSelectWith ref [] s
  | .insert s => .insert <$> compileInsertWith ref s
  | .update s => .update <$> compileUpdateWith ref s
  | .delete s => .delete <$> compileDeleteWith ref s

/-! ### At `cteRef` it is the compiler -/

theorem compileSelectWith_cteRef : compileSelectWith cteRef = compileSelect := by
  delta compileSelectWith compileSelect
  rfl

theorem compileFlatConditionWith_cteRef :
    compileFlatConditionWith cteRef = compileFlatCondition := by
  delta compileFlatConditionWith compileFlatCondition appendExpressionsWith appendExpressions
  rfl

theorem compileInsertWith_cteRef : compileInsertWith cteRef = compileInsert := by
  delta compileInsertWith compileInsert compileSelectWith compileSelect
  rfl

theorem compileStatementWith_cteRef : compileStatementWith cteRef = compileStatement := by
  funext s
  cases s <;> simp only [compileStatementWith, compileStatement, compileInsertWith_cteRef,
    compileUpdateWith, compileUpdate, compileDeleteWith, compileDelete, compileSelectWith_cteRef,
    compileFlatConditionWith_cteRef]

end QueryDoc.Compile

namespace QueryDoc.Sql

open Compile

/-- A declaration's body compiled, in `scope`, from the query of a common table expression:
a select compiled there, or SQL text kept as it is. -/
def CteBody.CompiledIn (ref : String → TableRef) (scope : List String) :
    CteQuery → CteBody → Prop
  | .select s, .select q => compileSelectWith ref scope s = .ok q
  | .rawSql sql, .raw text => text = sql
  | _, _ => False

/-- A declaration made for a common table expression: it carries the expression's name, and
its body is compiled from the expression's query in some scope. -/
def CteDef.CompiledFrom (ref : String → TableRef) (d : CteDef) (c : Cte) : Prop :=
  d.name = c.aliasName ∧ ∃ scope, CteBody.CompiledIn ref scope c.query d.body

/-! ### Marked references -/

theorem splitOnAux_length_gt (s sep : String) (b i j : String.Pos.Raw) (r : List String) :
    r.length < (String.splitOnAux s sep b i j r).length := by
  fun_induction String.splitOnAux s sep b i j r with
  | case1 => simp +zetaDelta
  | case2 => grind
  | case3 => grind
  | case4 => grind

theorem dot_append_eq (n : String) : "." ++ n = String.ofList ([] ++ '.' :: n.toList) := by
  apply String.toList_injective
  simp

/-- A name that starts with a dot splits at it into at least two parts. -/
theorem splitOn_dot_append (n : String) : 2 ≤ (("." ++ n).splitOn ".").length := by
  rw [String.splitOn, if_neg (by decide), String.splitOnAux, dot_append_eq n]
  have hend : ¬ String.Pos.Raw.atEnd (String.ofList ([] ++ '.' :: n.toList)) 0 := by
    rw [show (0 : String.Pos.Raw) = ⟨String.utf8Len []⟩ from rfl, String.atEnd_of_valid]
    simp
  have hget : String.Pos.Raw.get (String.ofList ([] ++ '.' :: n.toList)) 0 = '.' :=
    String.get_of_valid [] _
  rw [if_neg hend, if_pos (by rw [hget]; decide)]
  dsimp only
  rw [if_pos (by decide)]
  exact splitOnAux_length_gt _ _ _ _ _ [_]

/-- An unqualified table name never starts with a dot: a dot would have split it. -/
theorem TableName.parse_ne_dotted (name n : String) :
    TableName.parse name ≠ .quoted none ("." ++ n) := by
  unfold TableName.parse
  -- an unqualified name is the whole name, which splits at its leading dot
  have hsplit : ∀ parts, ("." ++ n).splitOn "." = parts → 2 ≤ parts.length := fun parts h =>
    h ▸ splitOn_dot_append n
  split
  next h =>
    intro heq
    cases heq
    simpa using hsplit _ h
  next h =>
    intro heq
    cases heq
    simpa using hsplit _ h
  next => exact fun h => nomatch h

end QueryDoc.Sql

namespace QueryDoc.Compile

open Sql Result.Succeeds

/-- What declaring a common table expression does: nothing if its name is declared already;
otherwise its name and a declaration with a body compiled in the scope so far are added. -/
theorem declareCteWith_ok {ref : String → TableRef} {d d' : Declared} {c : Cte}
    (h : declareCteWith ref d c = .ok d') :
    (c.aliasName ∈ d.1 ∧ d' = d) ∨
      (c.aliasName ∉ d.1 ∧ ∃ body, CteBody.CompiledIn ref d.1 c.query body ∧
        d' = (d.1 ++ [c.aliasName], d.2 ++ [⟨c.aliasName, body⟩])) := by
  obtain ⟨aliasName, query⟩ := c
  unfold declareCteWith at h
  split at h
  next hin =>
    cases h
    exact .inl ⟨by simpa using hin, rfl⟩
  next hin =>
    dsimp only at h
    have hfresh : aliasName ∉ d.1 := by simpa using hin
    cases query with
    | select s =>
      obtain ⟨q, hq, h⟩ := Result.bind_eq_ok.1 h
      cases h
      exact .inr ⟨hfresh, .select q, hq, rfl⟩
    | rawSql sql =>
      cases h
      exact .inr ⟨hfresh, .raw sql, rfl, rfl⟩

/-- A reference to a common table expression that no table's reference equals: the name
behind a dot, as a single unqualified name, which `TableName.parse` never gives. -/
def cteMark (aliasName : String) : TableRef := ⟨.quoted none ("." ++ aliasName), none⟩

theorem tableRef_ne_cteMark (t : Table) (n : String) : tableRef t ≠ cteMark n := by
  unfold tableRef
  cases t.aliasName with
  | some a =>
    intro h
    simpa [TableRef.withAlias, cteMark] using congrArg TableRef.aliasName h
  | none =>
    dsimp only
    split
    · intro h
      simpa [TableRef.ofRaw, cteMark] using congrArg TableRef.name h
    · intro h
      exact TableName.parse_ne_dotted t.name n (congrArg TableRef.name h)

theorem cteMark_injective : Function.Injective cteMark := by
  intro a b h
  simpa [cteMark] using h

/-! ### Success does not depend on how a reference is written -/

section Transfer

variable {ref ref' : String → TableRef}

theorem pushRaw_transfer {acc r : Option Expr} (acc' : Option Expr) {c : Connective}
    {sql : String} {bindings : List Param} (h : pushRaw acc c sql bindings = .ok r) :
    (pushRaw acc' c sql bindings).Succeeds :=
  (pushRaw_succeeds_iff acc' c sql bindings).2
    ((pushRaw_succeeds_iff acc c sql bindings).1 ⟨r, h⟩)

mutual

theorem toPredicateWith_transfer (scope : List String) (name : String) :
    ∀ (value : Value) (relation : Relation) {p : Predicate},
      toPredicateWith ref scope name value relation = .ok p →
      (toPredicateWith ref' scope name value relation).Succeeds
  | value, .equalTo, p, h | value, .greaterThan, p, h | value, .greaterThanOrEqualTo, p, h
  | value, .lessThan, p, h | value, .lessThanOrEqualTo, p, h => ⟨p, by
    unfold toPredicateWith at h ⊢
    exact h⟩
  | .query s, .isIn, _, h => by
    unfold toPredicateWith at h ⊢
    obtain ⟨q, hq, -⟩ := Result.bind_eq_ok.1 h
    obtain ⟨q', hq', -⟩ := compileSelectWith_transfer scope s hq
    exact of_bind ⟨q', hq'⟩ fun _ _ => ok _
  | .list _, .isIn, p, h | .null, .isIn, p, h | .bool _, .isIn, p, h | .integer _, .isIn, p, h
  | .float _, .isIn, p, h | .text _, .isIn, p, h | _, .nullValue, p, h | _, .trueValue, p, h
  | .null, .exists, p, h | .bool _, .exists, p, h | .integer _, .exists, p, h
  | .float _, .exists, p, h | .text _, .exists, p, h | .list _, .exists, p, h
  | _, .startsWith, p, h | _, .endsWith, p, h | _, .contains, p, h => ⟨p, by
    unfold toPredicateWith at h ⊢
    exact h⟩
  | .query s, .exists, _, h => by
    unfold toPredicateWith at h ⊢
    obtain ⟨q, hq, -⟩ := Result.bind_eq_ok.1 h
    obtain ⟨q', hq', -⟩ := compileSelectWith_transfer scope s hq
    exact of_bind ⟨q', hq'⟩ fun _ _ => ok _

theorem appendExpressionWith_transfer (scope : List String) (c : Connective) :
    ∀ (acc acc' : Option Expr) (e : Expression) {r : Option Expr},
      appendExpressionWith ref scope acc c e = .ok r →
      (appendExpressionWith ref' scope acc' c e).Succeeds
  | acc, acc', ⟨name, value, relation, c', true⟩, _, h => by
    unfold appendExpressionWith at h ⊢
    rw [if_pos rfl] at h ⊢
    split at h
    · cases h
    · rename_i hneg
      rw [if_neg hneg]
      obtain ⟨bindings, hbindings, h⟩ := Result.bind_eq_ok.1 h
      rw [hbindings, Result.ok_bind]
      exact pushRaw_transfer acc' h
  | acc, acc', ⟨name, value, relation, c', false⟩, _, h => by
    unfold appendExpressionWith at h ⊢
    rw [if_neg Bool.false_ne_true] at h ⊢
    obtain ⟨p, hp, -⟩ := Result.bind_eq_ok.1 h
    exact of_bind (toPredicateWith_transfer scope name value relation hp) fun _ _ => ok _

theorem appendExpressionsWith_transfer (scope : List String) :
    ∀ (acc acc' : Option Expr) (first : Bool) (es : List Expression) {r : Option Expr × Bool},
      appendExpressionsWith ref scope acc first es = .ok r →
      ∃ r', appendExpressionsWith ref' scope acc' first es = .ok r' ∧ r'.2 = r.2
  | _, acc', first, [], _, h => by
    cases h
    exact ⟨(acc', first), rfl, rfl⟩
  | acc, acc', first, e :: es, _, h => by
    obtain ⟨a, ha, h⟩ := Result.bind_eq_ok.1 h
    obtain ⟨a', ha'⟩ := appendExpressionWith_transfer scope _ acc acc' e ha
    obtain ⟨r', hr', hsecond⟩ := appendExpressionsWith_transfer scope a a' false es h
    refine ⟨r', ?_, hsecond⟩
    unfold appendExpressionsWith
    rw [ha', Result.ok_bind]
    exact hr'

theorem appendAllAndWith_transfer (scope : List String) :
    ∀ (acc acc' : Option Expr) (es : List Expression) {r : Option Expr},
      appendAllAndWith ref scope acc es = .ok r → (appendAllAndWith ref' scope acc' es).Succeeds
  | _, acc', [], _, _ => ok acc'
  | acc, acc', e :: es, _, h => by
    obtain ⟨a, ha, h⟩ := Result.bind_eq_ok.1 h
    unfold appendAllAndWith
    exact of_bind (appendExpressionWith_transfer scope _ acc acc' e ha) fun a' _ =>
      appendAllAndWith_transfer scope a a' es h

theorem applyFilterWith_transfer (scope : List String) :
    ∀ (acc acc' : Option Expr) (f : Filter) {r : Option Expr},
      applyFilterWith ref scope acc f = .ok r → (applyFilterWith ref' scope acc' f).Succeeds
  | acc, acc', ⟨es, fs, c⟩, _, h => by
    obtain ⟨⟨a, first⟩, ha, h⟩ := Result.bind_eq_ok.1 h
    obtain ⟨⟨a', first'⟩, ha', hfirst⟩ :=
      appendExpressionsWith_transfer scope acc acc' true es ha
    cases hfirst
    unfold applyFilterWith
    rw [ha', Result.ok_bind]
    exact applyChildrenWith_transfer scope a a' first c fs h

theorem applyChildrenWith_transfer (scope : List String) :
    ∀ (acc acc' : Option Expr) (first : Bool) (c : Connective) (fs : List Filter)
      {r : Option Expr}, applyChildrenWith ref scope acc first c fs = .ok r →
      (applyChildrenWith ref' scope acc' first c fs).Succeeds
  | _, acc', _, _, [], _, _ => ok acc'
  | acc, acc', first, c, f :: fs, _, h => by
    obtain ⟨g, hg, h⟩ := Result.bind_eq_ok.1 h
    unfold applyChildrenWith
    exact of_bind (applyFilterWith_transfer scope none none f hg) fun _ _ =>
      applyChildrenWith_transfer scope _ _ false c fs h

theorem compileConditionWith_transfer (scope : List String) :
    ∀ (f : Option Filter) {r : Option Expr}, compileConditionWith ref scope f = .ok r →
      (compileConditionWith ref' scope f).Succeeds
  | none, _, _ => ok none
  | some f, _, h => applyFilterWith_transfer scope none none f h

theorem declareCteWith_transfer :
    ∀ (d e : Declared) (c : Cte) {d' : Declared}, d.1 = e.1 →
      declareCteWith ref d c = .ok d' →
      ∃ e', declareCteWith ref' e c = .ok e' ∧ d'.1 = e'.1
  | d, e, ⟨aliasName, .select s⟩, _, hde, h => by
    unfold declareCteWith
    rcases declareCteWith_ok h with ⟨hin, rfl⟩ | ⟨hfresh, body, hbody, rfl⟩
    · rw [if_pos (by simpa [← hde] using hin)]
      exact ⟨e, rfl, hde⟩
    · cases body with
      | select q =>
        obtain ⟨q', hq', -⟩ := compileSelectWith_transfer d.1 s hbody
        rw [if_neg (by simpa [← hde] using hfresh)]
        dsimp only
        rw [← hde, hq', Result.ok_bind]
        exact ⟨_, rfl, rfl⟩
      | raw text => exact hbody.elim
  | d, e, ⟨aliasName, .rawSql sql⟩, _, hde, h => by
    unfold declareCteWith
    rcases declareCteWith_ok h with ⟨hin, rfl⟩ | ⟨hfresh, body, -, rfl⟩
    · rw [if_pos (by simpa [← hde] using hin)]
      exact ⟨e, rfl, hde⟩
    · rw [if_neg (by simpa [← hde] using hfresh)]
      exact ⟨_, rfl, by simp [hde]⟩

theorem declareCtesWith_transfer :
    ∀ (d e : Declared) (cs : List Cte) {d' : Declared}, d.1 = e.1 →
      declareCtesWith ref d cs = .ok d' →
      ∃ e', declareCtesWith ref' e cs = .ok e' ∧ d'.1 = e'.1
  | d, e, [], _, hde, h => by
    cases h
    exact ⟨e, rfl, hde⟩
  | d, e, c :: cs, _, hde, h => by
    obtain ⟨d₁, h₁, h⟩ := Result.bind_eq_ok.1 h
    obtain ⟨e₁, he₁, hde₁⟩ := declareCteWith_transfer d e c hde h₁
    obtain ⟨e', he', hde'⟩ := declareCtesWith_transfer d₁ e₁ cs hde₁ h
    refine ⟨e', ?_, hde'⟩
    unfold declareCtesWith
    rw [he₁, Result.ok_bind]
    exact he'

theorem declareSourceCteWith_transfer :
    ∀ (d e : Declared) (src : Option Source) {d' : Declared}, d.1 = e.1 →
      declareSourceCteWith ref d src = .ok d' →
      ∃ e', declareSourceCteWith ref' e src = .ok e' ∧ d'.1 = e'.1
  | d, e, some (.cte c), _, hde, h => declareCteWith_transfer d e c hde h
  | d, e, none, _, hde, h | d, e, some (.table _), _, hde, h
  | d, e, some (.derived _), _, hde, h => by
    cases h
    exact ⟨e, rfl, hde⟩

theorem declareJoinCtesWith_transfer :
    ∀ (d e : Declared) (js : List Join) {d' : Declared}, d.1 = e.1 →
      declareJoinCtesWith ref d js = .ok d' →
      ∃ e', declareJoinCtesWith ref' e js = .ok e' ∧ d'.1 = e'.1
  | d, e, [], _, hde, h => by
    cases h
    exact ⟨e, rfl, hde⟩
  | d, e, ⟨.cte c, on, es, kind⟩ :: js, _, hde, h => by
    obtain ⟨d₁, h₁, h⟩ := Result.bind_eq_ok.1 h
    obtain ⟨e₁, he₁, hde₁⟩ := declareCteWith_transfer d e c hde h₁
    obtain ⟨e', he', hde'⟩ := declareJoinCtesWith_transfer d₁ e₁ js hde₁ h
    refine ⟨e', ?_, hde'⟩
    unfold declareJoinCtesWith
    rw [he₁, Result.ok_bind]
    exact he'
  | d, e, ⟨.table _, on, es, kind⟩ :: js, _, hde, h
  | d, e, ⟨.derived _, on, es, kind⟩ :: js, _, hde, h =>
    declareJoinCtesWith_transfer d e js hde h

theorem declareCombineCtesWith_transfer :
    ∀ (d e : Declared) (cs : List Combine) {d' : Declared}, d.1 = e.1 →
      declareCombineCtesWith ref d cs = .ok d' →
      ∃ e', declareCombineCtesWith ref' e cs = .ok e' ∧ d'.1 = e'.1
  | d, e, [], _, hde, h => by
    cases h
    exact ⟨e, rfl, hde⟩
  | d, e, ⟨⟨ctes, source, _, joins, _, _, _, _, _⟩, _⟩ :: cs, _, hde, h => by
    obtain ⟨d₁, h₁, h⟩ := Result.bind_eq_ok.1 h
    obtain ⟨d₂, h₂, h⟩ := Result.bind_eq_ok.1 h
    obtain ⟨d₃, h₃, h⟩ := Result.bind_eq_ok.1 h
    obtain ⟨e₁, he₁, hde₁⟩ := declareCtesWith_transfer d e ctes hde h₁
    obtain ⟨e₂, he₂, hde₂⟩ := declareSourceCteWith_transfer d₁ e₁ source hde₁ h₂
    obtain ⟨e₃, he₃, hde₃⟩ := declareJoinCtesWith_transfer d₂ e₂ joins hde₂ h₃
    obtain ⟨e', he', hde'⟩ := declareCombineCtesWith_transfer d₃ e₃ cs hde₃ h
    refine ⟨e', ?_, hde'⟩
    unfold declareCombineCtesWith
    rw [he₁, Result.ok_bind, he₂, Result.ok_bind, he₃, Result.ok_bind]
    exact he'

theorem compileSourceWith_transfer (scope : List String) :
    ∀ (src : Source) {f : FromItem}, compileSourceWith ref scope src = .ok f →
      (compileSourceWith ref' scope src).Succeeds
  | .table _, _, _ => ok _
  | .derived ⟨s, _⟩, _, h => by
    obtain ⟨q, hq, -⟩ := Result.bind_eq_ok.1 h
    obtain ⟨q', hq', -⟩ := compileSelectWith_transfer scope s hq
    exact of_bind ⟨q', hq'⟩ fun _ _ => ok _
  | .cte ⟨_, _⟩, _, _ => ok _

theorem compileOptSourceWith_transfer (scope : List String) :
    ∀ (src : Option Source) {f : Option FromItem}, compileOptSourceWith ref scope src = .ok f →
      ∃ f', compileOptSourceWith ref' scope src = .ok f' ∧ f'.isNone = f.isNone
  | none, _, h => by
    cases h
    exact ⟨none, rfl, rfl⟩
  | some src, _, h => by
    obtain ⟨f, hf, h⟩ := Result.bind_eq_ok.1 h
    cases h
    obtain ⟨f', hf'⟩ := compileSourceWith_transfer scope src hf
    refine ⟨some f', ?_, rfl⟩
    unfold compileOptSourceWith
    rw [hf', Result.ok_bind]
    rfl

theorem compileJoinsWith_transfer (scope : List String) :
    ∀ (left left' : Option FromItem) (js : List Join) {r : Option FromItem},
      compileJoinsWith ref scope left js = .ok r → left'.isNone = left.isNone →
      (compileJoinsWith ref' scope left' js).Succeeds
  | _, left', [], _, _, _ => ok left'
  | none, _, ⟨_, _, _, _⟩ :: _, _, h, _ => by
    unfold compileJoinsWith at h
    dsimp only at h
    obtain ⟨_, hl, -⟩ := Result.bind_eq_ok.1 h
    cases hl
  | some _, none, _ :: _, _, _, hnone => by cases hnone
  | some l, some l', ⟨target, on, es, kind⟩ :: js, _, h, _ => by
    unfold compileJoinsWith at h ⊢
    dsimp only at h ⊢
    obtain ⟨_, hl, h⟩ := Result.bind_eq_ok.1 h
    cases hl
    obtain ⟨right, hright, h⟩ := Result.bind_eq_ok.1 h
    refine of_bind (ok l') fun _ hl' => ?_
    cases hl'
    refine of_bind (compileSourceWith_transfer scope target hright) fun _ _ => ?_
    -- the `on` condition, raw or a comparison, then the further conditions and joins
    split at h
    · rw [if_pos ‹_›]
      obtain ⟨cond, hcond, h⟩ := Result.bind_eq_ok.1 h
      obtain ⟨cond', hcond', h⟩ := Result.bind_eq_ok.1 h
      exact of_bind (appendExpressionWith_transfer scope _ none none on hcond) fun _ _ =>
        of_bind (appendAllAndWith_transfer scope cond _ es hcond') fun _ _ =>
          compileJoinsWith_transfer scope _ _ js h rfl
    · rw [if_neg ‹_›]
      obtain ⟨e, he, h⟩ := Result.bind_eq_ok.1 h
      obtain ⟨cond, hcond, h⟩ := Result.bind_eq_ok.1 h
      obtain ⟨cond', hcond', h⟩ := Result.bind_eq_ok.1 h
      rw [he, Result.ok_bind]
      exact of_bind (ok _) fun _ _ =>
        of_bind (appendAllAndWith_transfer scope cond _ es hcond') fun _ _ =>
          compileJoinsWith_transfer scope _ _ js h rfl

theorem compileCombinesWith_transfer (scope : List String) :
    ∀ (stmt stmt' : Query) (i : Nat) (cs : List Combine) {q : Query},
      compileCombinesWith ref scope stmt i cs = .ok q → stmt'.orderBy = stmt.orderBy →
      ∃ q', compileCombinesWith ref' scope stmt' i cs = .ok q' ∧ q'.orderBy = q.orderBy
  | _, stmt', _, [], _, h, hord => by
    cases h
    exact ⟨stmt', rfl, hord⟩
  | stmt, stmt', i, ⟨s, op⟩ :: cs, _, h, hord => by
    unfold compileCombinesWith at h ⊢
    obtain ⟨member, hmember, h⟩ := Result.bind_eq_ok.1 h
    obtain ⟨member', hmember', hmord⟩ := compileSelectWith_transfer scope s hmember
    rw [hmember', Result.ok_bind]
    split at h
    · cases h
    · rename_i hsorted
      rw [if_neg (by rwa [hmord])]
      dsimp only at h ⊢
      exact compileCombinesWith_transfer scope _ _ _ cs h hord

theorem compileSelectWith_transfer (scope : List String) :
    ∀ (s : Select) {q : Query}, compileSelectWith ref scope s = .ok q →
      ∃ q', compileSelectWith ref' scope s = .ok q' ∧ q'.orderBy = q.orderBy
  | ⟨ctes, source, fields, joins, filter, groupBys, having, sorts, combines⟩, _, h => by
    unfold compileSelectWith at h ⊢
    -- the declarations declare the same names whatever the reference
    obtain ⟨d₁, h₁, h⟩ := Result.bind_eq_ok.1 h
    obtain ⟨d₂, h₂, h⟩ := Result.bind_eq_ok.1 h
    obtain ⟨d₃, h₃, h⟩ := Result.bind_eq_ok.1 h
    obtain ⟨d, h₄, h⟩ := Result.bind_eq_ok.1 h
    obtain ⟨e₁, he₁, hde₁⟩ := declareCtesWith_transfer _ (scope, []) ctes rfl h₁
    obtain ⟨e₂, he₂, hde₂⟩ := declareSourceCteWith_transfer d₁ e₁ source hde₁ h₂
    obtain ⟨e₃, he₃, hde₃⟩ := declareJoinCtesWith_transfer d₂ e₂ joins hde₂ h₃
    obtain ⟨e, he, hde⟩ := declareCombineCtesWith_transfer d₃ e₃ combines hde₃ h₄
    rw [he₁, Result.ok_bind, he₂, Result.ok_bind, he₃, Result.ok_bind, he, Result.ok_bind,
      ← hde]
    dsimp only
    -- the parts, compiled in the same scope
    obtain ⟨src, h₅, h⟩ := Result.bind_eq_ok.1 h
    obtain ⟨src', h₆, h⟩ := Result.bind_eq_ok.1 h
    obtain ⟨flt, h₇, h⟩ := Result.bind_eq_ok.1 h
    obtain ⟨hv, h₈, h⟩ := Result.bind_eq_ok.1 h
    obtain ⟨srcR, h₅', hnone⟩ := compileOptSourceWith_transfer d.1 source h₅
    obtain ⟨srcR', h₆'⟩ := compileJoinsWith_transfer d.1 src srcR joins h₆ hnone
    obtain ⟨fltR, h₇'⟩ := compileConditionWith_transfer d.1 filter h₇
    obtain ⟨hvR, h₈'⟩ := compileConditionWith_transfer d.1 having h₈
    rw [h₅', Result.ok_bind, h₆', Result.ok_bind, h₇', Result.ok_bind, h₈', Result.ok_bind]
    exact compileCombinesWith_transfer d.1 _ _ 0 combines h rfl

end

theorem compileFlatConditionWith_transfer {es : List Expression} {r : Option Expr}
    (h : compileFlatConditionWith ref es = .ok r) :
    (compileFlatConditionWith ref' es).Succeeds := by
  obtain ⟨a, ha, -⟩ := Result.bind_eq_ok.1 h
  obtain ⟨a', ha', -⟩ := appendExpressionsWith_transfer [] none none true es ha
  exact of_bind ⟨a', ha'⟩ fun _ _ => ok _

theorem compileInsertWith_transfer {s : Insert} {r : InsertStmt}
    (h : compileInsertWith ref s = .ok r) : (compileInsertWith ref' s).Succeeds := by
  obtain ⟨table, fields, query⟩ := s
  unfold compileInsertWith at h ⊢
  cases query with
  | none =>
    cases hf : fields.isEmpty <;> simp only [hf] at h ⊢
    · exact ⟨r, h⟩
    · cases h
  | some q =>
    cases hf : fields.isEmpty <;> simp only [hf] at h ⊢
    · cases h
    · split at h
      · cases h
      · rw [if_neg ‹_›]
        obtain ⟨c, hc, -⟩ := Result.bind_eq_ok.1 h
        obtain ⟨c', hc', -⟩ := compileSelectWith_transfer [] q hc
        exact of_bind ⟨c', hc'⟩ fun _ _ => ok _

theorem compileUpdateWith_transfer {s : Update} {r : UpdateStmt}
    (h : compileUpdateWith ref s = .ok r) : (compileUpdateWith ref' s).Succeeds := by
  unfold compileUpdateWith at h ⊢
  split at h
  · cases h
  · rw [if_neg ‹_›]
    obtain ⟨set, hset, h⟩ := Result.bind_eq_ok.1 h
    obtain ⟨filter, hfilter, -⟩ := Result.bind_eq_ok.1 h
    exact of_bind ⟨set, hset⟩ fun _ _ =>
      of_bind (compileFlatConditionWith_transfer hfilter) fun _ _ => ok _

/-- Whether a statement compiles does not depend on how references to common table
expressions are written. -/
theorem compileStatementWith_transfer (s : Statement) {stmt : Stmt}
    (h : compileStatementWith ref s = .ok stmt) : (compileStatementWith ref' s).Succeeds := by
  cases s with
  | select s =>
    obtain ⟨q, hq, -⟩ := Result.map_eq_ok.1 h
    obtain ⟨q', hq', -⟩ := compileSelectWith_transfer [] s hq
    exact of_map _ ⟨q', hq'⟩
  | insert s =>
    obtain ⟨r, hr, -⟩ := Result.map_eq_ok.1 h
    exact of_map _ (compileInsertWith_transfer hr)
  | update s =>
    obtain ⟨r, hr, -⟩ := Result.map_eq_ok.1 h
    exact of_map _ (compileUpdateWith_transfer hr)
  | delete s =>
    obtain ⟨r, hr, -⟩ := Result.map_eq_ok.1 h
    obtain ⟨filter, hfilter, -⟩ := Result.bind_eq_ok.1 hr
    exact of_map _ (of_bind (compileFlatConditionWith_transfer hfilter) fun _ _ => ok _)

end Transfer

end QueryDoc.Compile
