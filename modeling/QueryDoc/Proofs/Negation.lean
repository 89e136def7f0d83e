import QueryDoc.Facade.Session
import QueryDoc.Proofs.Result

/-!
Negated conditions under SQL's three truth values.

A database decides a condition for a row as true, false or unknown. A comparison with a null
on either side is unknown, as are a membership and a `like` test of a null; `not` swaps true
and false; `and` is false when a side is false and else unknown when a side is, `or` the
other way round. A `where` clause keeps the rows its condition is true for. `Expr.eval` is
that reading of compiled syntax for one row, which `RowContext` gives: its values, and what the
database decides about comparisons, `like` patterns, subqueries and raw SQL.

A negated connective wraps the item it joins in `not(…)`: under `AndNot` an expression, and a
group, compiles to the `not` of what it compiles to under `And` (`appendExpression_andNot`).
The two keep complementary rows exactly where the condition is not unknown
(`keeps_ne_keeps_not`). Main statement: `negation_complements_where_known`;
`null_score_kept_by_neither` is a row that neither condition keeps.
-/

namespace QueryDoc.Sql

open Store

/-- One row as a condition reads it: the row's value in each column, and what the database
decides: whether two values that are not null stand in a comparison, whether a value that is not
null matches a `like` pattern (`\` escaping), the rows each subquery gives, and the truth of raw
SQL. A value read as a condition has the truth the store gives it, `Datum.truth?`. -/
structure RowContext where
  column : ColumnRef → Datum
  compare : BinOp → Datum → Datum → Bool
  likes : Datum → Datum → Bool
  rows : Query → List (List Datum)
  raw : String → List Param → Option Bool

/-- The value a literal stands for; a boolean is stored as `1` or `0`. -/
def Literal.datum : Literal → Datum
  | .null => .null
  | .bool b => .integer (if b then 1 else 0)
  | .integer n => .integer n
  | .string s => .text s

namespace RowContext

/-- A comparison of two values: unknown when either is null. -/
def compareTruth (r : RowContext) (op : BinOp) (a b : Datum) : Option Bool :=
  if a.isNull || b.isNull then none else some (r.compare op a b)

/-- Whether a value is among others: false among none; else unknown for a null value; else true
when one of them equals it, unknown when none does and one is null, and false otherwise. -/
def memberTruth (r : RowContext) (x : Datum) (items : List Datum) : Option Bool :=
  if items.isEmpty then some false
  else if x.isNull then none
  else if items.any fun y => !y.isNull && r.compare .eq x y then some true
  else if items.any Datum.isNull then none
  else some false

/-- A `like` test: unknown when the value or the pattern is null. -/
def likeTruth (r : RowContext) (a p : Datum) : Option Bool :=
  if a.isNull || p.isNull then none else some (r.likes a p)

/-- The value of a subquery: the first column of its first row, null when it has none. -/
def firstValue (rows : List (List Datum)) : Datum :=
  ((rows.head?).bind List.head?).getD .null

end RowContext

/-- A binary operator in three values, from what each side gives: `and` and `or` join the
sides' truths, the comparisons compare their values. -/
def BinOp.truth (r : RowContext) (op : BinOp) (a b : Datum × Option Bool) : Option Bool :=
  match op with
  | .and => andTruth a.2 b.2
  | .or => orTruth a.2 b.2
  | _ => r.compareTruth op a.1 b.1

mutual

/-- What an expression gives in a row: its value and its truth as a condition. A column, a
literal, a bound value or a subquery gives a value, whose truth is the store's reading of it; a
condition gives its truth, whose value is `1`, `0` or null. A membership in no values is false,
as its text `1 = 0` is. -/
def Expr.eval (r : RowContext) : Expr → Datum × Option Bool
  | .column c => (r.column c, (r.column c).truth?)
  | .literal l => (l.datum, l.datum.truth?)
  | .bound p => (Facade.Act.paramDatum p, (Facade.Act.paramDatum p).truth?)
  | .subquery q => (RowContext.firstValue (r.rows q), (RowContext.firstValue (r.rows q)).truth?)
  | .binary a op b =>
    let t := op.truth r (Expr.eval r a) (Expr.eval r b)
    (Datum.ofTruth t, t)
  | .not e =>
    let t := (Expr.eval r e).2.map (!·)
    (Datum.ofTruth t, t)
  | .isNull e negated =>
    let t := some ((Expr.eval r e).1.isNull != negated)
    (Datum.ofTruth t, t)
  | .inList e items negated =>
    let t := (r.memberTruth (Expr.eval r e).1 (Expr.evalList r items)).map (· != negated)
    (Datum.ofTruth t, t)
  | .inSubquery e q negated =>
    let t := (r.memberTruth (Expr.eval r e).1 ((r.rows q).map fun row => row.headD .null)).map
      (· != negated)
    (Datum.ofTruth t, t)
  | .like e p negated =>
    let t := (r.likeTruth (Expr.eval r e).1 (Expr.eval r p).1).map (· != negated)
    (Datum.ofTruth t, t)
  | .exists q negated =>
    let t := some (!(r.rows q).isEmpty != negated)
    (Datum.ofTruth t, t)
  | .nested e => Expr.eval r e
  | .raw sql bindings => (Datum.ofTruth (r.raw sql bindings), r.raw sql bindings)

/-- The values of a list of expressions. -/
def Expr.evalList (r : RowContext) : List Expr → List Datum
  | [] => []
  | e :: es => (Expr.eval r e).1 :: Expr.evalList r es

end

namespace Expr

/-- The truth of a condition in a row. -/
def truth (r : RowContext) (e : Expr) : Option Bool := (e.eval r).2

/-- Whether a `where` clause with this condition keeps the row: only when it is true. -/
def keeps (r : RowContext) (e : Expr) : Bool := e.truth r == some true

end Expr

namespace Expr

@[simp] theorem truth_not (r : RowContext) (e : Expr) : (Expr.not e).truth r = (e.truth r).map (!·) :=
  rfl

@[simp] theorem truth_nested (r : RowContext) (e : Expr) : (Expr.nested e).truth r = e.truth r :=
  rfl

/-- A condition and its `not` keep complementary rows exactly where the condition is not
unknown; where it is unknown, neither keeps the row. -/
theorem keeps_ne_keeps_not (r : RowContext) (e : Expr) :
    (e.keeps r != (Expr.not e).keeps r) = (e.truth r).isSome := by
  simp only [keeps, truth_not]
  rcases e.truth r with _ | _ | _ <;> rfl

end Expr

end QueryDoc.Sql

namespace QueryDoc.Compile

open Sql Store

/-! ### What a predicate decides about a row -/

section Truth

variable (r : RowContext)

/-- A column compared with a bound value: unknown when either is null. -/
theorem truth_compare (column : String) (op : BinOp) (v : Param) (hand : op ≠ .and) (hor : op ≠ .or) :
    (Predicate.compare column op v).toExpr.truth r =
      r.compareTruth op (r.column (.parse column)) (Facade.Act.paramDatum v) := by
  cases op with
  | and => exact absurd rfl hand
  | or => exact absurd rfl hor
  | _ => rfl

/-- A column among bound values. -/
theorem truth_isIn (column : String) (vs : List Param) :
    (Predicate.isIn column vs).toExpr.truth r =
      r.memberTruth (r.column (.parse column)) (vs.map Facade.Act.paramDatum) := by
  have hvals : ∀ ps : List Param,
      Expr.evalList r (ps.map Expr.bound) = ps.map Facade.Act.paramDatum := by
    intro ps
    induction ps with
    | nil => rfl
    | cons p ps ih => simp only [List.map_cons, Expr.evalList, ih]; rfl
  show (r.memberTruth (r.column (.parse column)) (Expr.evalList r (vs.map Expr.bound))).map
    (· != false) = _
  rw [hvals]
  rcases r.memberTruth (r.column (.parse column)) (vs.map Facade.Act.paramDatum) with _ | _ | _ <;> rfl

end Truth

/-- Whether a condition on a column is unknown on every row where the column is null: a
comparison with a value (equality with null tests for null instead), a membership in values, a
`like` test and a `true` test. -/
def unknownOnNull : Relation → Value → Bool
  | .equalTo, v => !v.isNull
  | .greaterThan, _ | .greaterThanOrEqualTo, _ | .lessThan, _ | .lessThanOrEqualTo, _ => true
  | .isIn, .list (_ :: _) => true
  | .trueValue, _ | .startsWith, _ | .endsWith, _ | .contains, _ => true
  | _, _ => false

/-- Whether a condition is never unknown: a test for null, written as such or as equality with
null, and an existence test. -/
def neverUnknown : Relation → Value → Bool
  | .nullValue, _ | .exists, _ => true
  | .equalTo, v => v.isNull
  | _, _ => false

/-! ### Negated conditions -/

/-- An expression that is not raw compiles to its predicate under any connective: joined to
nothing, to the predicate itself under `And` and to its `not` under `AndNot`. -/
theorem appendExpression_andNot {scope : List String} {name : String} {value : Value}
    {relation : Relation} {connective : Connective} {c : Sql.Expr}
    (h : appendExpression scope none .and ⟨name, value, relation, connective, false⟩ = .ok (some c)) :
    ∃ p, toPredicate scope name value relation = .ok p ∧ c = p.toExpr ∧
      appendExpression scope none .andNot ⟨name, value, relation, connective, false⟩ =
        .ok (some (.not c)) := by
  unfold appendExpression at h ⊢
  rw [if_neg Bool.false_ne_true] at h ⊢
  obtain ⟨p, hp, hc⟩ := Result.bind_eq_ok.1 h
  have hc : c = p.toExpr := (Option.some.inj (Result.pure_eq_ok.1 hc)).symm
  subst hc
  exact ⟨p, hp, rfl, by rw [hp]; rfl⟩

/-- A group's condition joined to nothing: itself in parentheses under `And`, and their `not`
under `AndNot`. -/
theorem pushGroup_andNot (g : Sql.Expr) :
    pushGroup none .and (some g) = some (.nested g) ∧
      pushGroup none .andNot (some g) = some (.not (.nested g)) :=
  ⟨rfl, rfl⟩

/-- A condition that `unknownOnNull` names is unknown on every row where its column is null. -/
theorem toPredicate_unknown_of_null {scope : List String} {name : String} {value : Value}
    {relation : Relation} {p : Predicate} (h : toPredicate scope name value relation = .ok p)
    (hu : unknownOnNull relation value = true) (r : RowContext)
    (hnull : (r.column (.parse name)).isNull = true) : p.toExpr.truth r = none := by
  cases relation <;> unfold toPredicate at h
  case equalTo | greaterThan | greaterThanOrEqualTo | lessThan | lessThanOrEqualTo =>
    split at h
    next hnv =>
      -- only equality with null takes this branch, which `unknownOnNull` leaves out
      simp_all +decide [unknownOnNull]
    next =>
      dsimp only [comparisonOperator] at h
      obtain ⟨v, -, h⟩ := Result.bind_eq_ok.1 h
      rw [← Result.pure_eq_ok.1 h, truth_compare r _ _ _ (by decide) (by decide)]
      simp [RowContext.compareTruth, hnull]
  case isIn =>
    split at h
    · simp [unknownOnNull] at hu
    · -- a membership in values: the column is null and there is at least one value
      rename_i vs
      obtain ⟨ps, hps, h⟩ := Result.bind_eq_ok.1 h
      have hlen := Result.length_of_mapM_ok hps
      rw [← Result.pure_eq_ok.1 h, truth_isIn]
      cases vs with
      | nil => simp [unknownOnNull] at hu
      | cons v vs =>
        cases ps with
        | nil => simp at hlen
        | cons q qs => simp [RowContext.memberTruth, hnull]
    · simp [unknownOnNull] at hu
    · simp [invalid] at h
  case nullValue | «exists» => simp [unknownOnNull] at hu
  case trueValue =>
    rw [← Result.pure_eq_ok.1 h]
    show r.compareTruth .eq (r.column (.parse name)) (Literal.bool true).datum = none
    simp [RowContext.compareTruth, hnull]
  case startsWith | endsWith | contains =>
    unfold likeCondition at h
    split at h
    · rw [← Result.pure_eq_ok.1 h]
      show (r.likeTruth (r.column (.parse name)) _).map (· != false) = none
      simp [RowContext.likeTruth, hnull]
    · simp [invalid] at h

/-- A test for null and an existence test are never unknown. -/
theorem toPredicate_known {scope : List String} {name : String} {value : Value}
    {relation : Relation} {p : Predicate} (h : toPredicate scope name value relation = .ok p)
    (hk : neverUnknown relation value = true) (r : RowContext) : (p.toExpr.truth r).isSome := by
  cases relation <;> unfold toPredicate at h
  case equalTo =>
    have hv : value.isNull = true := by simpa [neverUnknown] using hk
    rw [if_pos (by rw [hv]; rfl)] at h
    rw [← Result.pure_eq_ok.1 h]
    rfl
  case nullValue =>
    rw [← Result.pure_eq_ok.1 h]
    rfl
  case «exists» =>
    split at h
    · obtain ⟨q, -, h⟩ := Result.bind_eq_ok.1 h
      rw [← Result.pure_eq_ok.1 h]
      rfl
    · simp [invalid] at h
  all_goals simp [neverUnknown] at hk

/-! ### Negation under three values -/

/-- An expression that is not raw and compiles, joined to nothing under `And` and under
`AndNot`, gives a condition and its `not`; a group likewise gives its condition in parentheses
and their `not`. The two keep complementary rows exactly where the condition is not unknown, and
neither keeps a row where it is. A comparison with a value, a membership in values, a `like`
test and a `true` test are unknown on every row whose column is null; a test for null and an
existence test never are. -/
theorem negation_complements_where_known (scope : List String) :
    (∀ (name : String) (value : Value) (relation : Relation) (connective : Connective)
        (c : Sql.Expr),
      appendExpression scope none .and ⟨name, value, relation, connective, false⟩ = .ok (some c) →
      appendExpression scope none .andNot ⟨name, value, relation, connective, false⟩ =
          .ok (some (.not c)) ∧
        (∀ r : RowContext, (c.keeps r != (Sql.Expr.not c).keeps r) = (c.truth r).isSome) ∧
        (unknownOnNull relation value = true →
          ∀ r : RowContext, (r.column (.parse name)).isNull = true → c.truth r = none) ∧
        (neverUnknown relation value = true → ∀ r : RowContext, (c.truth r).isSome = true)) ∧
    ∀ g : Sql.Expr,
      pushGroup none .and (some g) = some (.nested g) ∧
        pushGroup none .andNot (some g) = some (.not (.nested g)) ∧
        ∀ r : RowContext,
          ((Sql.Expr.nested g).keeps r != (Sql.Expr.not (.nested g)).keeps r) = (g.truth r).isSome := by
  refine ⟨fun name value relation connective c h => ?_, fun g => ?_⟩
  · obtain ⟨p, hp, rfl, hnot⟩ := appendExpression_andNot h
    exact ⟨hnot, fun r => Expr.keeps_ne_keeps_not r _,
      fun hu r hnull => toPredicate_unknown_of_null hp hu r hnull,
      fun hk r => toPredicate_known hp hk r⟩
  · obtain ⟨hand, hnot⟩ := pushGroup_andNot g
    exact ⟨hand, hnot, fun r => Expr.keeps_ne_keeps_not r _⟩

/-- `score = 5` under `And` and under `AndNot`: a condition and its `not`, which keep
complementary rows wherever the condition is known, and which are unknown where `score` is
null. -/
theorem score_condition_complements :
    ∃ c, appendExpression [] none .and ⟨"score", .integer 5, .equalTo, .and, false⟩ = .ok (some c) ∧
      appendExpression [] none .andNot ⟨"score", .integer 5, .equalTo, .and, false⟩ =
        .ok (some (.not c)) ∧
      (∀ r : RowContext, (c.keeps r != (Sql.Expr.not c).keeps r) = (c.truth r).isSome) ∧
      ∀ r : RowContext, (r.column (.parse "score")).isNull = true → c.truth r = none := by
  obtain ⟨hnot, hkeeps, hnull, -⟩ :=
    (negation_complements_where_known []).1 "score" (.integer 5) .equalTo .and _ rfl
  exact ⟨_, rfl, hnot, hkeeps, hnull rfl⟩

/-- A row whose every column is null, in a database where every comparison and pattern holds. -/
def nullRow : RowContext :=
  ⟨fun _ => .null, fun _ _ _ => true, fun _ _ => true, fun _ => [], fun _ _ => none⟩

/-- `score > 5` and its negation on a row whose `score` is null: neither keeps the row. -/
theorem null_score_kept_by_neither :
    appendExpression [] none .and ⟨"score", .integer 5, .greaterThan, .and, false⟩ =
        .ok (some (.binary (.columnPath "score") .gt (.bound (.integer 5)))) ∧
      appendExpression [] none .andNot ⟨"score", .integer 5, .greaterThan, .and, false⟩ =
        .ok (some (.not (.binary (.columnPath "score") .gt (.bound (.integer 5))))) ∧
      (Sql.Expr.binary (.columnPath "score") .gt (.bound (.integer 5))).keeps nullRow = false ∧
      (Sql.Expr.not (.binary (.columnPath "score") .gt (.bound (.integer 5)))).keeps nullRow = false :=
  ⟨rfl, rfl, rfl, rfl⟩

end QueryDoc.Compile
