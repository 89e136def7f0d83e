import QueryDoc.Proofs.CompileFailures
import QueryDoc.Proofs.Compound

/-!
Which statements compile.

A statement fails to compile, with a validation error, exactly when it has a defect somewhere
in it (`Statement.defective`). Defects are local to one condition, join, combined select or
write: a raw condition that is negated, binds a list or a select, or has a number of bindings
other than its `?` markers; a comparison with a list or a select; an `In` on a scalar other
than `null`, or on a list holding a list or a select; an `Exists` on anything but a select; a
`like` test on anything but a text; a join `on` that is not a comparison naming the joined
column as text; joins with nothing to join to; a sorted combined select; and the field checks
of inserts and updates. The selects a condition, a derived table, a common table expression
or a combination reads are looked into.

The compiler skips a common table expression whose name is already declared, so the statement
assumes such names unique (`CtesUnique`). The proof goes both ways over the compiler's mutual
recursion: a part without defects compiles in any scope, and a part that compiles has none
while every name in scope belongs to a common table expression without defects (`GoodScope`).
-/

namespace QueryDoc

/-- A value that binds as one parameter: neither a list nor a select. -/
def Value.isScalar : Value → Bool
  | .list _ | .query _ => false
  | _ => true

/-- A text value. -/
def Value.isText : Value → Bool
  | .text _ => true
  | _ => false

/-- An equality or an ordering. -/
def Relation.isComparison : Relation → Bool
  | .equalTo | .greaterThan | .greaterThanOrEqualTo | .lessThan | .lessThanOrEqualTo => true
  | _ => false

/-- A relation that reads a select from its value: `In` and `Exists`. -/
def Relation.readsSelect : Relation → Bool
  | .isIn | .exists => true
  | _ => false

/-- The defect of a condition on a column under its relation, apart from the select it may
read: a comparison with a list or a select, an `In` on a scalar other than `null` or on a list
holding a list or a select, an `Exists` on anything but a select, a `like` test on anything
but a text. -/
def Relation.flawed (r : Relation) (v : Value) : Bool :=
  match r with
  | .equalTo | .greaterThan | .greaterThanOrEqualTo | .lessThan | .lessThanOrEqualTo =>
    !v.isScalar
  | .isIn =>
    match v with
    | .list vs => !vs.all Value.isScalar
    | .null | .query _ => false
    | _ => true
  | .nullValue | .trueValue => false
  | .exists =>
    match v with
    | .query _ => false
    | _ => true
  | .startsWith | .endsWith | .contains => !v.isText

/-- The defect of a raw condition: it is negated, one of its bindings is a list or a select,
or it has bindings and their number is not that of its `?` markers. A raw condition whose
value is a scalar has no bindings. -/
def Expression.rawFlawed (e : Expression) : Bool :=
  e.connective.isNegated || !e.bindings.all Value.isScalar ||
    (!e.bindings.isEmpty && Sql.rawMarkerCount e.name != e.bindings.length)

/-- The defect of a join's `on` condition: raw, it is a raw condition's; otherwise it must be
a comparison naming the joined column as a text. -/
def Expression.onFlawed (on : Expression) : Bool :=
  if on.raw then on.rawFlawed else !on.relation.isComparison || !on.value.isText

mutual

/-- A select read from a value has a defect. -/
def Value.selectDefective : Value → Bool
  | .query s => s.defective
  | _ => false

/-- A condition has a defect, or the select it reads has one. -/
def Expression.defective : Expression → Bool
  | e@⟨_, value, relation, _, raw⟩ =>
    if raw then e.rawFlawed
    else relation.flawed value || (relation.readsSelect && value.selectDefective)

/-- Some condition of the list has a defect. -/
def Expression.listDefective : List Expression → Bool
  | [] => false
  | e :: es => e.defective || Expression.listDefective es

/-- A condition of the filter or of its subgroups has a defect. -/
def Filter.defective : Filter → Bool
  | ⟨es, fs, _⟩ => Expression.listDefective es || Filter.listDefective fs

/-- Some filter of the list has a defect. -/
def Filter.listDefective : List Filter → Bool
  | [] => false
  | f :: fs => f.defective || Filter.listDefective fs

/-- The body of a common table expression has a defect. -/
def Cte.defective : Cte → Bool
  | ⟨_, .select s⟩ => s.defective
  | ⟨_, .rawSql _⟩ => false

/-- Some common table expression of the list has a defect. -/
def Cte.listDefective : List Cte → Bool
  | [] => false
  | c :: cs => c.defective || Cte.listDefective cs

/-- A derived table or the body of a common table expression read as a source has a
defect. -/
def Source.defective : Source → Bool
  | .table _ => false
  | .derived ⟨s, _⟩ => s.defective
  | .cte c => c.defective

/-- A join's source, its `on` condition or one of its further conditions has a defect. -/
def Join.defective : Join → Bool
  | ⟨target, on, es, _⟩ => target.defective || on.onFlawed || Expression.listDefective es

/-- Some join of the list has a defect. -/
def Join.listDefective : List Join → Bool
  | [] => false
  | j :: js => j.defective || Join.listDefective js

/-- A combined select has a defect, or sorts on its own. -/
def Combine.defective : Combine → Bool
  | ⟨s, _⟩ => s.defective || !s.sorts.isEmpty

/-- Some combined select of the list has a defect. -/
def Combine.listDefective : List Combine → Bool
  | [] => false
  | c :: cs => c.defective || Combine.listDefective cs

/-- An optional source has a defect. -/
def Source.optDefective : Option Source → Bool
  | some src => src.defective
  | none => false

/-- An optional filter has a defect. -/
def Filter.optDefective : Option Filter → Bool
  | some f => f.defective
  | none => false

/-- A select has a defect: in its common table expressions, its source, its joins (or it
joins with no source), its conditions or its combined selects. -/
def Select.defective : Select → Bool
  | ⟨ctes, source, _, joins, filter, _, having, _, combines⟩ =>
    Cte.listDefective ctes || Source.optDefective source || (source.isNone && !joins.isEmpty) ||
      Join.listDefective joins || Filter.optDefective filter || Filter.optDefective having ||
      Combine.listDefective combines

end

/-- An insert has a defect: it has both field values and a query, or neither; a field value
is a list or a select; or its query projects no fields or has a defect. -/
def Insert.defective (s : Insert) : Bool :=
  match s.query with
  | some q => !s.fields.isEmpty || q.fields.isEmpty || q.defective
  | none => s.fields.isEmpty || !s.fields.all (·.value.isScalar)

/-- An update has a defect: it sets no field, a field value is a list or a select, or one of
its conditions has a defect. -/
def Update.defective (s : Update) : Bool :=
  s.fields.isEmpty || !s.fields.all (·.value.isScalar) || Expression.listDefective s.filters

/-- A statement has a defect somewhere. -/
def Statement.defective : Statement → Bool
  | .select s => s.defective
  | .insert s => s.defective
  | .update s => s.defective
  | .delete s => Expression.listDefective s.filters

mutual

/-- The common table expressions inside a value. -/
def Value.allCtes : Value → List Cte
  | .list vs => Value.listAllCtes vs
  | .query s => s.allCtes
  | _ => []

/-- The common table expressions inside a list of values. -/
def Value.listAllCtes : List Value → List Cte
  | [] => []
  | v :: vs => v.allCtes ++ Value.listAllCtes vs

/-- The common table expressions inside a condition's value. -/
def Expression.allCtes : Expression → List Cte
  | ⟨_, value, _, _, _⟩ => value.allCtes

/-- The common table expressions inside a list of conditions. -/
def Expression.listAllCtes : List Expression → List Cte
  | [] => []
  | e :: es => e.allCtes ++ Expression.listAllCtes es

/-- The common table expressions inside a filter. -/
def Filter.allCtes : Filter → List Cte
  | ⟨es, fs, _⟩ => Expression.listAllCtes es ++ Filter.listAllCtes fs

/-- The common table expressions inside a list of filters. -/
def Filter.listAllCtes : List Filter → List Cte
  | [] => []
  | f :: fs => f.allCtes ++ Filter.listAllCtes fs

/-- A common table expression and those inside its body. -/
def Cte.allCtes : Cte → List Cte
  | c@⟨_, .select s⟩ => c :: s.allCtes
  | c@⟨_, .rawSql _⟩ => [c]

/-- The common table expressions of a list, with those inside their bodies. -/
def Cte.listAllCtes : List Cte → List Cte
  | [] => []
  | c :: cs => c.allCtes ++ Cte.listAllCtes cs

/-- The common table expressions inside a source. -/
def Source.allCtes : Source → List Cte
  | .table _ => []
  | .derived ⟨s, _⟩ => s.allCtes
  | .cte c => c.allCtes

/-- The common table expressions inside a join. -/
def Join.allCtes : Join → List Cte
  | ⟨target, on, es, _⟩ => target.allCtes ++ on.allCtes ++ Expression.listAllCtes es

/-- The common table expressions inside a list of joins. -/
def Join.listAllCtes : List Join → List Cte
  | [] => []
  | j :: js => j.allCtes ++ Join.listAllCtes js

/-- The common table expressions inside a list of combined selects. -/
def Combine.listAllCtes : List Combine → List Cte
  | [] => []
  | ⟨s, _⟩ :: cs => s.allCtes ++ Combine.listAllCtes cs

/-- The common table expressions inside an optional source. -/
def Source.optAllCtes : Option Source → List Cte
  | some src => src.allCtes
  | none => []

/-- The common table expressions inside an optional filter. -/
def Filter.optAllCtes : Option Filter → List Cte
  | some f => f.allCtes
  | none => []

/-- Every common table expression anywhere in a select. -/
def Select.allCtes : Select → List Cte
  | ⟨ctes, source, _, joins, filter, _, having, _, combines⟩ =>
    Cte.listAllCtes ctes ++ Source.optAllCtes source ++ Join.listAllCtes joins ++
      Filter.optAllCtes filter ++ Filter.optAllCtes having ++ Combine.listAllCtes combines

end

/-- Every common table expression anywhere in a statement. -/
def Statement.allCtes : Statement → List Cte
  | .select s => s.allCtes
  | .insert s => Value.listAllCtes (s.fields.map (·.value)) ++ (s.query.map Select.allCtes).getD []
  | .update s => Value.listAllCtes (s.fields.map (·.value)) ++ Expression.listAllCtes s.filters
  | .delete s => Expression.listAllCtes s.filters

/-- Names of common table expressions name one definition each: two with the same name are
the same. -/
def CtesUnique (cs : List Cte) : Prop :=
  ∀ c ∈ cs, ∀ c' ∈ cs, c.aliasName = c'.aliasName → c = c'

end QueryDoc

namespace QueryDoc

/-- An outcome that succeeds. -/
def Result.Succeeds {α : Type} (r : Result α) : Prop := ∃ a, r = .ok a

namespace Result.Succeeds

variable {α β : Type}

theorem ok (a : α) : Result.Succeeds (.ok a : Result α) := ⟨a, rfl⟩

theorem not_invalid (m : String) : ¬ Result.Succeeds (invalid m : Result α) := by
  rintro ⟨a, h⟩
  cases h

theorem of_bind {x : Result α} {f : α → Result β} (hx : x.Succeeds)
    (hf : ∀ a, x = .ok a → (f a).Succeeds) : (x >>= f).Succeeds := by
  obtain ⟨a, rfl⟩ := hx
  exact hf a rfl

theorem of_map {x : Result α} (f : α → β) (hx : x.Succeeds) : (f <$> x).Succeeds := by
  obtain ⟨a, rfl⟩ := hx
  exact ok (f a)

theorem mapM_iff {f : α → Result β} :
    ∀ {l : List α}, (l.mapM f).Succeeds ↔ ∀ a ∈ l, (f a).Succeeds
  | [] => ⟨fun _ _ ha => absurd ha List.not_mem_nil, fun _ => ok []⟩
  | a :: l => by
    rw [List.mapM_cons]
    constructor
    · rintro ⟨r, h⟩
      obtain ⟨b, hb, h⟩ := Result.bind_eq_ok.1 h
      obtain ⟨bs, hbs, -⟩ := Result.bind_eq_ok.1 h
      intro a' ha'
      rcases List.mem_cons.1 ha' with rfl | ha'
      · exact ⟨b, hb⟩
      · exact mapM_iff.1 ⟨bs, hbs⟩ a' ha'
    · intro h
      exact of_bind (h a List.mem_cons_self) fun b _ =>
        of_bind (mapM_iff.2 fun a' ha' => h a' (List.mem_cons_of_mem a ha')) fun bs _ => ok _

end Result.Succeeds

/-- A scope in which compiling finds every defect: names of common table expressions are
unique in `U`, and every name in scope belongs to those of `U` without defects. -/
structure GoodScope (U : List Cte) (scope : List String) : Prop where
  unique : CtesUnique U
  clean : ∀ c ∈ U, c.aliasName ∈ scope → c.defective = false

theorem goodScope_nil {U : List Cte} (hU : CtesUnique U) : GoodScope U [] :=
  ⟨hU, fun _ _ h => nomatch h⟩

theorem Cte.mem_allCtes (c : Cte) : c ∈ c.allCtes := by
  obtain ⟨aliasName, query⟩ := c
  cases query <;> simp [Cte.allCtes]

theorem Value.isScalar_of_isNull {v : Value} (h : v.isNull = true) : v.isScalar = true := by
  cases v with
  | null => rfl
  | _ => cases h

/-- Declaring a common table expression of `U` without defects keeps the scope good. -/
theorem GoodScope.declare {U : List Cte} {scope : List String} {c : Cte}
    (hscope : GoodScope U scope) (hc : c ∈ U) (hd : c.defective = false) :
    GoodScope U (scope ++ [c.aliasName]) := by
  refine ⟨hscope.unique, fun c' hc' hname => ?_⟩
  rcases List.mem_append.1 hname with hin | hin
  · exact hscope.clean c' hc' hin
  · -- a common table expression of the same name is this one
    rw [hscope.unique c' hc' c hc (List.mem_singleton.1 hin)]
    exact hd

theorem Connective.isNegated_toAnd (c : Connective) : c.toAnd.isNegated = c.isNegated := by
  cases c <;> rfl

namespace Compile

open Result.Succeeds

/-! ### The checks of single conditions -/

theorem toParam_succeeds_iff (v : Value) : (Value.toParam v).Succeeds ↔ v.isScalar = true := by
  cases v <;> simp [Value.toParam, Value.isScalar, Result.Succeeds, invalid]

theorem mapM_toParam_succeeds_iff (vs : List Value) :
    (vs.mapM Value.toParam).Succeeds ↔ vs.all Value.isScalar = true := by
  rw [mapM_iff, List.all_eq_true]
  exact forall₂_congr fun v _ => toParam_succeeds_iff v

/-- The marker check of a raw condition with bindings `l` passes. -/
theorem markersMismatch_eq_false_iff {α : Type} (sql : String) (l : List α) :
    (!l.isEmpty && Sql.rawMarkerCount sql != l.length) = false ↔
      l.length = 0 ∨ Sql.rawMarkerCount sql = l.length := by
  cases l <;> simp

theorem pushRaw_succeeds_iff (acc : Option Sql.Expr) (c : Connective) (sql : String)
    (bindings : List Sql.Param) :
    (pushRaw acc c sql bindings).Succeeds ↔
      c.isNegated = false ∧ (bindings.length = 0 ∨ Sql.rawMarkerCount sql = bindings.length) := by
  unfold pushRaw
  dsimp only
  split
  next hneg => simp [hneg, not_invalid]
  next hneg =>
    rw [← markersMismatch_eq_false_iff]
    split
    next hcount => simp [hcount, not_invalid]
    next hcount => exact ⟨fun _ => ⟨by simpa using hneg, by simpa using hcount⟩, fun _ => ok _⟩

theorem likeCondition_succeeds_iff (column : String) (k : LikeKind) (v : Value) :
    (likeCondition column k v).Succeeds ↔ v.isText = true := by
  cases v <;> simp [likeCondition, Value.isText, Result.Succeeds, invalid]

theorem joinComparison_succeeds_iff (on : Expression) :
    (joinComparison on).Succeeds ↔ on.relation.isComparison = true ∧ on.value.isText = true := by
  unfold joinComparison
  obtain ⟨name, value, relation, c, raw⟩ := on
  cases relation <;> cases value <;>
    simp [comparisonOperator, Relation.isComparison, Value.isText, Result.Succeeds, invalid]

/-- A raw condition joins exactly when it is not negated, binds scalars only, and has as many
bindings as `?` markers or none. -/
theorem appendExpression_raw_succeeds_iff (scope : List String) (acc : Option Sql.Expr)
    (c : Connective) (name : String) (value : Value) (relation : Relation) (c' : Connective) :
    (appendExpression scope acc c ⟨name, value, relation, c', true⟩).Succeeds ↔
      c.isNegated = false ∧ (value.asList?.getD []).all Value.isScalar = true ∧
        ((value.asList?.getD []).length = 0 ∨
          Sql.rawMarkerCount name = (value.asList?.getD []).length) := by
  unfold appendExpression
  rw [if_pos rfl]
  split
  next hneg => simp [hneg, not_invalid]
  next hneg =>
    have hneg : c.isNegated = false := by simpa using hneg
    constructor
    · rintro ⟨r, h⟩
      obtain ⟨bs, hbs, h⟩ := Result.bind_eq_ok.1 h
      obtain ⟨-, hcount⟩ := (pushRaw_succeeds_iff _ _ _ _).1 ⟨r, h⟩
      rw [Result.length_of_mapM_ok hbs] at hcount
      exact ⟨hneg, (mapM_toParam_succeeds_iff _).1 ⟨bs, hbs⟩, hcount⟩
    · rintro ⟨-, hscalar, hcount⟩
      refine of_bind ((mapM_toParam_succeeds_iff _).2 hscalar) fun bs hbs => ?_
      rw [← Result.length_of_mapM_ok hbs] at hcount
      exact (pushRaw_succeeds_iff _ _ _ _).2 ⟨hneg, hcount⟩

theorem rawFlawed_eq_false_iff (e : Expression) :
    e.rawFlawed = false ↔ e.connective.isNegated = false ∧ e.bindings.all Value.isScalar = true ∧
      (e.bindings.length = 0 ∨ Sql.rawMarkerCount e.name = e.bindings.length) := by
  rw [← markersMismatch_eq_false_iff]
  simp only [Expression.rawFlawed, Bool.or_eq_false_iff, Bool.not_eq_false', and_assoc]

theorem Connective.isNegated_leading (first : Bool) (c : Connective) :
    (if first then c.toAnd else c).isNegated = c.isNegated := by
  cases first <;> simp [Connective.isNegated_toAnd]

/-- A select compiles to no source exactly when it has none. -/
theorem compileOptSource_isNone {scope : List String} {src : Option Source} {f : Option Sql.FromItem}
    (h : compileOptSource scope src = .ok f) : f.isNone = src.isNone := by
  cases src with
  | none =>
    cases h
    rfl
  | some src =>
    obtain ⟨_, -, h⟩ := Result.bind_eq_ok.1 h
    cases h
    rfl

/-! ### A part without defects compiles -/

mutual

theorem toPredicate_succeeds (scope : List String) (name : String) :
    ∀ (value : Value) (relation : Relation), relation.flawed value = false →
      (relation.readsSelect && value.selectDefective) = false →
      (toPredicate scope name value relation).Succeeds
  | value, .equalTo, hflaw, _ | value, .greaterThan, hflaw, _
  | value, .greaterThanOrEqualTo, hflaw, _ | value, .lessThan, hflaw, _
  | value, .lessThanOrEqualTo, hflaw, _ => by
    unfold toPredicate
    split
    · exact ok _
    · dsimp only [comparisonOperator]
      have hscalar : value.isScalar = true := by simpa [Relation.flawed] using hflaw
      exact of_bind ((toParam_succeeds_iff value).2 hscalar) fun _ _ => ok _
  | .query s, .isIn, _, hread => by
    unfold toPredicate
    exact of_bind (compileSelect_succeeds scope s (by simpa [Relation.readsSelect,
      Value.selectDefective] using hread)) fun _ _ => ok _
  | .list vs, .isIn, hflaw, _ => by
    unfold toPredicate
    exact of_bind ((mapM_toParam_succeeds_iff vs).2 (by simpa [Relation.flawed] using hflaw))
      fun _ _ => ok _
  | .null, .isIn, _, _ => by
    unfold toPredicate
    exact ok _
  | .bool _, .isIn, hflaw, _ | .integer _, .isIn, hflaw, _ | .float _, .isIn, hflaw, _
  | .text _, .isIn, hflaw, _ => by simp [Relation.flawed] at hflaw
  | _, .nullValue, _, _ | _, .trueValue, _, _ => by
    unfold toPredicate
    exact ok _
  | .query s, .exists, _, hread => by
    unfold toPredicate
    exact of_bind (compileSelect_succeeds scope s (by simpa [Relation.readsSelect,
      Value.selectDefective] using hread)) fun _ _ => ok _
  | .null, .exists, hflaw, _ | .bool _, .exists, hflaw, _ | .integer _, .exists, hflaw, _
  | .float _, .exists, hflaw, _ | .text _, .exists, hflaw, _ | .list _, .exists, hflaw, _ => by
    simp [Relation.flawed] at hflaw
  | value, .startsWith, hflaw, _ | value, .endsWith, hflaw, _ | value, .contains, hflaw, _ => by
    unfold toPredicate
    exact (likeCondition_succeeds_iff _ _ _).2 (by simpa [Relation.flawed] using hflaw)

theorem appendExpression_succeeds (scope : List String) (acc : Option Sql.Expr) (c : Connective) :
    ∀ e : Expression, c.isNegated = e.connective.isNegated → e.defective = false →
      (appendExpression scope acc c e).Succeeds
  | ⟨name, value, relation, c', true⟩, hc, hd => by
    -- a raw condition: checked on its own
    obtain ⟨hneg, hscalar, hcount⟩ := (rawFlawed_eq_false_iff _).1 hd
    exact (appendExpression_raw_succeeds_iff scope acc c name value relation c').2
      ⟨hc.trans hneg, hscalar, hcount⟩
  | ⟨name, value, relation, c', false⟩, _, hd => by
    simp only [Expression.defective, Bool.false_eq_true, if_false, Bool.or_eq_false_iff] at hd
    unfold appendExpression
    exact of_bind (toPredicate_succeeds scope name value relation hd.1 hd.2) fun _ _ => ok _

theorem appendExpressions_succeeds (scope : List String) :
    ∀ (acc : Option Sql.Expr) (first : Bool) (es : List Expression),
      Expression.listDefective es = false → (appendExpressions scope acc first es).Succeeds
  | _, _, [], _ => ok _
  | acc, first, e :: es, h => by
    simp only [Expression.listDefective, Bool.or_eq_false_iff] at h
    exact of_bind (appendExpression_succeeds scope acc _ e
      (Connective.isNegated_leading first _) h.1) fun acc' _ =>
        appendExpressions_succeeds scope acc' false es h.2

theorem appendAllAnd_succeeds (scope : List String) :
    ∀ (acc : Option Sql.Expr) (es : List Expression),
      Expression.listDefective es = false → (appendAllAnd scope acc es).Succeeds
  | _, [], _ => ok _
  | acc, e :: es, h => by
    simp only [Expression.listDefective, Bool.or_eq_false_iff] at h
    exact of_bind (appendExpression_succeeds scope acc _ e
      (Connective.isNegated_toAnd _) h.1) fun acc' _ => appendAllAnd_succeeds scope acc' es h.2

theorem applyFilter_succeeds (scope : List String) :
    ∀ (acc : Option Sql.Expr) (f : Filter), f.defective = false → (applyFilter scope acc f).Succeeds
  | acc, ⟨es, fs, c⟩, h => by
    simp only [Filter.defective, Bool.or_eq_false_iff] at h
    exact of_bind (appendExpressions_succeeds scope acc true es h.1) fun r _ =>
      applyChildren_succeeds scope r.1 r.2 c fs h.2

theorem applyChildren_succeeds (scope : List String) :
    ∀ (acc : Option Sql.Expr) (first : Bool) (c : Connective) (fs : List Filter),
      Filter.listDefective fs = false → (applyChildren scope acc first c fs).Succeeds
  | _, _, _, [], _ => ok _
  | _, _, c, f :: fs, h => by
    simp only [Filter.listDefective, Bool.or_eq_false_iff] at h
    exact of_bind (applyFilter_succeeds scope none f h.1) fun _ _ =>
      applyChildren_succeeds scope _ false c fs h.2

theorem compileCondition_succeeds (scope : List String) :
    ∀ f : Option Filter, Filter.optDefective f = false → (compileCondition scope f).Succeeds
  | none, _ => ok _
  | some f, h => applyFilter_succeeds scope none f h

theorem declareCte_succeeds :
    ∀ (d : Declared) (c : Cte), c.defective = false → (declareCte d c).Succeeds
  | d, ⟨aliasName, .select s⟩, h => by
    unfold declareCte
    split
    · exact ok _
    · exact of_bind (compileSelect_succeeds d.1 s h) fun _ _ => ok _
  | d, ⟨aliasName, .rawSql _⟩, _ => by
    unfold declareCte
    split
    · exact ok _
    · exact ok _

theorem declareCtes_succeeds :
    ∀ (d : Declared) (cs : List Cte), Cte.listDefective cs = false → (declareCtes d cs).Succeeds
  | _, [], _ => ok _
  | d, c :: cs, h => by
    simp only [Cte.listDefective, Bool.or_eq_false_iff] at h
    exact of_bind (declareCte_succeeds d c h.1) fun d' _ => declareCtes_succeeds d' cs h.2

theorem declareSourceCte_succeeds :
    ∀ (d : Declared) (src : Option Source), Source.optDefective src = false →
      (declareSourceCte d src).Succeeds
  | d, some (.cte c), h => declareCte_succeeds d c h
  | _, none, _ | _, some (.table _), _ | _, some (.derived _), _ => ok _

theorem declareJoinCtes_succeeds :
    ∀ (d : Declared) (js : List Join), Join.listDefective js = false →
      (declareJoinCtes d js).Succeeds
  | _, [], _ => ok _
  | d, ⟨.cte c, _, _, _⟩ :: js, h => by
    simp only [Join.listDefective, Join.defective, Source.defective, Bool.or_eq_false_iff,
      and_assoc] at h
    exact of_bind (declareCte_succeeds d c h.1) fun d' _ => declareJoinCtes_succeeds d' js h.2.2.2
  | d, ⟨.table _, _, _, _⟩ :: js, h | d, ⟨.derived _, _, _, _⟩ :: js, h => by
    simp only [Join.listDefective, Bool.or_eq_false_iff] at h
    exact declareJoinCtes_succeeds d js h.2

theorem declareCombineCtes_succeeds :
    ∀ (d : Declared) (cs : List Combine), Combine.listDefective cs = false →
      (declareCombineCtes d cs).Succeeds
  | _, [], _ => ok _
  | d, ⟨⟨ctes, source, _, joins, _, _, _, _, _⟩, _⟩ :: cs, h => by
    simp only [Combine.listDefective, Combine.defective, Select.defective, Bool.or_eq_false_iff,
      and_assoc] at h
    obtain ⟨hctes, hsrc, -, hjoins, -, -, -, -, hcs⟩ := h
    exact of_bind (declareCtes_succeeds d ctes hctes) fun d₁ _ =>
      of_bind (declareSourceCte_succeeds d₁ source hsrc) fun d₂ _ =>
        of_bind (declareJoinCtes_succeeds d₂ joins hjoins) fun d₃ _ =>
          declareCombineCtes_succeeds d₃ cs hcs

theorem compileSource_succeeds (scope : List String) :
    ∀ src : Source, src.defective = false → (compileSource scope src).Succeeds
  | .table _, _ => ok _
  | .derived ⟨s, _⟩, h => of_bind (compileSelect_succeeds scope s h) fun _ _ => ok _
  | .cte ⟨_, _⟩, _ => ok _

theorem compileOptSource_succeeds (scope : List String) :
    ∀ src : Option Source, Source.optDefective src = false → (compileOptSource scope src).Succeeds
  | none, _ => ok _
  | some src, h => of_bind (compileSource_succeeds scope src h) fun _ _ => ok _

theorem compileJoins_succeeds (scope : List String) :
    ∀ (left : Option Sql.FromItem) (js : List Join), (left = none → js = []) →
      Join.listDefective js = false → (compileJoins scope left js).Succeeds
  | _, [], _, _ => ok _
  | none, _ :: _, hleft, _ => absurd (hleft rfl) (List.cons_ne_nil _ _)
  | some l, ⟨target, ⟨name, value, relation, c, raw⟩, es, kind⟩ :: js, _, h => by
    simp only [Join.listDefective, Join.defective, Bool.or_eq_false_iff, and_assoc] at h
    obtain ⟨htarget, hon, hes, hjs⟩ := h
    unfold compileJoins
    dsimp only
    refine of_bind (ok l) fun l' hl' => ?_
    cases hl'
    refine of_bind (compileSource_succeeds scope target htarget) fun right _ => ?_
    have hrest : ∀ cond, (do
        let cond ← appendAllAnd scope cond es
        compileJoins scope (some (.join l kind right cond)) js).Succeeds := fun cond =>
      of_bind (appendAllAnd_succeeds scope cond es hes) fun _ _ =>
        compileJoins_succeeds scope _ js (fun h => nomatch h) hjs
    -- the `on` condition: raw SQL, or a comparison of two columns
    cases raw with
    | true =>
      obtain ⟨hneg, hscalar, hcount⟩ := (rawFlawed_eq_false_iff _).1 (by simpa [Expression.onFlawed] using hon)
      exact of_bind ((appendExpression_raw_succeeds_iff scope none _ name value relation c).2
        ⟨(Connective.isNegated_toAnd c).trans hneg, hscalar, hcount⟩) fun cond _ => hrest cond
    | false =>
      simp only [Expression.onFlawed, Bool.false_eq_true, if_false, Bool.or_eq_false_iff,
        Bool.not_eq_false'] at hon
      exact of_bind ((joinComparison_succeeds_iff _).2 hon) fun _ _ =>
        of_bind (ok _) fun cond _ => hrest cond

theorem compileCombines_succeeds (scope : List String) :
    ∀ (stmt : Sql.Query) (i : Nat) (cs : List Combine), Combine.listDefective cs = false →
      (compileCombines scope stmt i cs).Succeeds
  | _, _, [], _ => ok _
  | stmt, i, ⟨s, op⟩ :: cs, h => by
    simp only [Combine.listDefective, Combine.defective, Bool.or_eq_false_iff, Bool.not_eq_false',
      List.isEmpty_iff] at h
    obtain ⟨⟨hs, hsorts⟩, hcs⟩ := h
    unfold compileCombines
    refine of_bind (compileSelect_succeeds scope s hs) fun member hmember => ?_
    -- a combined select without sort keys compiles to one without sorting
    have horder : member.orderBy = [] := by rw [compileSelect_orderBy hmember, hsorts, List.map_nil]
    rw [if_neg (by simp [horder])]
    exact compileCombines_succeeds scope _ _ cs hcs

theorem compileSelect_succeeds (scope : List String) :
    ∀ s : Select, s.defective = false → (compileSelect scope s).Succeeds
  | ⟨ctes, source, fields, joins, filter, groupBys, having, sorts, combines⟩, h => by
    simp only [Select.defective, Bool.or_eq_false_iff, and_assoc] at h
    obtain ⟨hctes, hsrc, hnone, hjoins, hfilter, hhaving, hcombines⟩ := h
    unfold compileSelect
    refine of_bind (declareCtes_succeeds _ ctes hctes) fun d₁ _ =>
      of_bind (declareSourceCte_succeeds d₁ source hsrc) fun d₂ _ =>
        of_bind (declareJoinCtes_succeeds d₂ joins hjoins) fun d₃ _ =>
          of_bind (declareCombineCtes_succeeds d₃ combines hcombines) fun d _ =>
            of_bind (compileOptSource_succeeds d.1 source hsrc) fun src hsrc' =>
              of_bind (compileJoins_succeeds d.1 src joins ?_ hjoins) fun _ _ =>
                of_bind (compileCondition_succeeds d.1 filter hfilter) fun _ _ =>
                  of_bind (compileCondition_succeeds d.1 having hhaving) fun _ _ =>
                    compileCombines_succeeds d.1 _ 0 combines hcombines
    -- joins need a source, and the source compiles to none only when there is none
    intro hnosrc
    have hsource : source.isNone = true := by rw [← compileOptSource_isNone hsrc', hnosrc]; rfl
    simpa [hsource] using hnone

end

/-- What declaring a common table expression does: nothing if its name is declared already;
otherwise its name is added, after its body, if a select, compiled in the scope so far. -/
theorem declareCte_ok {d d' : Declared} {c : Cte} (h : declareCte d c = .ok d') :
    (c.aliasName ∈ d.1 ∧ d' = d) ∨
      (d'.1 = d.1 ++ [c.aliasName] ∧ ∀ s, c.query = .select s → (compileSelect d.1 s).Succeeds) := by
  obtain ⟨aliasName, query⟩ := c
  unfold declareCte at h
  split at h
  next hin =>
    cases h
    exact .inl ⟨by simpa using hin, rfl⟩
  next =>
    dsimp only at h
    cases query with
    | select s =>
      obtain ⟨q, hq, h⟩ := Result.bind_eq_ok.1 h
      cases h
      exact .inr ⟨rfl, fun s' hs' => by cases hs'; exact ⟨q, hq⟩⟩
    | rawSql sql =>
      cases h
      exact .inr ⟨rfl, fun s hs => by cases hs⟩

/-! ### A part that compiles has no defect -/

section Clean

variable {U : List Cte}

mutual

theorem toPredicate_ok_clean (scope : List String) (hscope : GoodScope U scope) (name : String) :
    ∀ (value : Value) (relation : Relation) {p : Predicate}, value.allCtes ⊆ U →
      toPredicate scope name value relation = .ok p →
      relation.flawed value = false ∧ (relation.readsSelect && value.selectDefective) = false
  | value, .equalTo, _, _, h | value, .greaterThan, _, _, h
  | value, .greaterThanOrEqualTo, _, _, h | value, .lessThan, _, _, h
  | value, .lessThanOrEqualTo, _, _, h => by
    unfold toPredicate at h
    split at h
    next hnull =>
      -- only `= null` takes this branch, and `null` is a scalar
      have hscalar := Value.isScalar_of_isNull ((Bool.and_eq_true _ _).mp hnull).2
      exact ⟨by simpa [Relation.flawed] using hscalar, rfl⟩
    next =>
      dsimp only [comparisonOperator] at h
      obtain ⟨v, hv, -⟩ := Result.bind_eq_ok.1 h
      exact ⟨by simpa [Relation.flawed] using (toParam_succeeds_iff value).1 ⟨v, hv⟩, rfl⟩
  | .query s, .isIn, _, hsub, h => by
    unfold toPredicate at h
    obtain ⟨q, hq, -⟩ := Result.bind_eq_ok.1 h
    exact ⟨rfl, compileSelect_ok_clean scope hscope s hsub hq⟩
  | .list vs, .isIn, _, _, h => by
    unfold toPredicate at h
    obtain ⟨ps, hps, -⟩ := Result.bind_eq_ok.1 h
    exact ⟨by simpa [Relation.flawed] using (mapM_toParam_succeeds_iff vs).1 ⟨ps, hps⟩, rfl⟩
  | .null, .isIn, _, _, _ => ⟨rfl, rfl⟩
  | .bool _, .isIn, _, _, h | .integer _, .isIn, _, _, h | .float _, .isIn, _, _, h
  | .text _, .isIn, _, _, h => by
    unfold toPredicate at h
    cases h
  | _, .nullValue, _, _, _ | _, .trueValue, _, _, _ => ⟨rfl, rfl⟩
  | .query s, .exists, _, hsub, h => by
    unfold toPredicate at h
    obtain ⟨q, hq, -⟩ := Result.bind_eq_ok.1 h
    exact ⟨rfl, compileSelect_ok_clean scope hscope s hsub hq⟩
  | .null, .exists, _, _, h | .bool _, .exists, _, _, h | .integer _, .exists, _, _, h
  | .float _, .exists, _, _, h | .text _, .exists, _, _, h | .list _, .exists, _, _, h => by
    unfold toPredicate at h
    cases h
  | value, .startsWith, _, _, h | value, .endsWith, _, _, h | value, .contains, _, _, h => by
    unfold toPredicate at h
    exact ⟨by simpa [Relation.flawed] using (likeCondition_succeeds_iff _ _ _).1 ⟨_, h⟩, rfl⟩

theorem appendExpression_ok_clean (scope : List String) (hscope : GoodScope U scope)
    (acc : Option Sql.Expr) (c : Connective) :
    ∀ (e : Expression) {r : Option Sql.Expr}, e.allCtes ⊆ U → c.isNegated = e.connective.isNegated →
      appendExpression scope acc c e = .ok r → e.defective = false
  | ⟨name, value, relation, c', true⟩, _, _, hc, h => by
    obtain ⟨hneg, hscalar, hcount⟩ :=
      (appendExpression_raw_succeeds_iff scope acc c name value relation c').1 ⟨_, h⟩
    exact (rawFlawed_eq_false_iff _).2 ⟨hc.symm.trans hneg, hscalar, hcount⟩
  | ⟨name, value, relation, c', false⟩, _, hsub, _, h => by
    unfold appendExpression at h
    rw [if_neg Bool.false_ne_true] at h
    obtain ⟨p, hp, -⟩ := Result.bind_eq_ok.1 h
    obtain ⟨hflaw, hread⟩ := toPredicate_ok_clean scope hscope name value relation hsub hp
    simp only [Expression.defective, Bool.false_eq_true, if_false, hflaw, hread, Bool.or_self]

theorem appendExpressions_ok_clean (scope : List String) (hscope : GoodScope U scope) :
    ∀ (acc : Option Sql.Expr) (first : Bool) (es : List Expression) {r : Option Sql.Expr × Bool},
      Expression.listAllCtes es ⊆ U → appendExpressions scope acc first es = .ok r →
      Expression.listDefective es = false
  | _, _, [], _, _, _ => rfl
  | acc, first, e :: es, _, hsub, h => by
    simp only [Expression.listAllCtes, List.append_subset] at hsub
    obtain ⟨acc', hacc', h⟩ := Result.bind_eq_ok.1 h
    have he := appendExpression_ok_clean scope hscope acc _ e hsub.1
      (Connective.isNegated_leading first _) hacc'
    have hes := appendExpressions_ok_clean scope hscope acc' false es hsub.2 h
    simp only [Expression.listDefective, he, hes, Bool.or_self]

theorem appendAllAnd_ok_clean (scope : List String) (hscope : GoodScope U scope) :
    ∀ (acc : Option Sql.Expr) (es : List Expression) {r : Option Sql.Expr},
      Expression.listAllCtes es ⊆ U → appendAllAnd scope acc es = .ok r →
      Expression.listDefective es = false
  | _, [], _, _, _ => rfl
  | acc, e :: es, _, hsub, h => by
    simp only [Expression.listAllCtes, List.append_subset] at hsub
    obtain ⟨acc', hacc', h⟩ := Result.bind_eq_ok.1 h
    have he := appendExpression_ok_clean scope hscope acc _ e hsub.1
      (Connective.isNegated_toAnd _) hacc'
    have hes := appendAllAnd_ok_clean scope hscope acc' es hsub.2 h
    simp only [Expression.listDefective, he, hes, Bool.or_self]

theorem applyFilter_ok_clean (scope : List String) (hscope : GoodScope U scope) :
    ∀ (acc : Option Sql.Expr) (f : Filter) {r : Option Sql.Expr}, f.allCtes ⊆ U →
      applyFilter scope acc f = .ok r → f.defective = false
  | acc, ⟨es, fs, c⟩, _, hsub, h => by
    simp only [Filter.allCtes, List.append_subset] at hsub
    obtain ⟨⟨acc', first⟩, hes, h⟩ := Result.bind_eq_ok.1 h
    have hesd := appendExpressions_ok_clean scope hscope acc true es hsub.1 hes
    have hfs := applyChildren_ok_clean scope hscope acc' first c fs hsub.2 h
    simp only [Filter.defective, hesd, hfs, Bool.or_self]

theorem applyChildren_ok_clean (scope : List String) (hscope : GoodScope U scope) :
    ∀ (acc : Option Sql.Expr) (first : Bool) (c : Connective) (fs : List Filter)
      {r : Option Sql.Expr}, Filter.listAllCtes fs ⊆ U → applyChildren scope acc first c fs = .ok r →
      Filter.listDefective fs = false
  | _, _, _, [], _, _, _ => rfl
  | _, _, c, f :: fs, _, hsub, h => by
    simp only [Filter.listAllCtes, List.append_subset] at hsub
    obtain ⟨g, hg, h⟩ := Result.bind_eq_ok.1 h
    have hf := applyFilter_ok_clean scope hscope none f hsub.1 hg
    have hfs := applyChildren_ok_clean scope hscope _ false c fs hsub.2 h
    simp only [Filter.listDefective, hf, hfs, Bool.or_self]

theorem compileCondition_ok_clean (scope : List String) (hscope : GoodScope U scope) :
    ∀ (f : Option Filter) {r : Option Sql.Expr}, Filter.optAllCtes f ⊆ U →
      compileCondition scope f = .ok r → Filter.optDefective f = false
  | none, _, _, _ => rfl
  | some f, _, hsub, h => applyFilter_ok_clean scope hscope none f hsub h

theorem declareCte_ok_clean :
    ∀ (d : Declared) (c : Cte) {d' : Declared}, GoodScope U d.1 → c.allCtes ⊆ U →
      declareCte d c = .ok d' → c.defective = false ∧ GoodScope U d'.1
  | d, ⟨aliasName, .select s⟩, _, hscope, hsub, h => by
    have hc := hsub (Cte.mem_allCtes _)
    rcases declareCte_ok h with ⟨hin, rfl⟩ | ⟨hnames, hbody⟩
    · -- declared already: by uniqueness, the declaration in force is this one
      exact ⟨hscope.clean _ hc hin, hscope⟩
    · obtain ⟨q, hq⟩ := hbody s rfl
      have hd : s.defective = false :=
        compileSelect_ok_clean d.1 hscope s (List.cons_subset.1 hsub).2 hq
      refine ⟨hd, ?_⟩
      rw [hnames]
      exact hscope.declare hc hd
  | d, ⟨aliasName, .rawSql _⟩, _, hscope, hsub, h => by
    have hc := hsub (Cte.mem_allCtes _)
    rcases declareCte_ok h with ⟨-, rfl⟩ | ⟨hnames, -⟩
    · exact ⟨rfl, hscope⟩
    · refine ⟨rfl, ?_⟩
      rw [hnames]
      exact hscope.declare hc rfl

theorem declareCtes_ok_clean :
    ∀ (d : Declared) (cs : List Cte) {d' : Declared}, GoodScope U d.1 → Cte.listAllCtes cs ⊆ U →
      declareCtes d cs = .ok d' → Cte.listDefective cs = false ∧ GoodScope U d'.1
  | d, [], _, hscope, _, h => by
    cases h
    exact ⟨rfl, hscope⟩
  | d, c :: cs, _, hscope, hsub, h => by
    simp only [Cte.listAllCtes, List.append_subset] at hsub
    obtain ⟨d₁, h₁, h⟩ := Result.bind_eq_ok.1 h
    obtain ⟨hc, hscope₁⟩ := declareCte_ok_clean d c hscope hsub.1 h₁
    obtain ⟨hcs, hscope'⟩ := declareCtes_ok_clean d₁ cs hscope₁ hsub.2 h
    exact ⟨by simp only [Cte.listDefective, hc, hcs, Bool.or_self], hscope'⟩

theorem declareSourceCte_ok_clean :
    ∀ (d : Declared) (src : Option Source) {d' : Declared}, GoodScope U d.1 →
      Source.optAllCtes src ⊆ U → declareSourceCte d src = .ok d' →
      (∀ c, src = some (.cte c) → c.defective = false) ∧ GoodScope U d'.1
  | d, some (.cte c), _, hscope, hsub, h => by
    obtain ⟨hc, hscope'⟩ := declareCte_ok_clean d c hscope hsub h
    refine ⟨fun c' hc' => ?_, hscope'⟩
    cases hc'
    exact hc
  | d, none, _, hscope, _, h | d, some (.table _), _, hscope, _, h
  | d, some (.derived _), _, hscope, _, h => by
    cases h
    exact ⟨fun _ hc => (by cases hc), hscope⟩

theorem declareJoinCtes_ok_clean :
    ∀ (d : Declared) (js : List Join) {d' : Declared}, GoodScope U d.1 →
      Join.listAllCtes js ⊆ U → declareJoinCtes d js = .ok d' →
      (∀ j ∈ js, ∀ c, j.target = .cte c → c.defective = false) ∧ GoodScope U d'.1
  | d, [], _, hscope, _, h => by
    cases h
    exact ⟨fun _ hj => absurd hj List.not_mem_nil, hscope⟩
  | d, ⟨.cte c, on, es, kind⟩ :: js, _, hscope, hsub, h => by
    simp only [Join.listAllCtes, Join.allCtes, Source.allCtes, List.append_subset] at hsub
    obtain ⟨d₁, h₁, h⟩ := Result.bind_eq_ok.1 h
    obtain ⟨hc, hscope₁⟩ := declareCte_ok_clean d c hscope hsub.1.1.1 h₁
    obtain ⟨hjs, hscope'⟩ := declareJoinCtes_ok_clean d₁ js hscope₁ hsub.2 h
    refine ⟨List.forall_mem_cons.2 ⟨fun c' hc' => ?_, hjs⟩, hscope'⟩
    cases hc'
    exact hc
  | d, ⟨.table _, on, es, kind⟩ :: js, _, hscope, hsub, h
  | d, ⟨.derived _, on, es, kind⟩ :: js, _, hscope, hsub, h => by
    simp only [Join.listAllCtes, List.append_subset] at hsub
    obtain ⟨hjs, hscope'⟩ := declareJoinCtes_ok_clean d js hscope hsub.2 h
    exact ⟨List.forall_mem_cons.2 ⟨fun _ hc' => (by cases hc'), hjs⟩, hscope'⟩

theorem declareCombineCtes_ok_clean :
    ∀ (d : Declared) (cs : List Combine) {d' : Declared}, GoodScope U d.1 →
      Combine.listAllCtes cs ⊆ U → declareCombineCtes d cs = .ok d' → GoodScope U d'.1
  | d, [], _, hscope, _, h => by
    cases h
    exact hscope
  | d, ⟨⟨ctes, source, _, joins, _, _, _, _, _⟩, _⟩ :: cs, _, hscope, hsub, h => by
    simp only [Combine.listAllCtes, Select.allCtes, List.append_subset, and_assoc] at hsub
    obtain ⟨hctes, hsrc, hjoins, -, -, -, hcs⟩ := hsub
    obtain ⟨d₁, h₁, h⟩ := Result.bind_eq_ok.1 h
    obtain ⟨d₂, h₂, h⟩ := Result.bind_eq_ok.1 h
    obtain ⟨d₃, h₃, h⟩ := Result.bind_eq_ok.1 h
    have hscope₁ := (declareCtes_ok_clean d ctes hscope hctes h₁).2
    have hscope₂ := (declareSourceCte_ok_clean d₁ source hscope₁ hsrc h₂).2
    have hscope₃ := (declareJoinCtes_ok_clean d₂ joins hscope₂ hjoins h₃).2
    exact declareCombineCtes_ok_clean d₃ cs hscope₃ hcs h

theorem compileSource_ok_clean (scope : List String) (hscope : GoodScope U scope) :
    ∀ (src : Source) {f : Sql.FromItem}, src.allCtes ⊆ U →
      (∀ c, src = .cte c → c.defective = false) → compileSource scope src = .ok f →
      src.defective = false
  | .table _, _, _, _, _ => rfl
  | .derived ⟨s, _⟩, _, hsub, _, h => by
    obtain ⟨q, hq, -⟩ := Result.bind_eq_ok.1 h
    exact compileSelect_ok_clean scope hscope s hsub hq
  | .cte c, _, _, hcte, _ => hcte c rfl

theorem compileOptSource_ok_clean (scope : List String) (hscope : GoodScope U scope) :
    ∀ (src : Option Source) {f : Option Sql.FromItem}, Source.optAllCtes src ⊆ U →
      (∀ c, src = some (.cte c) → c.defective = false) → compileOptSource scope src = .ok f →
      Source.optDefective src = false
  | none, _, _, _, _ => rfl
  | some src, _, hsub, hcte, h => by
    obtain ⟨f, hf, -⟩ := Result.bind_eq_ok.1 h
    exact compileSource_ok_clean scope hscope src hsub (fun c hc => hcte c (by rw [hc])) hf

theorem compileJoins_ok_clean (scope : List String) (hscope : GoodScope U scope) :
    ∀ (left : Option Sql.FromItem) (js : List Join) {r : Option Sql.FromItem},
      Join.listAllCtes js ⊆ U → (∀ j ∈ js, ∀ c, j.target = .cte c → c.defective = false) →
      compileJoins scope left js = .ok r → Join.listDefective js = false ∧ (left = none → js = [])
  | _, [], _, _, _, _ => ⟨rfl, fun _ => rfl⟩
  | none, ⟨_, _, _, _⟩ :: _, _, _, _, h => by
    unfold compileJoins at h
    dsimp only at h
    obtain ⟨_, hl, -⟩ := Result.bind_eq_ok.1 h
    cases hl
  | some l, ⟨target, ⟨name, value, relation, c, raw⟩, es, kind⟩ :: js, r, hsub, hcte, h => by
    simp only [Join.listAllCtes, Join.allCtes, List.append_subset] at hsub
    obtain ⟨⟨⟨htargetU, -⟩, hesU⟩, hjsU⟩ := hsub
    unfold compileJoins at h
    dsimp only at h
    obtain ⟨l', hl', h⟩ := Result.bind_eq_ok.1 h
    cases hl'
    obtain ⟨right, hright, h⟩ := Result.bind_eq_ok.1 h
    have htarget := compileSource_ok_clean scope hscope target htargetU
      (hcte _ List.mem_cons_self) hright
    -- what follows the `on` condition: the further conditions, then the next joins
    have hrest : ∀ cond, (do
        let cond ← appendAllAnd scope cond es
        compileJoins scope (some (.join l kind right cond)) js) = .ok r →
        Expression.listDefective es = false ∧ Join.listDefective js = false := fun cond h => by
      obtain ⟨cond', hes, h⟩ := Result.bind_eq_ok.1 h
      exact ⟨appendAllAnd_ok_clean scope hscope cond es hesU hes,
        (compileJoins_ok_clean scope hscope _ js hjsU
          (fun j hj => hcte j (List.mem_cons_of_mem _ hj)) h).1⟩
    refine ⟨?_, fun hnone => nomatch hnone⟩
    -- the `on` condition: raw SQL, or a comparison of two columns
    cases raw with
    | true =>
      rw [if_pos rfl] at h
      obtain ⟨cond, hcond, h⟩ := Result.bind_eq_ok.1 h
      obtain ⟨hneg, hscalar, hcount⟩ :=
        (appendExpression_raw_succeeds_iff scope none _ name value relation c).1 ⟨_, hcond⟩
      have hon := (rawFlawed_eq_false_iff ⟨name, value, relation, c, true⟩).2
        ⟨(Connective.isNegated_toAnd c).symm.trans hneg, hscalar, hcount⟩
      obtain ⟨hesd, hjs⟩ := hrest cond h
      simp only [Join.listDefective, Join.defective, Expression.onFlawed, if_true, htarget, hon,
        hesd, hjs, Bool.or_self]
    | false =>
      rw [if_neg Bool.false_ne_true] at h
      obtain ⟨e, he, h⟩ := Result.bind_eq_ok.1 h
      obtain ⟨hcomp, htext⟩ := (joinComparison_succeeds_iff _).1 ⟨e, he⟩
      obtain ⟨hesd, hjs⟩ := hrest _ h
      simp only [Join.listDefective, Join.defective, Expression.onFlawed, Bool.false_eq_true,
        if_false, hcomp, htext, htarget, hesd, hjs, Bool.not_true, Bool.or_self]

theorem compileCombines_ok_clean (scope : List String) (hscope : GoodScope U scope) :
    ∀ (stmt : Sql.Query) (i : Nat) (cs : List Combine) {q : Sql.Query},
      Combine.listAllCtes cs ⊆ U → compileCombines scope stmt i cs = .ok q →
      Combine.listDefective cs = false
  | _, _, [], _, _, _ => rfl
  | stmt, i, ⟨s, op⟩ :: cs, _, hsub, h => by
    simp only [Combine.listAllCtes, List.append_subset] at hsub
    unfold compileCombines at h
    obtain ⟨member, hmember, h⟩ := Result.bind_eq_ok.1 h
    split at h
    · cases h
    next hsorted =>
      dsimp only at h
      have hs := compileSelect_ok_clean scope hscope s hsub.1 hmember
      -- the combined select compiled without sorting, so it has no sort keys
      have hsorts : s.sorts = [] := by
        have horder : member.orderBy = [] := by simpa using hsorted
        rw [compileSelect_orderBy hmember] at horder
        exact List.map_eq_nil_iff.1 horder
      have hcs := compileCombines_ok_clean scope hscope _ _ cs hsub.2 h
      simp only [Combine.listDefective, Combine.defective, hs, hsorts, hcs, List.isEmpty_nil,
        Bool.not_true, Bool.or_self]

theorem compileSelect_ok_clean (scope : List String) (hscope : GoodScope U scope) :
    ∀ (s : Select) {q : Sql.Query}, s.allCtes ⊆ U → compileSelect scope s = .ok q →
      s.defective = false
  | ⟨ctes, source, fields, joins, filter, groupBys, having, sorts, combines⟩, _, hsub, h => by
    simp only [Select.allCtes, List.append_subset, and_assoc] at hsub
    obtain ⟨hctesU, hsrcU, hjoinsU, hfilterU, hhavingU, hcombinesU⟩ := hsub
    obtain ⟨d₁, d₂, d₃, d, src, src', flt, hv, h₁, h₂, h₃, h₄, h₅, h₆, h₇, h₈, h⟩ :=
      compileSelect_steps h
    -- the declarations: each declared body has no defect, and the scope stays good
    obtain ⟨hctes, hscope₁⟩ := declareCtes_ok_clean (scope, []) ctes hscope hctesU h₁
    obtain ⟨hsrcCte, hscope₂⟩ := declareSourceCte_ok_clean d₁ source hscope₁ hsrcU h₂
    obtain ⟨hjoinCtes, hscope₃⟩ := declareJoinCtes_ok_clean d₂ joins hscope₂ hjoinsU h₃
    have hscope₄ := declareCombineCtes_ok_clean d₃ combines hscope₃ hcombinesU h₄
    -- the parts compiled in the scope of all declarations
    have hsrc := compileOptSource_ok_clean d.1 hscope₄ source hsrcU hsrcCte h₅
    obtain ⟨hjoins, hnojoins⟩ := compileJoins_ok_clean d.1 hscope₄ src joins hjoinsU hjoinCtes h₆
    have hfilter := compileCondition_ok_clean d.1 hscope₄ filter hfilterU h₇
    have hhaving := compileCondition_ok_clean d.1 hscope₄ having hhavingU h₈
    have hcombines := compileCombines_ok_clean d.1 hscope₄ _ 0 combines hcombinesU h
    have hnone : (source.isNone && !joins.isEmpty) = false := by
      cases hs : source.isNone
      · rfl
      · have hsrcnone : src = none := by
          rw [← Option.isNone_iff_eq_none, compileOptSource_isNone h₅, hs]
        simp [hnojoins hsrcnone]
    simp only [Select.defective, hctes, hsrc, hnone, hjoins, hfilter, hhaving, hcombines,
      Bool.or_self]

end

end Clean

/-! ### Statements -/

/-- Field values bind exactly when each is a scalar. -/
theorem mapM_fieldValues_succeeds_iff {β : Type} (fields : List FieldValue)
    (g : FieldValue → Sql.Param → β) :
    (fields.mapM fun (f : FieldValue) => do
        let p ← Value.toParam f.value
        pure (g f p)).Succeeds ↔ fields.all (fun f => f.value.isScalar) = true := by
  rw [mapM_iff, List.all_eq_true]
  refine forall₂_congr fun f _ => ?_
  rw [← toParam_succeeds_iff]
  constructor
  · rintro ⟨_, h⟩
    obtain ⟨p, hp, -⟩ := Result.bind_eq_ok.1 h
    exact ⟨p, hp⟩
  · intro hp
    exact of_bind hp fun _ _ => ok _

theorem compileFlatCondition_succeeds (es : List Expression)
    (h : Expression.listDefective es = false) : (compileFlatCondition es).Succeeds :=
  of_bind (appendExpressions_succeeds [] none true es h) fun _ _ => ok _

theorem compileFlatCondition_ok_clean {U : List Cte} {es : List Expression} {r : Option Sql.Expr}
    (hU : CtesUnique U) (hsub : Expression.listAllCtes es ⊆ U) (h : compileFlatCondition es = .ok r) :
    Expression.listDefective es = false := by
  obtain ⟨_, hes, -⟩ := Result.bind_eq_ok.1 h
  exact appendExpressions_ok_clean [] (goodScope_nil hU) none true es hsub hes

theorem compileInsert_succeeds (s : Insert) (h : s.defective = false) :
    (compileInsert s).Succeeds := by
  obtain ⟨table, fields, query⟩ := s
  unfold compileInsert
  cases query with
  | none =>
    simp only [Insert.defective, Bool.or_eq_false_iff, Bool.not_eq_false'] at h
    obtain ⟨hfields, hscalar⟩ := h
    simp only [hfields]
    exact of_bind ((mapM_fieldValues_succeeds_iff fields _).2 hscalar) fun _ _ => ok _
  | some q =>
    simp only [Insert.defective, Bool.or_eq_false_iff, Bool.not_eq_false'] at h
    obtain ⟨⟨hfields, hprojects⟩, hq⟩ := h
    simp only [hfields, hprojects, Bool.false_eq_true, if_false]
    exact of_bind (compileSelect_succeeds [] q hq) fun _ _ => ok _

theorem compileInsert_ok_clean {U : List Cte} {s : Insert} {r : Sql.InsertStmt} (hU : CtesUnique U)
    (hsub : (s.query.map Select.allCtes).getD [] ⊆ U) (h : compileInsert s = .ok r) :
    s.defective = false := by
  obtain ⟨table, fields, query⟩ := s
  unfold compileInsert at h
  cases query with
  | none =>
    cases hfields : fields.isEmpty
    · simp only [hfields] at h
      obtain ⟨_, hrow, -⟩ := Result.bind_eq_ok.1 h
      have hscalar := (mapM_fieldValues_succeeds_iff fields fun _ p => Sql.Expr.bound p).1 ⟨_, hrow⟩
      simp only [Insert.defective, hfields, hscalar, Bool.not_true, Bool.or_self]
    · simp only [hfields] at h
      cases h
  | some q =>
    cases hfields : fields.isEmpty
    · simp only [hfields] at h
      cases h
    · simp only [hfields] at h
      split at h
      · cases h
      next hprojects =>
        obtain ⟨_, hq, -⟩ := Result.bind_eq_ok.1 h
        have hclean := compileSelect_ok_clean [] (goodScope_nil hU) q hsub hq
        simp only [Insert.defective, hfields, hclean, Bool.not_true, Bool.or_false,
          Bool.false_or]
        simpa using hprojects

theorem compileUpdate_succeeds (s : Update) (h : s.defective = false) :
    (compileUpdate s).Succeeds := by
  simp only [Update.defective, Bool.or_eq_false_iff, Bool.not_eq_false'] at h
  obtain ⟨⟨hfields, hscalar⟩, hfilters⟩ := h
  unfold compileUpdate
  rw [if_neg (by simp [hfields])]
  exact of_bind ((mapM_fieldValues_succeeds_iff s.fields _).2 hscalar) fun _ _ =>
    of_bind (compileFlatCondition_succeeds s.filters hfilters) fun _ _ => ok _

theorem compileUpdate_ok_clean {U : List Cte} {s : Update} {r : Sql.UpdateStmt} (hU : CtesUnique U)
    (hsub : Expression.listAllCtes s.filters ⊆ U) (h : compileUpdate s = .ok r) :
    s.defective = false := by
  unfold compileUpdate at h
  split at h
  · cases h
  next hfields =>
    obtain ⟨_, hset, h⟩ := Result.bind_eq_ok.1 h
    obtain ⟨_, hfilter, -⟩ := Result.bind_eq_ok.1 h
    have hscalar :=
      (mapM_fieldValues_succeeds_iff s.fields fun f p => (f.name, Sql.Expr.bound p)).1 ⟨_, hset⟩
    have hfilters := compileFlatCondition_ok_clean hU hsub hfilter
    simp only [Update.defective, hscalar, hfilters, Bool.not_true, Bool.or_false]
    simpa using hfields

theorem compileStatement_succeeds :
    ∀ s : Statement, s.defective = false → (compileStatement s).Succeeds
  | .select s, h => of_map _ (compileSelect_succeeds [] s h)
  | .insert s, h => of_map _ (compileInsert_succeeds s h)
  | .update s, h => of_map _ (compileUpdate_succeeds s h)
  | .delete s, h => of_map _ (of_bind (compileFlatCondition_succeeds s.filters h) fun _ _ => ok _)

theorem compileStatement_ok_clean :
    ∀ (s : Statement) {stmt : Sql.Stmt}, CtesUnique s.allCtes → compileStatement s = .ok stmt →
      s.defective = false
  | .select s, _, hU, h => by
    obtain ⟨_, hq, -⟩ := Result.map_eq_ok.1 h
    exact compileSelect_ok_clean [] (goodScope_nil hU) s (List.Subset.refl _) hq
  | .insert s, _, hU, h => by
    obtain ⟨_, hs, -⟩ := Result.map_eq_ok.1 h
    exact compileInsert_ok_clean hU (List.subset_append_right _ _) hs
  | .update s, _, hU, h => by
    obtain ⟨_, hs, -⟩ := Result.map_eq_ok.1 h
    exact compileUpdate_ok_clean hU (List.subset_append_right _ _) hs
  | .delete s, _, hU, h => by
    obtain ⟨_, hs, -⟩ := Result.map_eq_ok.1 h
    obtain ⟨_, hfilter, -⟩ := Result.bind_eq_ok.1 hs
    exact compileFlatCondition_ok_clean hU (List.Subset.refl _) hfilter

/-- When names of common table expressions are unique, compiling a statement fails exactly
when the statement has a defect, and then with a validation error. -/
theorem compileStatement_fails_iff_defective (s : Statement) (hunique : CtesUnique s.allCtes) :
    (compileStatement s).ValidationOnly ∧
      ((∃ e, compileStatement s = .error e) ↔ s.defective = true) := by
  refine ⟨compileStatement_validationOnly s, ⟨?_, fun hd => ?_⟩⟩
  · rintro ⟨e, he⟩
    cases hd : s.defective
    · obtain ⟨stmt, hok⟩ := compileStatement_succeeds s hd
      rw [hok] at he
      cases he
    · rfl
  · cases hr : compileStatement s with
    | error e => exact ⟨e, rfl⟩
    | ok stmt =>
      have hclean := compileStatement_ok_clean s hunique hr
      rw [hd] at hclean
      cases hclean

theorem ctesUnique_singleton (c : Cte) : CtesUnique [c] := fun _ ha _ hb _ =>
  (List.mem_singleton.1 ha).trans (List.mem_singleton.1 hb).symm

/-- A select from a common table expression whose body asks for `id` in a scalar. -/
def scalarInCte : Statement :=
  .select (Select.ofCte (Cte.ofSelect ((Select.ofTable (Table.new "events")).withWhere
    (Filter.empty.withExpression ((Expression.new "id" (.integer 7)).withRelation .isIn))) "recent"))

theorem scalarInCte_fails :
    CtesUnique scalarInCte.allCtes ∧ ((compileStatement scalarInCte).ValidationOnly ∧
      ((∃ e, compileStatement scalarInCte = .error e) ↔ scalarInCte.defective = true)) :=
  have hunique : CtesUnique scalarInCte.allCtes := ctesUnique_singleton _
  ⟨hunique, compileStatement_fails_iff_defective scalarInCte hunique⟩

/-- A raw condition whose value is a scalar. -/
def rawScalarCondition : Expression := ⟨"id = 1", .text "x", .equalTo, .and, true⟩

/-- Making a condition with a scalar value raw is refused, but a raw condition with a scalar
value compiles, with no bindings. -/
theorem raw_scalar_condition_compiles :
    (Expression.new "id = 1" (.text "x")).withRaw =
        invalid "raw expression 'id = 1' needs a list of bindings as its value" ∧
      compileStatement (.delete ⟨Table.new "t", [rawScalarCondition]⟩) =
        .ok (.delete ⟨tableRef (Table.new "t"), some (.raw "id = 1" [])⟩) :=
  ⟨rfl, rfl⟩

end Compile

end QueryDoc
