import QueryDoc.Proofs.Result
import QueryDoc.Compile.Compiler

/-!
How compiling fails.

Compiling a statement fails only where a check of the compiler refuses it, and each check
raises a validation error (`compileStatement_validationOnly`): no other kind of failure can
come out of compiling. The proof follows the compiler's own recursion, one lemma per function
of it, over the outcome property `Result.ValidationOnly`.
-/

namespace QueryDoc

/-- An outcome that fails, if it fails, with a validation error. -/
def Result.ValidationOnly {α : Type} (r : Result α) : Prop :=
  ∀ e, r = .error e → e.isValidation = true

namespace Result.ValidationOnly

variable {α β : Type}

theorem ok (a : α) : Result.ValidationOnly (.ok a : Result α) := fun _ h => by cases h

theorem of_invalid (m : String) : Result.ValidationOnly (invalid m : Result α) := fun _ h => by
  cases h
  rfl

theorem of_bind {x : Result α} {f : α → Result β} (hx : x.ValidationOnly)
    (hf : ∀ a, (f a).ValidationOnly) : (x >>= f).ValidationOnly := by
  intro e h
  cases x with
  | error =>
    cases h
    exact hx _ rfl
  | ok a => exact hf a e h

theorem of_map {x : Result α} (f : α → β) (hx : x.ValidationOnly) : (f <$> x).ValidationOnly := by
  intro e h
  cases x with
  | error =>
    cases h
    exact hx _ rfl
  | ok a => cases h

theorem of_mapM {f : α → Result β} (hf : ∀ a, (f a).ValidationOnly) :
    ∀ l : List α, (l.mapM f).ValidationOnly
  | [] => ok []
  | a :: l => by
    rw [List.mapM_cons]
    exact of_bind (hf a) fun b => of_bind (of_mapM hf l) fun bs => ok (b :: bs)

end Result.ValidationOnly

namespace Compile

open Result.ValidationOnly

theorem toParam_validationOnly (v : Value) : (Value.toParam v).ValidationOnly := by
  cases v with
  | list _ | query _ => exact of_invalid _
  | _ => exact ok _

theorem pushRaw_validationOnly (acc : Option Sql.Expr) (c : Connective) (sql : String)
    (bindings : List Sql.Param) : (pushRaw acc c sql bindings).ValidationOnly := by
  unfold pushRaw
  dsimp only
  split
  · exact of_invalid _
  · split
    · exact of_invalid _
    · exact ok _

theorem likeCondition_validationOnly (column : String) (k : LikeKind) (v : Value) :
    (likeCondition column k v).ValidationOnly := by
  cases v with
  | text _ => exact ok _
  | _ => exact of_invalid _

theorem joinComparison_validationOnly (on : Expression) : (joinComparison on).ValidationOnly := by
  unfold joinComparison
  split
  · exact of_invalid _
  · split
    · exact ok _
    · exact of_invalid _

mutual

theorem toPredicate_validationOnly (scope : List String) (name : String) (value : Value) :
    ∀ relation : Relation, (toPredicate scope name value relation).ValidationOnly
  | .equalTo | .greaterThan | .greaterThanOrEqualTo | .lessThan | .lessThanOrEqualTo => by
    unfold toPredicate
    split
    · exact ok _
    · split
      · exact of_bind (toParam_validationOnly value) fun _ => ok _
      · exact of_invalid _
  | .isIn => by
    unfold toPredicate
    match value with
    | .query s => exact of_bind (compileSelect_validationOnly scope s) fun _ => ok _
    | .list vs => exact of_bind (of_mapM toParam_validationOnly vs) fun _ => ok _
    | .null => exact ok _
    | .bool _ | .integer _ | .float _ | .text _ => exact of_invalid _
  | .nullValue | .trueValue => by
    unfold toPredicate
    exact ok _
  | .exists => by
    unfold toPredicate
    match value with
    | .query s => exact of_bind (compileSelect_validationOnly scope s) fun _ => ok _
    | .null | .bool _ | .integer _ | .float _ | .text _ | .list _ => exact of_invalid _
  | .startsWith | .endsWith | .contains => by
    unfold toPredicate
    exact likeCondition_validationOnly _ _ _

theorem appendExpression_validationOnly (scope : List String) (acc : Option Sql.Expr)
    (c : Connective) : ∀ e : Expression, (appendExpression scope acc c e).ValidationOnly
  | ⟨name, value, relation, _, raw⟩ => by
    unfold appendExpression
    split
    · split
      · exact of_invalid _
      · exact of_bind (of_mapM toParam_validationOnly _) fun bs => pushRaw_validationOnly _ _ _ bs
    · exact of_bind (toPredicate_validationOnly scope name value relation) fun _ => ok _

theorem appendExpressions_validationOnly (scope : List String) :
    ∀ (acc : Option Sql.Expr) (first : Bool) (es : List Expression),
      (appendExpressions scope acc first es).ValidationOnly
  | _, _, [] => ok _
  | acc, _, e :: es => of_bind (appendExpression_validationOnly scope acc _ e) fun acc' =>
    appendExpressions_validationOnly scope acc' false es

theorem appendAllAnd_validationOnly (scope : List String) :
    ∀ (acc : Option Sql.Expr) (es : List Expression), (appendAllAnd scope acc es).ValidationOnly
  | _, [] => ok _
  | acc, e :: es => of_bind (appendExpression_validationOnly scope acc _ e) fun acc' =>
    appendAllAnd_validationOnly scope acc' es

theorem applyFilter_validationOnly (scope : List String) :
    ∀ (acc : Option Sql.Expr) (f : Filter), (applyFilter scope acc f).ValidationOnly
  | acc, ⟨es, fs, c⟩ => of_bind (appendExpressions_validationOnly scope acc true es) fun r =>
    applyChildren_validationOnly scope r.1 r.2 c fs

theorem applyChildren_validationOnly (scope : List String) :
    ∀ (acc : Option Sql.Expr) (first : Bool) (c : Connective) (fs : List Filter),
      (applyChildren scope acc first c fs).ValidationOnly
  | _, _, _, [] => ok _
  | _, _, c, f :: fs => of_bind (applyFilter_validationOnly scope none f) fun _ =>
    applyChildren_validationOnly scope _ false c fs

theorem compileCondition_validationOnly (scope : List String) :
    ∀ f : Option Filter, (compileCondition scope f).ValidationOnly
  | none => ok _
  | some f => applyFilter_validationOnly scope none f

theorem declareCte_validationOnly : ∀ (d : Declared) (c : Cte), (declareCte d c).ValidationOnly
  | d, ⟨aliasName, query⟩ => by
    unfold declareCte
    split
    · exact ok _
    · dsimp only
      match query with
      | .select s => exact of_bind (compileSelect_validationOnly d.1 s) fun _ => ok _
      | .rawSql _ => exact ok _

theorem declareCtes_validationOnly : ∀ (d : Declared) (cs : List Cte), (declareCtes d cs).ValidationOnly
  | _, [] => ok _
  | d, c :: cs => of_bind (declareCte_validationOnly d c) fun d' => declareCtes_validationOnly d' cs

theorem declareSourceCte_validationOnly :
    ∀ (d : Declared) (src : Option Source), (declareSourceCte d src).ValidationOnly
  | d, some (.cte c) => declareCte_validationOnly d c
  | _, none | _, some (.table _) | _, some (.derived _) => ok _

theorem declareJoinCtes_validationOnly :
    ∀ (d : Declared) (js : List Join), (declareJoinCtes d js).ValidationOnly
  | _, [] => ok _
  | d, ⟨.cte c, _, _, _⟩ :: js => of_bind (declareCte_validationOnly d c) fun d' =>
    declareJoinCtes_validationOnly d' js
  | d, ⟨.table _, _, _, _⟩ :: js | d, ⟨.derived _, _, _, _⟩ :: js => declareJoinCtes_validationOnly d js

theorem declareCombineCtes_validationOnly :
    ∀ (d : Declared) (cs : List Combine), (declareCombineCtes d cs).ValidationOnly
  | _, [] => ok _
  | d, ⟨⟨ctes, source, _, joins, _, _, _, _, _⟩, _⟩ :: cs =>
    of_bind (declareCtes_validationOnly d ctes) fun d₁ =>
      of_bind (declareSourceCte_validationOnly d₁ source) fun d₂ =>
        of_bind (declareJoinCtes_validationOnly d₂ joins) fun d₃ =>
          declareCombineCtes_validationOnly d₃ cs

theorem compileSource_validationOnly (scope : List String) :
    ∀ src : Source, (compileSource scope src).ValidationOnly
  | .table _ => ok _
  | .derived ⟨s, _⟩ => of_bind (compileSelect_validationOnly scope s) fun _ => ok _
  | .cte ⟨_, _⟩ => ok _

theorem compileOptSource_validationOnly (scope : List String) :
    ∀ src : Option Source, (compileOptSource scope src).ValidationOnly
  | none => ok _
  | some src => of_bind (compileSource_validationOnly scope src) fun _ => ok _

theorem compileJoins_validationOnly (scope : List String) :
    ∀ (left : Option Sql.FromItem) (js : List Join), (compileJoins scope left js).ValidationOnly
  | _, [] => ok _
  | left, ⟨target, on, expressions, kind⟩ :: js => by
    unfold compileJoins
    dsimp only
    split
    · refine of_bind (ok _) fun l => of_bind (compileSource_validationOnly scope target) fun right => ?_
      -- the `on` condition: raw SQL, or a comparison of two columns
      split
      · exact of_bind (appendExpression_validationOnly scope none _ on) fun cond =>
          of_bind (appendAllAnd_validationOnly scope cond expressions) fun _ =>
            compileJoins_validationOnly scope _ js
      · exact of_bind (joinComparison_validationOnly on) fun _ => of_bind (ok _) fun cond =>
          of_bind (appendAllAnd_validationOnly scope cond expressions) fun _ =>
            compileJoins_validationOnly scope _ js
    · exact of_invalid _

theorem compileCombines_validationOnly (scope : List String) :
    ∀ (stmt : Sql.Query) (i : Nat) (cs : List Combine),
      (compileCombines scope stmt i cs).ValidationOnly
  | _, _, [] => ok _
  | stmt, i, ⟨s, op⟩ :: cs => by
    unfold compileCombines
    refine of_bind (compileSelect_validationOnly scope s) fun member => ?_
    split
    · exact of_invalid _
    · exact compileCombines_validationOnly scope _ _ cs

theorem compileSelect_validationOnly (scope : List String) :
    ∀ s : Select, (compileSelect scope s).ValidationOnly
  | ⟨ctes, source, fields, joins, filter, groupBys, having, sorts, combines⟩ => by
    unfold compileSelect
    exact of_bind (declareCtes_validationOnly _ ctes) fun d₁ =>
      of_bind (declareSourceCte_validationOnly d₁ source) fun d₂ =>
        of_bind (declareJoinCtes_validationOnly d₂ joins) fun d₃ =>
          of_bind (declareCombineCtes_validationOnly d₃ combines) fun d =>
            of_bind (compileOptSource_validationOnly d.1 source) fun src =>
              of_bind (compileJoins_validationOnly d.1 src joins) fun src' =>
                of_bind (compileCondition_validationOnly d.1 filter) fun flt =>
                  of_bind (compileCondition_validationOnly d.1 having) fun hv =>
                    compileCombines_validationOnly d.1 _ 0 combines

end

/-- Compiling a statement fails only with a validation error. -/
theorem compileStatement_validationOnly : ∀ s : Statement, (compileStatement s).ValidationOnly
  | .select s => of_map _ (compileSelect_validationOnly [] s)
  | .insert s => by
    refine of_map _ ?_
    unfold compileInsert
    dsimp only
    split
    · exact of_invalid _
    · exact of_invalid _
    · exact of_bind (of_mapM (fun (f : FieldValue) => of_bind (toParam_validationOnly f.value) fun _ => ok _) _)
        fun _ => ok _
    · split
      · exact of_invalid _
      · exact of_bind (compileSelect_validationOnly [] _) fun _ => ok _
  | .update s => by
    refine of_map _ ?_
    unfold compileUpdate
    split
    · exact of_invalid _
    · exact of_bind (of_mapM (fun (f : FieldValue) => of_bind (toParam_validationOnly f.value) fun _ => ok _) _)
        fun _ => of_bind (of_bind (appendExpressions_validationOnly [] none true _) fun _ => ok _)
          fun _ => ok _
  | .delete s => of_map _ (of_bind (of_bind (appendExpressions_validationOnly [] none true _)
      fun _ => ok _) fun _ => ok _)

end Compile

end QueryDoc
