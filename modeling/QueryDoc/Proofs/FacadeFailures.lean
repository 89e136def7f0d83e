import QueryDoc.Proofs.ActRun
import QueryDoc.Proofs.CompileFailures
import QueryDoc.Proofs.StepOrder

/-!
How facade operations report failures.

An operation reports a failure in one of two forms (`Error.Reported`): a validation failure as
it was raised, or an execution failure put once under `executionContext` around one that was
not. Main statement: `facade_failures_reported`, for every facade operation, joined to the
open transaction or in a unit of work of its own, and for `begin`, `commit` and `rollback`.

The proof follows what kind of failure an action can end with (`Act.FailsWith`). An
operation's work fails only with raised failures (`Error.Raised`): the compiler's and the page
arithmetic's validation failures, the database's failures and the facade's own checks.
`instrument` puts the work's failure under the context once; a unit of work adds the failures
of `begin` and `commit`, under the context too, and keeps that of `rollback` to its log.
-/

namespace QueryDoc

open Facade Store

/-- An execution failure put under `context` by `Error.wrap`. -/
def Error.Wrapped (context : String) (e : Error) : Prop :=
  ∃ m cs, e = (Error.execution m cs).wrap context

/-- A failure as it was raised: not one that was put under the operation context. -/
def Error.Raised (e : Error) : Prop := ¬ e.Wrapped executionContext

/-- A failure as an operation reports it: a raised failure put once under the operation context
(`Error.reported_iff`). Putting a failure under a context leaves a validation failure as it is,
so a reported validation failure is one that was raised, with its message; an execution failure
is reported under the context, around a raised one. -/
inductive Error.Reported : Error → Prop
  | validation (m : String) : Error.Reported (.validation m)
  | execution (m : String) (causes : List String) :
      (Error.execution m causes).Raised →
        Error.Reported ((Error.execution m causes).wrap executionContext)

namespace Error

theorem raised_validation (m : String) : (Error.validation m).Raised := by
  rintro ⟨m', cs, h⟩
  cases h

/-- A failure with no causes was not put under a context, which always leaves one. -/
theorem raised_of_causes_nil (m : String) : (Error.execution m []).Raised := by
  rintro ⟨m', cs, h⟩
  cases h

/-- Putting a raised failure under the context once gives a reported failure. -/
theorem reported_wrap {e : Error} (h : e.Raised) : (e.wrap executionContext).Reported := by
  cases e with
  | validation m => exact .validation m
  | execution m cs => exact .execution m cs h

/-- What is reported is exactly a raised failure put once under the operation context. -/
theorem reported_iff {e : Error} :
    e.Reported ↔ ∃ e₀ : Error, e₀.Raised ∧ e = e₀.wrap executionContext := by
  constructor
  · rintro (⟨m⟩ | ⟨m, cs, h⟩)
    · exact ⟨.validation m, raised_validation m, rfl⟩
    · exact ⟨_, h, rfl⟩
  · rintro ⟨e₀, h, rfl⟩
    exact reported_wrap h

/-- A validation failure is raised and reported as it is. -/
theorem raised_of_isValidation {e : Error} (h : e.isValidation = true) : e.Raised := by
  cases e with
  | validation m => exact raised_validation m
  | execution => cases h

end Error

/-- A database failure is raised: its text is its first cause, which cannot both be the
operation context and name an execution failure. -/
theorem Store.Failure.toError_raised (f : Failure) : f.toError.Raised := by
  rintro ⟨m, cs, h⟩
  unfold Failure.toError Error.wrap at h
  injection h with hmessage hcauses
  injection hcauses with hfirst
  have hctx : executionContext = "execution error: " ++ m := hmessage.symm.trans hfirst
  -- the two texts differ in their first character
  have := congrArg (fun s => s.toList.head?) hctx
  simp [executionContext] at this

namespace Facade.Act

variable {σ : Type}

/-- Every failure an action can end with, from any session, has property `P`. -/
def FailsWith {α : Type} (P : Error → Prop) (x : Act σ α) : Prop :=
  ∀ s e, (x.exec s).1 = .error e → P e

namespace FailsWith

variable {α β : Type} {P : Error → Prop}

theorem of_ok {x : Act σ α} (h : ∀ s, ∃ a, (x.exec s).1 = .ok a) : FailsWith P x := by
  intro s e he
  obtain ⟨a, ha⟩ := h s
  rw [ha] at he
  cases he

theorem of_pure (a : α) : FailsWith P (pure a : Act σ α) := of_ok fun _ => ⟨a, rfl⟩

theorem of_throw {e : Error} (h : P e) : FailsWith P (throw e : Act σ α) := by
  intro s e' he
  cases he
  exact h

theorem of_bind {x : Act σ α} {f : α → Act σ β} (hx : FailsWith P x)
    (hf : ∀ a, FailsWith P (f a)) : FailsWith P (x >>= f) := by
  intro s e he
  rcases hxs : x.exec s with ⟨r, s'⟩
  cases r with
  | ok a =>
    rw [exec_bind_ok hxs] at he
    exact hf a s' e he
  | error e' =>
    rw [exec_bind_error hxs] at he
    cases he
    exact hx s _ (by rw [hxs])

theorem get_bind {f : Session σ → Act σ α} (hf : ∀ s, FailsWith P (f s)) :
    FailsWith P (get >>= f) := fun s e he => hf s s e (by rwa [exec_get_bind] at he)

theorem of_modify (g : Session σ → Session σ) : FailsWith P (modify g : Act σ Unit) :=
  of_ok fun _ => ⟨(), rfl⟩

theorem of_log (lines : List String) : FailsWith P (log lines : Act σ Unit) := of_modify _

theorem of_level : FailsWith P (level : Act σ LogLevel) := of_ok fun s => ⟨s.level, rfl⟩

theorem of_document (st : Statement) : FailsWith P (document st : Act σ (Option String)) := by
  unfold Act.document
  exact of_bind of_level fun lv => by
    split
    · exact of_pure _
    · exact of_pure _

theorem of_result {r : Result α} (h : ∀ e, r = .error e → P e) :
    FailsWith P (ofResult r : Act σ α) := by
  intro s e he
  rw [exec_ofResult] at he
  exact h e he

theorem of_validationOnly {r : Result α} (hP : ∀ e, e.isValidation = true → P e)
    (h : r.ValidationOnly) : FailsWith P (ofResult r : Act σ α) :=
  of_result fun e he => hP e (h e he)

theorem of_mapM {f : α → Act σ β} (hf : ∀ a, FailsWith P (f a)) :
    ∀ l : List α, FailsWith P (l.mapM f)
  | [] => of_pure []
  | a :: l => by
    rw [List.mapM_cons]
    exact of_bind (hf a) fun b => of_bind (of_mapM hf l) fun bs => of_pure (b :: bs)

theorem of_map {x : Act σ α} (f : α → β) (hx : FailsWith P x) : FailsWith P (f <$> x) := by
  rw [← bind_pure_comp]
  exact of_bind hx fun a => of_pure (f a)

/-- After `attempt`, what runs next sees the outcome the action had, from some session. -/
theorem attempt_bind {x : Act σ α} {f : Except Error α → Act σ β}
    (hf : ∀ r s, (x.exec s).1 = r → FailsWith P (f r)) : FailsWith P (attempt x >>= f) := by
  intro s e he
  rw [exec_bind_ok (exec_attempt x s)] at he
  exact hf _ s rfl _ e he

end FailsWith

/-! ### Raised failures: the pieces of an operation's work -/

section Raised

open FailsWith

theorem failsRaised_compile (compiler : Compile.Compiler) (st : Statement) :
    FailsWith Error.Raised (ofResult (compiler.compile st) : Act σ Sql.Compiled) :=
  of_validationOnly (fun _ => Error.raised_of_isValidation)
    (Result.ValidationOnly.of_bind (Compile.compileStatement_validationOnly st) fun _ =>
      Result.ValidationOnly.ok _)

theorem failsRaised_decode (t : RowType) (row : List (String × Json)) :
    FailsWith Error.Raised (ofResult (t.decode row) : Act σ Json) := by
  refine of_result fun e he => ?_
  unfold RowType.decode at he
  split at he
  · cases he
  · split at he
    · split at he
      · cases he
      · cases he
        exact Error.raised_validation _
    · cases he
      exact Error.raised_validation _

theorem failsRaised_decodeRows (t : RowType) (rows : List (List (String × Json))) :
    FailsWith Error.Raised (decodeRows t rows : Act σ (List Json)) :=
  of_mapM (failsRaised_decode t) rows

theorem failsRaised_countValue (row : List (String × Json)) :
    FailsWith Error.Raised (ofResult (countValue row) : Act σ Int) := by
  refine of_result fun e he => ?_
  unfold countValue at he
  split at he
  · cases he
    exact Error.raised_of_causes_nil _
  · cases he
  · cases he
    exact Error.raised_of_causes_nil _

theorem failsRaised_deepClone (select : Select) :
    FailsWith Error.Raised (ofResult select.deepClone : Act σ Select) := by
  refine of_result fun e he => ?_
  unfold Select.deepClone at he
  dsimp only at he
  rcases hd : Select.decode (decodeBudget select.toJson.storeFloats) select.toJson.storeFloats with err | v <;>
    rw [hd] at he <;> cases he
  exact Error.raised_validation _

theorem failsRaised_pageBounds (pageNum pageSize : Nat) :
    FailsWith Error.Raised (ofResult (pageBounds pageNum pageSize) : Act σ (Nat × Nat)) := by
  refine of_result fun e he => ?_
  unfold pageBounds at he
  split at he
  · cases he
    exact Error.raised_validation _
  split at he
  · cases he
    exact Error.raised_validation _
  split at he
  · cases he
    exact Error.raised_validation _
  · cases he

theorem failsRaised_compilePage (compiler : Compile.Compiler) (select : Select) (limit offset : Nat) :
    FailsWith Error.Raised
      (ofResult (compiler.compilePage select limit offset) : Act σ Sql.Compiled) :=
  of_validationOnly (fun _ => Error.raised_of_isValidation)
    (Result.ValidationOnly.of_bind (Compile.compileSelect_validationOnly [] select) fun _ =>
      Result.ValidationOnly.ok _)

theorem failsRaised_toStmt (compiler : Compile.Compiler) (st : Statement) :
    FailsWith Error.Raised (ofResult (compiler.toStmt st) : Act σ Sql.Stmt) :=
  of_validationOnly (fun _ => Error.raised_of_isValidation) (Compile.compileStatement_validationOnly st)

theorem failsRaised_writeStmts (compiler : Compile.Compiler) (statements : List Statement) :
    FailsWith Error.Raised (ofResult (statements.mapM (writeStmt compiler)) : Act σ (List Sql.Stmt)) :=
  of_validationOnly (fun _ => Error.raised_of_isValidation)
    (Result.ValidationOnly.of_mapM (fun st => by
      unfold writeStmt
      split
      · exact Result.ValidationOnly.of_invalid _
      · exact Compile.compileStatement_validationOnly st) statements)

variable [Executor σ]

theorem failsRaised_execute (h : Handle) (sql : String) (params : List Datum) :
    FailsWith Error.Raised (execute h sql params : Act σ Nat) := by
  intro s e he
  rw [exec_execute] at he
  rcases hx : (Executor.execute s.engine h.connection sql params).2 with f | n <;> rw [hx] at he
  · cases he
    exact f.toError_raised
  · cases he

theorem failsRaised_query (h : Handle) (sql : String) (params : List Datum) :
    FailsWith Error.Raised (query h sql params : Act σ (List String × Array (Array Datum))) := by
  unfold query
  refine get_bind fun s => of_bind (of_modify _) fun _ => ?_
  split
  · exact of_pure _
  · exact of_throw (Failure.toError_raised _)

theorem failsRaised_queryRows (h : Handle) (c : Sql.Compiled) :
    FailsWith Error.Raised (queryRows h c : Act σ (List (List (String × Json)))) :=
  of_bind of_level fun _ => of_bind (of_log _) fun _ =>
    of_bind (failsRaised_query h _ _) fun _ => of_pure _

theorem failsRaised_countRows (h : Handle) (select : Select) :
    FailsWith Error.Raised (countRows h select : Act σ Int) := by
  unfold countRows
  refine of_bind (failsRaised_deepClone select) fun clone => get_bind fun s =>
    of_bind (failsRaised_compile _ _) fun c => of_bind (failsRaised_queryRows h c) fun rows => ?_
  split
  · exact of_pure _
  · exact failsRaised_countValue _

theorem failsRaised_runPlan (h : Handle) (plan : QueryDoc.Plan) :
    FailsWith Error.Raised (runPlan h plan : Act σ (List Nat)) := by
  unfold runPlan
  refine of_bind of_level fun _ => of_bind (of_log _) fun _ => get_bind fun s => of_bind ?_ fun steps =>
    of_mapM (fun step => of_bind of_level fun _ => of_bind (of_log _) fun _ =>
      failsRaised_execute h _ _) steps
  refine of_result fun e he => ?_
  rcases orderPasses_ok_or_invalid plan.steps (plan.steps.length + 1) [] [] with ⟨o, ho⟩ | hinv
  · rw [Plan.stepsInOrder, ho] at he
    cases he
  · rw [Plan.stepsInOrder, hinv] at he
    cases he
    exact Error.raised_validation _

end Raised

/-! ### Reported failures: operations -/

section Reported

open FailsWith

/-- An operation puts the failure of its work, a raised one, under the context once. -/
theorem failsReported_instrument {α : Type} (operation : String) (doc : Option String)
    {work : Act σ α} (hwork : FailsWith Error.Raised work) :
    FailsWith Error.Reported (instrument operation doc work) := by
  unfold instrument
  dsimp only
  -- the document, if any, is logged first; then the work runs and its end is logged
  split
  on_goal 1 => refine of_bind (of_log _) fun _ => ?_
  all_goals
    refine attempt_bind fun r s hr => ?_
    cases r with
    | ok v => exact of_bind of_level fun _ => of_bind (of_log _) fun _ => of_pure v
    | error e =>
      exact of_bind of_level fun _ => of_bind (of_log _) fun _ =>
        of_throw (Error.reported_wrap (hwork s e hr))

variable [Executor σ]

theorem failsRaised_connect (b : Backend) : FailsWith Error.Raised (connect b : Act σ Handle) := by
  unfold connect
  split
  · refine get_bind fun s => ?_
    split
    · exact of_bind (of_throw (Error.raised_validation _)) fun _ => of_pure _
    · exact of_bind (of_pure ()) fun _ => of_bind (of_modify _) fun _ => of_pure _
  · split
    · exact of_throw (Failure.toError_raised _)
    · exact get_bind fun s => of_bind (of_modify _) fun _ => of_pure _

theorem failsRaised_control (h : Handle) (command : TxCommand) :
    FailsWith Error.Raised (control h command : Act σ Unit) := by
  unfold control
  refine get_bind fun s => of_bind (of_modify _) fun _ => ?_
  split
  · exact of_pure _
  · exact of_throw (Failure.toError_raised _)

/-- A connection that cannot be lent, or a `begin` that fails, is reported under the
context; a facade with no backend reports a validation failure. -/
theorem failsReported_beginUnit : FailsWith Error.Reported (beginUnit : Act σ Handle) := by
  unfold beginUnit
  refine get_bind fun s => ?_
  split
  · refine of_bind ?_ fun h => attempt_bind fun r s' hr => ?_
    · intro s e he
      rcases hc : (connect _ : Act σ Handle).exec s with ⟨r, s'⟩
      cases r with
      | ok h =>
        rw [exec_tryCatch_ok hc] at he
        cases he
      | error e' =>
        rw [exec_tryCatch_error hc] at he
        cases he
        exact Error.reported_wrap (failsRaised_connect _ s _ (by rw [hc]))
    · cases r with
      | ok _ => exact of_pure h
      | error e =>
        exact of_bind (of_modify _) fun _ =>
          of_throw (Error.reported_wrap (failsRaised_control h _ s' e hr))
  · exact of_throw (Error.Reported.validation _)

/-- A failed `commit` or `rollback` is reported under the context. -/
theorem failsReported_endUnit (h : Handle) (command : TxCommand) :
    FailsWith Error.Reported (endUnit h command : Act σ Unit) := by
  unfold endUnit
  refine attempt_bind fun r s hr => of_bind (of_modify _) fun _ => ?_
  cases r with
  | ok _ => exact of_pure ()
  | error e => exact of_throw (Error.reported_wrap (failsRaised_control h command s e hr))

/-- Work run in the open transaction or in a unit of its own reports what it reports, and
the failures of `begin` and `commit`; a failed `rollback` is only logged. -/
theorem failsReported_inScope {α : Type} {work : Handle → Act σ α}
    (hwork : ∀ h, FailsWith Error.Reported (work h)) : FailsWith Error.Reported (inScope work) := by
  unfold inScope
  refine get_bind fun s => ?_
  split
  · exact hwork _
  · refine of_bind failsReported_beginUnit fun h => attempt_bind fun r s' hr => ?_
    cases r with
    | ok v => exact of_bind (failsReported_endUnit h .commit) fun _ => of_pure v
    | error e =>
      refine attempt_bind fun r _ _ => ?_
      dsimp only
      split
      · exact of_throw (hwork h s' e hr)
      · exact of_bind of_level fun _ => of_bind (of_log _) fun _ => of_throw (hwork h s' e hr)

theorem failsReported_getResults (select : Select) (t : RowType) :
    FailsWith Error.Reported (getResults select t : Act σ (List Json)) :=
  of_bind (of_document _) fun doc => failsReported_inScope fun h =>
    failsReported_instrument _ doc <| get_bind fun _ => of_bind (failsRaised_compile _ _) fun c =>
      of_bind (failsRaised_queryRows h c) fun rows => failsRaised_decodeRows t rows

theorem failsReported_getSingleResult (select : Select) (t : RowType) :
    FailsWith Error.Reported (getSingleResult select t : Act σ (Option Json)) := by
  refine of_bind (of_document _) fun doc => failsReported_inScope fun h =>
    failsReported_instrument _ doc ?_
  refine get_bind fun _ => of_bind (failsRaised_compile _ _) fun c =>
    of_bind (failsRaised_queryRows h c) fun rows => ?_
  dsimp only
  -- several rows are refused; otherwise the last row, if any, is mapped
  split
  on_goal 1 => refine of_bind (of_throw (Error.raised_validation _)) fun _ => ?_
  all_goals
    split
    · exact of_map _ (failsRaised_decode t _)
    · exact of_pure _

theorem failsReported_getTotalNumResults (select : Select) :
    FailsWith Error.Reported (getTotalNumResults select : Act σ Int) :=
  of_bind (of_document _) fun doc => failsReported_inScope fun h =>
    failsReported_instrument _ doc (failsRaised_countRows h select)

theorem failsReported_getPagedResults (select : Select) (pageNum pageSize : Nat) (withTotal : Bool)
    (t : RowType) :
    FailsWith Error.Reported (getPagedResults select pageNum pageSize withTotal t : Act σ (Page Json)) := by
  refine of_bind (of_document _) fun doc => failsReported_inScope fun h =>
    failsReported_instrument _ doc ?_
  refine of_bind (failsRaised_pageBounds pageNum pageSize) fun bounds => get_bind fun _ =>
    of_bind (failsRaised_compilePage _ _ _ _) fun c => of_bind (failsRaised_queryRows h c)
      fun rows => of_bind (failsRaised_decodeRows t rows) fun items => ?_
  split
  · exact of_pure _
  · refine of_bind (failsRaised_countRows h select) fun total => ?_
    split
    · exact of_bind (of_throw (Error.raised_of_causes_nil _)) fun _ => of_pure _
    · exact of_pure _

theorem failsReported_executeWrite (statement : Statement) :
    FailsWith Error.Reported (executeWrite statement : Act σ Nat) :=
  of_bind (of_document _) fun _ => failsReported_inScope fun h =>
    failsReported_instrument _ none <| get_bind fun _ =>
      of_bind (failsRaised_toStmt _ _) fun _ => of_bind (failsRaised_runPlan h _) fun _ => of_pure _

theorem failsReported_executeBatchWrite (statements : List Statement) :
    FailsWith Error.Reported (executeBatchWrite statements : Act σ (List Nat)) :=
  failsReported_inScope fun h => failsReported_instrument _ none <| get_bind fun _ =>
    of_bind (failsRaised_writeStmts _ _) fun _ => failsRaised_runPlan h _

/-- Every facade operation, run in the open transaction or in a unit of work of its own, and
`begin`, `commit` and `rollback`, report each failure as a validation failure unchanged or as
an execution failure under the operation context, put there once. -/
theorem facade_failures_reported :
    (∀ (select : Select) (t : RowType),
      FailsWith Error.Reported (getResults select t : Act σ (List Json))) ∧
    (∀ (select : Select) (t : RowType),
      FailsWith Error.Reported (getSingleResult select t : Act σ (Option Json))) ∧
    (∀ select : Select, FailsWith Error.Reported (getTotalNumResults select : Act σ Int)) ∧
    (∀ (select : Select) (pageNum pageSize : Nat) (withTotal : Bool) (t : RowType),
      FailsWith Error.Reported
        (getPagedResults select pageNum pageSize withTotal t : Act σ (Page Json))) ∧
    (∀ statement : Statement, FailsWith Error.Reported (executeWrite statement : Act σ Nat)) ∧
    (∀ statements : List Statement,
      FailsWith Error.Reported (executeBatchWrite statements : Act σ (List Nat))) ∧
    FailsWith Error.Reported (Session.beginTransaction : Act σ Unit) ∧
    (∀ h, FailsWith Error.Reported (Session.finishTransaction h .commit : Act σ Unit)) ∧
    (∀ h, FailsWith Error.Reported (Session.finishTransaction h .rollback : Act σ Unit)) := by
  refine ⟨failsReported_getResults, failsReported_getSingleResult,
    failsReported_getTotalNumResults, failsReported_getPagedResults, failsReported_executeWrite,
    failsReported_executeBatchWrite, ?_, fun h => ?_, fun h => ?_⟩
  · -- `begin` while a transaction is open is refused before anything runs
    unfold Session.beginTransaction
    refine get_bind fun s => ?_
    dsimp only
    split
    · exact of_bind (of_throw (.validation _)) fun _ =>
        of_bind failsReported_beginUnit fun _ => of_modify _
    · exact of_bind failsReported_beginUnit fun _ => of_modify _
  · exact of_bind (of_modify _) fun _ => failsReported_endUnit h .commit
  · exact of_bind (of_modify _) fun _ => failsReported_endUnit h .rollback

end Reported

end Facade.Act

end QueryDoc
