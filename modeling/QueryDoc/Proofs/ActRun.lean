import QueryDoc.Facade.Session
import QueryDoc.Proofs.Result

/-!
What facade actions do to a session.

An action runs on a session and gives an outcome and the session after it (`Act.exec`); this
module says so once for each action units of work are made of. Logging and reading the session
change nothing else; an executor call changes the engine and fails as the executor does; a unit
of work begins on its connection, runs its work, then commits, or rolls back when the work
fails; a plan runs its writes in order and stops at the first that fails. Log lines are never
read back, so where an action logs, its lemma gives the session after it up to its log.
-/


namespace QueryDoc.Plan

/-- Distinct positions of a chain give distinct step ids. -/
theorem chainId_inj {i j : Nat} (h : "write-" ++ toString i = "write-" ++ toString j) : i = j := by
  rw [String.append_right_inj, Nat.toString_eq_ofList_toDigits, Nat.toString_eq_ofList_toDigits,
    String.ofList_inj] at h
  rw [← Nat.ofDigitChars_ten_toDigits (n := i), h, Nat.ofDigitChars_ten_toDigits]

/-- A chain runs its statements in the order given. -/
@[simp] theorem map_chainSteps {β : Type} (f : Sql.Stmt → β) (i : Nat) (stmts : List Sql.Stmt) :
    (chainSteps i stmts).map (fun step => f step.stmt) = stmts.map f := by
  induction stmts generalizing i with
  | nil => rfl
  | cons s ss ih =>
    rw [chainSteps, List.map_cons, ih, List.map_cons]
    split <;> rfl

@[simp] theorem length_chainSteps (i : Nat) (stmts : List Sql.Stmt) :
    (chainSteps i stmts).length = stmts.length := by
  simpa using congrArg List.length (map_chainSteps id i stmts)

/-- A chain's step at position `i` is named for `i` and waits for the step before it. -/
theorem chainSteps_cons (i : Nat) (s : Sql.Stmt) (ss : List Sql.Stmt) :
    ∃ step, chainSteps i (s :: ss) = step :: chainSteps (i + 1) ss ∧
      step.id = "write-" ++ toString i ∧
      step.dependsOn = if i = 0 then [] else ["write-" ++ toString (i - 1)] := by
  refine ⟨_, rfl, ?_, ?_⟩ <;> split <;> rfl

/-- One pass over a chain takes every step: each step's id is new, and the step before it,
its only dependency, is already taken. -/
theorem orderPass_chainSteps (stmts : List Sql.Stmt) : ∀ (i : Nat) (done : List String) (taken : List Step),
    (∀ j, i ≤ j → "write-" ++ toString j ∉ done) →
    (0 < i → "write-" ++ toString (i - 1) ∈ done) →
    orderPass done taken (chainSteps i stmts) =
      (done ++ (chainSteps i stmts).map Step.id, taken ++ chainSteps i stmts) := by
  induction stmts with
  | nil => intro i done taken _ _; simp [chainSteps, orderPass]
  | cons s ss ih =>
    intro i done taken hnew hprev
    obtain ⟨step, hcons, hid, hdeps⟩ := chainSteps_cons i s ss
    have hfresh : done.contains step.id = false := by
      simpa [hid] using hnew i (Nat.le_refl i)
    have hready : step.dependsOn.all done.contains = true := by
      rw [hdeps]
      split
      · rfl
      · simpa using hprev (by omega)
    have hrest := ih (i + 1) (done ++ [step.id]) (taken ++ [step])
      (fun j hj => by
        rw [hid, List.mem_append, List.mem_singleton, not_or]
        exact ⟨hnew j (by omega), fun h => by have := chainId_inj h; omega⟩)
      (fun _ => by simp [hid])
    rw [hcons, orderPass, hfresh, if_neg Bool.false_ne_true, if_pos hready, hrest]
    simp

/-- The steps of a chained plan come in the order the statements were given. -/
theorem stepsInOrder_chained (stmts : List Sql.Stmt) :
    (chained stmts).stepsInOrder = .ok (chainSteps 0 stmts) := by
  cases stmts with
  | nil => rfl
  | cons s ss =>
    have hpass := orderPass_chainSteps (s :: ss) 0 [] [] (by simp) (by simp)
    simp only [stepsInOrder, chained, multi, length_chainSteps, List.length_cons]
    rw [orderPasses, if_neg (by simp), hpass]
    simp [orderPasses]

theorem stepsInOrder_single (stmt : Sql.Stmt) (description : String) :
    (single stmt description).stepsInOrder = .ok [Step.new "main" stmt description] :=
  rfl

@[simp] theorem stepsInOrder_withContext (p : Plan) (operation : String) (document : Option String) :
    (p.withContext operation document).stepsInOrder = p.stepsInOrder :=
  rfl

@[simp] theorem stepsInOrder_withTag (p : Plan) (key value : String) :
    (p.withTag key value).stepsInOrder = p.stepsInOrder :=
  rfl

end QueryDoc.Plan

namespace QueryDoc.Facade

open Store Sql Compile

variable {σ : Type}

/-- The outcome of an action and the session after it. -/
def Act.exec {α : Type} (x : Act σ α) (s : Session σ) : Except Error α × Session σ :=
  x.run.run s

/-- Writes run one after another on a connection, stopping at the first that fails: the
engine after them, and the rows each changed. -/
def Executor.runWrites [Executor σ] (e : σ) (c : Nat) :
    List (String × List Datum) → σ × Outcome (List Nat)
  | [] => (e, .ok [])
  | w :: ws =>
    match Executor.execute e c w.1 w.2 with
    | (e', .ok n) => ((Executor.runWrites e' c ws).1, (Executor.runWrites e' c ws).2.map (n :: ·))
    | (e', .error f) => (e', .error f)

/-- The write a statement makes in a dialect: its parameterized text and its values. -/
def writeOf (d : Dialect) (stmt : Stmt) : String × List Datum :=
  ((stmt.render d).sql, (stmt.render d).params.map Act.paramDatum)

namespace Act

/-! ### Sequencing -/

section Monad

variable {α β : Type}

@[simp] theorem exec_pure (a : α) (s : Session σ) : (pure a : Act σ α).exec s = (.ok a, s) :=
  rfl

@[simp] theorem exec_throw (e : Error) (s : Session σ) :
    (throw e : Act σ α).exec s = (.error e, s) :=
  rfl

theorem exec_get_bind (f : Session σ → Act σ α) (s : Session σ) :
    (get >>= f).exec s = (f s).exec s :=
  rfl

theorem exec_bind_ok {x : Act σ α} {f : α → Act σ β} {s s' : Session σ} {a : α}
    (h : x.exec s = (.ok a, s')) : (x >>= f).exec s = (f a).exec s' := by
  simp only [exec, ExceptT.run_bind, StateT.run_bind] at h ⊢
  rw [h]
  rfl

theorem exec_bind_error {x : Act σ α} {f : α → Act σ β} {s s' : Session σ} {e : Error}
    (h : x.exec s = (.error e, s')) : (x >>= f).exec s = (.error e, s') := by
  simp only [exec, ExceptT.run_bind, StateT.run_bind] at h ⊢
  rw [h]
  rfl

theorem exec_tryCatch_ok {x : Act σ α} {handler : Error → Act σ α} {s s' : Session σ} {a : α}
    (h : x.exec s = (.ok a, s')) : (tryCatch x handler).exec s = (.ok a, s') := by
  simp only [exec, ExceptT.run_tryCatch, StateT.run_bind] at h ⊢
  rw [h]
  rfl

theorem exec_tryCatch_error {x : Act σ α} {handler : Error → Act σ α} {s s' : Session σ}
    {e : Error} (h : x.exec s = (.error e, s')) :
    (tryCatch x handler).exec s = (handler e).exec s' := by
  simp only [exec, ExceptT.run_tryCatch, StateT.run_bind] at h ⊢
  rw [h]
  rfl

/-! ### Reading the session and logging -/

theorem exec_log_bind (lines : List String) (f : Unit → Act σ α) (s : Session σ) :
    (log lines >>= f).exec s = (f ()).exec { s with logs := s.logs ++ lines.toArray } :=
  rfl

theorem exec_level_bind (f : LogLevel → Act σ α) (s : Session σ) :
    (level >>= f).exec s = (f s.level).exec s :=
  rfl

@[simp] theorem exec_ofResult (r : Result α) (s : Session σ) : (ofResult r : Act σ α).exec s = (r, s) := by
  cases r <;> rfl

theorem exec_attempt (x : Act σ α) (s : Session σ) :
    (attempt x).exec s = (.ok (x.exec s).1, (x.exec s).2) := by
  rcases hx : x.exec s with ⟨r, s'⟩
  cases r with
  | ok a => exact exec_tryCatch_ok (exec_bind_ok (f := fun a => pure (Except.ok a)) hx)
  | error e => exact exec_tryCatch_error (exec_bind_error hx)

/-- The lines an operation with no document logs after its work: how the work ended. -/
def instrumentLines {α : Type} (operation : String) (level : LogLevel) : Except Error α → List String
  | .ok _ => resultLines level true
  | .error e => errorLines level operation e.display ++ resultLines level false

/-- An operation logs how its work ended and wraps an execution failure; with no document to
log first, the work runs from the session as it is. -/
theorem exec_instrument {α : Type} (operation : String) (work : Act σ α) (s : Session σ) :
    (instrument operation none work).exec s =
      ((work.exec s).1.mapError (Error.wrap executionContext),
        { (work.exec s).2 with
          logs := (work.exec s).2.logs ++
            (instrumentLines operation (work.exec s).2.level (work.exec s).1).toArray }) := by
  unfold instrument
  dsimp only
  rw [exec_bind_ok (exec_attempt work s)]
  rcases work.exec s with ⟨r, s'⟩
  cases r <;> rfl

/-- An action followed by another succeeds only when the first does. -/
theorem exec_bind_eq_ok {x : Act σ α} {f : α → Act σ β} {s s' : Session σ} {b : β}
    (h : (x >>= f).exec s = (.ok b, s')) :
    ∃ a s₁, x.exec s = (.ok a, s₁) ∧ (f a).exec s₁ = (.ok b, s') := by
  rcases hx : x.exec s with ⟨r, s₁⟩
  cases r with
  | ok a => exact ⟨a, s₁, rfl, by rwa [exec_bind_ok hx] at h⟩
  | error e => rw [exec_bind_error hx] at h; cases h

/-- The document an operation logs is there only from the debug level on. -/
theorem exec_document (st : Statement) (s : Session σ) :
    (document st).exec s =
      (.ok (if s.level.atLeast .debug then some st.toJsonText else none), s) := by
  rw [document, exec_level_bind]
  cases s.level.atLeast .debug <;> rfl

/-- An operation with a document logs it and then runs as one without. -/
theorem exec_instrument_some (operation d : String) (work : Act σ α) (s : Session σ) :
    (instrument operation (some d) work).exec s =
      (instrument operation none work).exec
        { s with logs := s.logs ++ [info (operation ++ " " ++ d)].toArray } :=
  rfl

/-- The outcome of an operation is its work's, run after the document is logged, with an
execution failure wrapped. -/
theorem exec_instrument_outcome (operation : String) (doc : Option String) (work : Act σ α)
    (s : Session σ) :
    ∃ logs, ((instrument operation doc work).exec s).1 =
      ((work.exec { s with logs := logs }).1).mapError (Error.wrap executionContext) := by
  cases doc with
  | none => exact ⟨s.logs, by rw [exec_instrument]⟩
  | some d => exact ⟨_, by rw [exec_instrument_some, exec_instrument]⟩

/-- Mapping through outcomes is mapping in `Result`, with the session untouched. -/
theorem exec_mapM_ofResult (g : α → Result β) :
    ∀ (l : List α) (s : Session σ),
      (l.mapM fun a => (ofResult (g a) : Act σ β)).exec s = (l.mapM g, s)
  | [], _ => rfl
  | a :: l, s => by
    rw [List.mapM_cons, List.mapM_cons]
    cases hg : g a with
    | error e => exact exec_bind_error (exec_ofResult _ _)
    | ok b =>
      rw [exec_bind_ok (exec_ofResult _ _)]
      have ih := exec_mapM_ofResult g l s
      cases hl : l.mapM g with
      | error e => rw [hl] at ih; rw [exec_bind_error ih]; rfl
      | ok bs => rw [hl] at ih; rw [exec_bind_ok ih]; rfl

/-- Decoded rows are as many as the rows. -/
theorem length_of_decodeRows {t : RowType} {rows : List (List (String × Json))} {items : List Json}
    {s s' : Session σ} (h : (decodeRows t rows).exec s = (.ok items, s')) :
    items.length = rows.length := by
  rw [decodeRows, exec_mapM_ofResult] at h
  exact Result.length_of_mapM_ok (Prod.mk.inj h).1

/-- The work of an operation that succeeds succeeds too, from the session with the document
logged. -/
theorem instrument_eq_ok {α : Type} {operation : String} {doc : Option String} {work : Act σ α}
    {a : α} {s s' : Session σ} (h : (instrument operation doc work).exec s = (.ok a, s')) :
    ∃ logs s₁, work.exec { s with logs := logs } = (.ok a, s₁) := by
  obtain ⟨logs, hout⟩ := exec_instrument_outcome operation doc work s
  rw [h] at hout
  rcases hw : work.exec { s with logs := logs } with ⟨r, s₁⟩
  rw [hw] at hout
  cases r with
  | ok a' =>
    cases hout
    exact ⟨logs, s₁, hw⟩
  | error e => cases hout

end Monad

/-! ### Executor calls -/

section Executor

variable [Executor σ]

theorem exec_execute (h : Handle) (sql : String) (params : List Datum) (s : Session σ) :
    (execute h sql params).exec s =
      ((Executor.execute s.engine h.connection sql params).2.mapError Failure.toError,
        { s with engine := (Executor.execute s.engine h.connection sql params).1 }) := by
  rw [execute, exec_get_bind]
  rcases Executor.execute s.engine h.connection sql params with ⟨e, r⟩
  cases r <;> rfl

theorem exec_control (h : Handle) (command : TxCommand) (s : Session σ) :
    (control h command).exec s =
      (((Executor.control s.engine h.connection command).2.mapError Failure.toError).map
          fun _ => (),
        { s with engine := (Executor.control s.engine h.connection command).1 }) := by
  rw [control, exec_get_bind]
  rcases Executor.control s.engine h.connection command with ⟨e, r⟩
  cases r <;> rfl

/-- Asking for a shared connection a unit of work already holds is refused. -/
theorem exec_connect_held {b : Backend} {c : Nat} (hb : b.store = some c) {s : Session σ}
    (hheld : s.held.contains c = true) :
    (connect b).exec s =
      (.error (.validation "a unit of work is already open on this backend; pass it as tx"), s) := by
  simp only [connect, hb, exec_get_bind, hheld]
  rfl

/-- A free shared connection is lent, and held from then on. -/
theorem exec_connect_free {b : Backend} {c : Nat} (hb : b.store = some c) {s : Session σ}
    (hfree : s.held.contains c = false) :
    (connect b).exec s = (.ok ⟨c, false⟩, { s with held := c :: s.held }) := by
  simp only [connect, hb, exec_get_bind, hfree]
  rfl

theorem exec_release_borrowed {h : Handle} (ho : h.owned = false) (s : Session σ) :
    (release h).exec s = (.ok (), { s with held := s.held.erase h.connection }) := by
  simp only [release, ho]
  rfl

theorem exec_query (h : Handle) (sql : String) (params : List Datum) (s : Session σ) :
    (query h sql params).exec s =
      ((Executor.query s.engine h.connection sql params).2.mapError Failure.toError,
        { s with engine := (Executor.query s.engine h.connection sql params).1 }) := by
  rw [query, exec_get_bind]
  rcases Executor.query s.engine h.connection sql params with ⟨e, r⟩
  cases r <;> rfl

/-- A compiled query logs its text and gives its rows as object members. -/
theorem exec_queryRows (h : Handle) (c : Compiled) (s : Session σ) :
    (queryRows h c).exec s =
      (((Executor.query s.engine h.connection c.sql (c.params.map paramDatum)).2.mapError
          Failure.toError).map fun a => a.2.toList.map fun r => rowMembers a.1 r.toList,
        { s with logs := s.logs ++ (sqlLines s.level c.sql c.params).toArray,
                 engine := (Executor.query s.engine h.connection c.sql (c.params.map paramDatum)).1 }) := by
  rw [queryRows, exec_level_bind, exec_log_bind]
  rcases hq : Executor.query s.engine h.connection c.sql (c.params.map paramDatum) with ⟨e, r⟩
  cases r with
  | ok a =>
    rw [exec_bind_ok (by rw [exec_query]; simp only [hq]; rfl)]
    rfl
  | error f =>
    rw [exec_bind_error (by rw [exec_query]; simp only [hq]; rfl)]
    rfl

end Executor

/-! ### Units of work -/

section Unit

variable [Executor σ] {α : Type} {s s' : Session σ} {b : Backend} {c : Nat} {e : σ}

/-- A unit of work on a free shared connection begins a transaction on it and holds the
connection from then on. -/
theorem exec_beginUnit_ok (hb : s.backend = some b) (hc : b.store = some c)
    (hfree : s.held.contains c = false) (hbegin : Executor.control s.engine c .begin = (e, .ok ())) :
    beginUnit.exec s = (.ok ⟨c, false⟩, { s with engine := e, held := c :: s.held }) := by
  obtain ⟨engine, held, level, compiler, backend, sqlBackend, transaction, logs⟩ := s
  subst hb
  rw [beginUnit, exec_get_bind]
  rw [exec_bind_ok (exec_tryCatch_ok (exec_connect_free hc hfree)),
    exec_bind_ok (exec_attempt _ _), exec_control]
  simp only [hbegin]
  rfl

/-- When `begin` fails, the connection is given back and the failure comes out wrapped. -/
theorem exec_beginUnit_error {f : Failure} (hb : s.backend = some b) (hc : b.store = some c)
    (hfree : s.held.contains c = false)
    (hbegin : Executor.control s.engine c .begin = (e, .error f)) :
    beginUnit.exec s = (.error (f.toError.wrap executionContext), { s with engine := e }) := by
  obtain ⟨engine, held, level, compiler, backend, sqlBackend, transaction, logs⟩ := s
  subst hb
  rw [beginUnit, exec_get_bind]
  rw [exec_bind_ok (exec_tryCatch_ok (exec_connect_free hc hfree)),
    exec_bind_ok (exec_attempt _ _), exec_control]
  simp only [hbegin]
  show (release ⟨c, false⟩ >>= fun _ => throw (f.toError.wrap executionContext)).exec _ = _
  rw [exec_bind_ok (exec_release_borrowed rfl _)]
  simp [List.erase_cons_head]

/-- Ending a unit of work runs its command and gives the connection back. -/
theorem exec_endUnit {h : Handle} (ho : h.owned = false) (command : TxCommand) (s : Session σ) :
    (endUnit h command).exec s =
      (((Executor.control s.engine h.connection command).2.mapError fun f =>
          f.toError.wrap executionContext).map fun _ => (),
        { s with engine := (Executor.control s.engine h.connection command).1,
                 held := s.held.erase h.connection }) := by
  rw [endUnit, exec_bind_ok (exec_attempt _ _), exec_control,
    exec_bind_ok (exec_release_borrowed ho _)]
  rcases Executor.control s.engine h.connection command with ⟨e, r⟩
  cases r <;> rfl

/-- Work in the open transaction runs as it is. -/
theorem exec_inScope_joined {h : Handle} (ht : s.transaction = some h) (work : Handle → Act σ α) :
    (inScope work).exec s = (work h).exec s := by
  rw [inScope, exec_get_bind]
  simp only [ht]

/-- A unit of work that cannot begin runs nothing. -/
theorem exec_inScope_begin_error {err : Error} (ht : s.transaction = none)
    (hbegin : beginUnit.exec s = (.error err, s')) (work : Handle → Act σ α) :
    (inScope work).exec s = (.error err, s') := by
  rw [inScope, exec_get_bind]
  simp only [ht]
  exact exec_bind_error hbegin

/-- Work that succeeds in a unit of its own is committed: the outcome is the work's, unless
the commit fails. -/
theorem exec_inScope_commit {h : Handle} {s₁ s₂ : Session σ} {v : α} {work : Handle → Act σ α}
    (ht : s.transaction = none) (hbegin : beginUnit.exec s = (.ok h, s₁)) (ho : h.owned = false)
    (hwork : (work h).exec s₁ = (.ok v, s₂)) :
    (inScope work).exec s =
      (((Executor.control s₂.engine h.connection .commit).2.mapError fun f =>
          f.toError.wrap executionContext).map fun _ => v,
        { s₂ with engine := (Executor.control s₂.engine h.connection .commit).1,
                  held := s₂.held.erase h.connection }) := by
  rw [inScope, exec_get_bind]
  simp only [ht]
  rw [exec_bind_ok hbegin, exec_bind_ok (exec_attempt _ _), hwork]
  have hend := exec_endUnit ho .commit s₂
  dsimp only
  rcases hr : Executor.control s₂.engine h.connection .commit with ⟨e, r⟩
  rw [hr] at hend
  cases r with
  | ok u =>
    rw [exec_bind_ok hend]
    rfl
  | error f =>
    rw [exec_bind_error hend]
    rfl

/-- Work that fails in a unit of its own is rolled back, and its failure comes out. -/
theorem exec_inScope_rollback {h : Handle} {s₁ s₂ : Session σ} {err : Error}
    {work : Handle → Act σ α} (ht : s.transaction = none)
    (hbegin : beginUnit.exec s = (.ok h, s₁)) (ho : h.owned = false)
    (hwork : (work h).exec s₁ = (.error err, s₂)) :
    ∃ logs, (inScope work).exec s =
      (.error err,
        { s₂ with engine := (Executor.control s₂.engine h.connection .rollback).1,
                  held := s₂.held.erase h.connection, logs := logs }) := by
  rw [inScope, exec_get_bind]
  simp only [ht]
  rw [exec_bind_ok hbegin, exec_bind_ok (exec_attempt _ _), hwork]
  -- a failed rollback is only logged
  rw [exec_bind_ok (exec_attempt _ _), exec_endUnit ho]
  rcases Executor.control s₂.engine h.connection .rollback with ⟨e, r⟩
  cases r with
  | ok u => exact ⟨_, rfl⟩
  | error f => exact ⟨_, rfl⟩

end Unit

/-! ### Plans -/

section Plan

variable [Executor σ]

/-- Actions each running one write on a connection, run one after another, run the writes
one after another and stop at the first that fails. -/
theorem exec_mapM_writes {α : Type} (f : α → Act σ Nat) (w : α → String × List Datum) (c : Nat)
    (hf : ∀ a s, ∃ logs, (f a).exec s =
      ((Executor.execute s.engine c (w a).1 (w a).2).2.mapError Failure.toError,
        { s with engine := (Executor.execute s.engine c (w a).1 (w a).2).1, logs := logs })) :
    ∀ (as : List α) (s : Session σ), ∃ logs, (as.mapM f).exec s =
      ((Executor.runWrites s.engine c (as.map w)).2.mapError Failure.toError,
        { s with engine := (Executor.runWrites s.engine c (as.map w)).1, logs := logs })
  | [], s => ⟨s.logs, rfl⟩
  | a :: as, s => by
    obtain ⟨logs, ha⟩ := hf a s
    rw [List.mapM_cons]
    rcases hx : Executor.execute s.engine c (w a).1 (w a).2 with ⟨e, r⟩
    rw [hx] at ha
    cases r with
    | error f =>
      refine ⟨logs, ?_⟩
      rw [exec_bind_error ha]
      simp only [List.map_cons, Executor.runWrites, hx]
      rfl
    | ok n =>
      rw [exec_bind_ok ha]
      obtain ⟨logs', hrest⟩ := exec_mapM_writes f w c hf as { s with engine := e, logs := logs }
      refine ⟨logs', ?_⟩
      rcases hrun : Executor.runWrites e c (as.map w) with ⟨e', r'⟩
      rw [hrun] at hrest
      cases r' with
      | ok ns =>
        rw [exec_bind_ok hrest]
        simp only [List.map_cons, Executor.runWrites, hx, hrun]
        rfl
      | error f =>
        rw [exec_bind_error hrest]
        simp only [List.map_cons, Executor.runWrites, hx, hrun]
        rfl

/-- A plan whose steps come in order runs their writes, each in the session's dialect, one
after another on the handle's connection. -/
theorem exec_runPlan (h : Handle) {plan : QueryDoc.Plan} {steps : List Step}
    (hsteps : plan.stepsInOrder = .ok steps) (s : Session σ) :
    ∃ logs, (runPlan h plan).exec s =
      ((Executor.runWrites s.engine h.connection
          (steps.map fun step => writeOf s.compiler.dialect step.stmt)).2.mapError Failure.toError,
        { s with engine := (Executor.runWrites s.engine h.connection
            (steps.map fun step => writeOf s.compiler.dialect step.stmt)).1, logs := logs }) := by
  rw [runPlan, exec_level_bind, exec_log_bind, exec_get_bind]
  rw [exec_bind_ok (by rw [exec_ofResult, hsteps])]
  refine @exec_mapM_writes σ _ Step _ (fun step => writeOf s.compiler.dialect step.stmt)
    h.connection ?_ steps _
  -- each step logs its text and runs it
  intro step s'
  exact ⟨_, by rw [exec_level_bind, exec_log_bind, exec_execute]; rfl⟩

end Plan

/-! ### Writes -/

section Works

variable [Executor σ]

theorem exec_batchWork_rejected {statements : List Statement} {err : Error} (h : Handle)
    {s : Session σ} (hcomp : statements.mapM (writeStmt s.compiler) = .error err) :
    ∃ logs, (batchWork statements h).exec s =
      (.error (err.wrap executionContext), { s with logs := logs }) := by
  rw [batchWork, exec_instrument, exec_get_bind]
  dsimp only
  rw [exec_bind_error (by rw [exec_ofResult, hcomp])]
  exact ⟨_, rfl⟩

theorem exec_batchWork {statements : List Statement} {stmts : List Stmt} (h : Handle)
    {s : Session σ} (hcomp : statements.mapM (writeStmt s.compiler) = .ok stmts) :
    ∃ logs, (batchWork statements h).exec s =
      (((Executor.runWrites s.engine h.connection (stmts.map (writeOf s.compiler.dialect))).2.mapError
          Failure.toError).mapError (Error.wrap executionContext),
        { s with engine := (Executor.runWrites s.engine h.connection
                    (stmts.map (writeOf s.compiler.dialect))).1, logs := logs }) := by
  have hsteps : (((QueryDoc.Plan.chained stmts).withContext "execute_batch_write" none).withTag
      "dialect" s.compiler.dialect.name).stepsInOrder = .ok (QueryDoc.Plan.chainSteps 0 stmts) := by
    simp only [Plan.stepsInOrder_withTag, Plan.stepsInOrder_withContext, Plan.stepsInOrder_chained]
  obtain ⟨logs, hrun⟩ := exec_runPlan h hsteps s
  rw [Plan.map_chainSteps] at hrun
  rw [batchWork, exec_instrument, exec_get_bind]
  dsimp only
  rw [exec_bind_ok (by rw [exec_ofResult, hcomp]), hrun]
  exact ⟨_, rfl⟩

theorem exec_writeWork {statement : Statement} {stmt : Stmt} (doc : Option String) (h : Handle)
    {s : Session σ} (hcomp : s.compiler.toStmt statement = .ok stmt) :
    ∃ logs, (writeWork statement doc h).exec s =
      ((((Executor.runWrites s.engine h.connection [writeOf s.compiler.dialect stmt]).2.mapError
          Failure.toError).mapError (Error.wrap executionContext)).map fun ns => ns.foldl (· + ·) 0,
        { s with engine := (Executor.runWrites s.engine h.connection
                    [writeOf s.compiler.dialect stmt]).1, logs := logs }) := by
  have hsteps : (((QueryDoc.Plan.single stmt statement.type.tag).withContext "execute_write" doc).withTag
      "dialect" s.compiler.dialect.name).stepsInOrder = .ok [Step.new "main" stmt statement.type.tag] := by
    simp only [Plan.stepsInOrder_withTag, Plan.stepsInOrder_withContext, Plan.stepsInOrder_single]
  obtain ⟨logs, hrun⟩ := exec_runPlan h hsteps s
  have hmain : [Step.new "main" stmt statement.type.tag].map
      (fun step => writeOf s.compiler.dialect step.stmt) = [writeOf s.compiler.dialect stmt] := rfl
  rw [hmain] at hrun
  rcases hw : Executor.runWrites s.engine h.connection [writeOf s.compiler.dialect stmt] with ⟨e, r⟩
  rw [hw] at hrun
  rw [writeWork, exec_instrument, exec_get_bind]
  dsimp only
  rw [exec_bind_ok (by rw [exec_ofResult, hcomp])]
  -- the counts are summed before the failure, if any, is wrapped
  cases r with
  | ok ns =>
    rw [exec_bind_ok hrun]
    exact ⟨_, rfl⟩
  | error f =>
    rw [exec_bind_error hrun]
    exact ⟨_, rfl⟩

/-- What a single write does before its unit of work begins: nothing but reading the log level. -/
theorem exec_executeWrite (statement : Statement) (s : Session σ) :
    ∃ doc, (executeWrite statement).exec s = (inScope (writeWork statement doc)).exec s :=
  ⟨_, by rw [executeWrite, exec_bind_ok (exec_document _ _)]⟩

end Works

end Act

end QueryDoc.Facade
