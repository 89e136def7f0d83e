import QueryDoc.Proofs.Transactions
import QueryDoc.Proofs.Result

/-!
Units of work.

A write runs in the transaction the session has open, or else in a unit of work of its own on
the backend's shared connection, which begins a transaction, runs the work, and commits it, or
rolls it back when the work fails. Over an executor with the laws of `Transactional`:

* a write in a unit of its own is all or nothing (`batch_write_all_or_nothing`);
* a batch that joins an open transaction is not: the transaction goes on seeing the writes
  before the one that failed (`joined_batch_keeps_applied_prefix`);
* a unit of its own leaves the connection with no open transaction unless its commit fails, and
  then the connection keeps it, so that no later unit of work can begin
  (`own_unit_left_open_only_by_failed_commit`).

The facade's write operations are described once by what they run (`RunsWrites`).
-/

namespace QueryDoc.Facade

open Store Sql Compile

variable {σ : Type} [Executor σ]

/-- The writes a batch makes in its compiler's dialect, when every statement is a write that
compiles. -/
def batchWrites (compiler : Compiler) (statements : List Statement) :
    Option (List (String × List Datum)) :=
  (statements.mapM (writeStmt compiler)).toOption.map fun stmts => stmts.map (writeOf compiler.dialect)

/-- The one write a statement makes, when it compiles. -/
def singleWrites (compiler : Compiler) (statement : Statement) :
    Option (List (String × List Datum)) :=
  (compiler.toStmt statement).toOption.map fun stmt => [writeOf compiler.dialect stmt]

/-- Work that runs the writes `ws` on connection `c` one after another and makes its value from
their counts with `g`; with `ws = none` it fails before running any. It does so from every
session with the given compiler and changes nothing else there but the log. -/
structure RunsWrites {α : Type} (compiler : Compiler) (c : Nat) (work : Act σ α)
    (ws : Option (List (String × List Datum))) (g : List Nat → α) : Prop where
  rejected : ws = none → ∀ s : Session σ, s.compiler = compiler →
    ∃ err logs, work.exec s = (.error err, { s with logs := logs })
  runs : ∀ ws', ws = some ws' → ∀ s : Session σ, s.compiler = compiler →
    ∃ logs, work.exec s =
      ((((Executor.runWrites s.engine c ws').2.mapError Failure.toError).mapError
          (Error.wrap executionContext)).map g,
        { s with engine := (Executor.runWrites s.engine c ws').1, logs := logs })

theorem batchWrites_of_ok {compiler : Compiler} {statements : List Statement} {stmts : List Stmt}
    (h : statements.mapM (writeStmt compiler) = .ok stmts) :
    batchWrites compiler statements = some (stmts.map (writeOf compiler.dialect)) := by
  rw [batchWrites, h]
  rfl

theorem batchWrites_of_error {compiler : Compiler} {statements : List Statement} {err : Error}
    (h : statements.mapM (writeStmt compiler) = .error err) : batchWrites compiler statements = none := by
  rw [batchWrites, h]
  rfl

theorem singleWrites_of_ok {compiler : Compiler} {statement : Statement} {stmt : Stmt}
    (h : compiler.toStmt statement = .ok stmt) :
    singleWrites compiler statement = some [writeOf compiler.dialect stmt] := by
  rw [singleWrites, h]
  rfl

theorem singleWrites_of_error {compiler : Compiler} {statement : Statement} {err : Error}
    (h : compiler.toStmt statement = .error err) : singleWrites compiler statement = none := by
  rw [singleWrites, h]
  rfl

/-- A batch's work compiles every statement first, then runs their writes in order. -/
theorem batchWork_runsWrites (compiler : Compiler) (statements : List Statement) (h : Handle) :
    RunsWrites compiler h.connection (Act.batchWork statements h : Act σ (List Nat))
      (batchWrites compiler statements) id where
  rejected := by
    intro hnone s hs
    subst hs
    cases hm : statements.mapM (writeStmt s.compiler) with
    | ok stmts => exact absurd (hnone.symm.trans (batchWrites_of_ok hm)).symm (Option.some_ne_none _)
    | error err =>
      obtain ⟨logs, hx⟩ := Act.exec_batchWork_rejected h hm
      exact ⟨_, logs, hx⟩
  runs := by
    intro ws hws s hs
    subst hs
    cases hm : statements.mapM (writeStmt s.compiler) with
    | error err => exact absurd (hws.symm.trans (batchWrites_of_error hm)) (Option.some_ne_none _)
    | ok stmts =>
      obtain rfl := Option.some.inj (hws ▸ batchWrites_of_ok hm).symm
      obtain ⟨logs, hx⟩ := Act.exec_batchWork h hm
      refine ⟨logs, ?_⟩
      rw [hx]
      cases (Executor.runWrites s.engine h.connection (stmts.map (writeOf s.compiler.dialect))).2 <;> rfl

/-- A single write's work compiles its statement, then runs its one write. -/
theorem writeWork_runsWrites (compiler : Compiler) (statement : Statement) (doc : Option String)
    (h : Handle) :
    RunsWrites compiler h.connection (Act.writeWork statement doc h : Act σ Nat)
      (singleWrites compiler statement) fun ns => ns.foldl (· + ·) 0 where
  rejected := by
    intro hnone s hs
    subst hs
    cases hm : s.compiler.toStmt statement with
    | ok stmt => exact absurd (hnone.symm.trans (singleWrites_of_ok hm)).symm (Option.some_ne_none _)
    | error err =>
      refine ⟨err.wrap executionContext, ?_⟩
      rw [Act.writeWork, Act.exec_instrument, Act.exec_get_bind]
      dsimp only
      rw [Act.exec_bind_error (by rw [Act.exec_ofResult, hm])]
      exact ⟨_, rfl⟩
  runs := by
    intro ws hws s hs
    subst hs
    cases hm : s.compiler.toStmt statement with
    | error err => exact absurd (hws.symm.trans (singleWrites_of_error hm)) (Option.some_ne_none _)
    | ok stmt =>
      obtain rfl := Option.some.inj (hws ▸ singleWrites_of_ok hm).symm
      exact Act.exec_writeWork doc h hm

namespace Transactional

variable {κ α : Type} (L : Transactional σ κ)

/-- How a unit of work of its own may end on connection `c`, from committed contents `k`, for
work that runs the writes `ws` (with `none`, work rejected before running any) and makes its
value from their counts with `g`: either it succeeds, the writes all apply in order to `k`, the
contents after them are committed and its value is made from their counts; or it fails and `k`
is still committed. -/
structure AllOrNothing (k : κ) (c : Nat) (ws : Option (List (String × List Datum)))
    (g : List Nat → α) (r : Except Error α × Session σ) : Prop where
  ok : ∀ v, r.1 = .ok v → ∃ ws' ns, ws = some ws' ∧ v = g ns ∧
    L.applyAll k ws' = some ((L.view r.2.engine c).committed, ns)
  error : ∀ err, r.1 = .error err → (L.view r.2.engine c).committed = k

/-- A batch that succeeds gives one count per statement. -/
theorem AllOrNothing.length_counts {k : κ} {c : Nat} {compiler : Compiler}
    {statements : List Statement} {r : Except Error (List Nat) × Session σ} {counts : List Nat}
    (hall : L.AllOrNothing k c (batchWrites compiler statements) id r) (hok : r.1 = .ok counts) :
    counts.length = statements.length := by
  obtain ⟨ws, ns, hws, rfl, happ⟩ := hall.ok counts hok
  cases hm : statements.mapM (writeStmt compiler) with
  | error err => exact absurd ((batchWrites_of_error hm).symm.trans hws).symm (Option.some_ne_none _)
  | ok stmts =>
    obtain rfl := Option.some.inj ((batchWrites_of_ok hm).symm.trans hws)
    rw [L.length_of_applyAll happ, List.length_map, Result.length_of_mapM_ok hm]

section OwnUnit

variable {s : Session σ} {b : Backend} {c : Nat} {k : κ}

/-- On an idle connection a unit of work begins, and its transaction sees the committed
contents. -/
theorem beginUnit_idle (hb : s.backend = some b) (hc : b.store = some c)
    (hfree : s.held.contains c = false) (hidle : L.view s.engine c = ⟨k, none⟩) :
    Act.beginUnit.exec s = (.ok ⟨c, false⟩,
        { s with engine := (Executor.control s.engine c .begin).1, held := c :: s.held }) ∧
      L.view (Executor.control s.engine c .begin).1 c = ⟨k, some k⟩ := by
  obtain ⟨hok, hv⟩ := L.begin_idle s.engine c k hidle
  exact ⟨Act.exec_beginUnit_ok hb hc hfree (by rw [← hok]), hv⟩

/-- A unit of work cannot begin on a connection whose transaction is still open. -/
theorem beginUnit_busy {t : κ} (hb : s.backend = some b) (hc : b.store = some c)
    (hfree : s.held.contains c = false) (hopen : L.view s.engine c = ⟨k, some t⟩) :
    ∃ err, (Act.beginUnit.exec s).1 = .error err := by
  obtain ⟨f, hf⟩ := L.begin_busy _ c k t hopen
  exact ⟨_, by rw [Act.exec_beginUnit_error hb hc hfree (by rw [← hf])]⟩

/-- Work rejected before it runs anything, in a unit of work of its own: the unit begins and
rolls back, and nothing else reaches the engine. -/
theorem inScope_rejected {work : Handle → Act σ α} {err : Error}
    (hwork : ∀ s₁ : Session σ, s₁.compiler = s.compiler →
      ∃ logs, (work ⟨c, false⟩).exec s₁ = (.error err, { s₁ with logs := logs }))
    (ht : s.transaction = none) (hb : s.backend = some b) (hc : b.store = some c)
    (hfree : s.held.contains c = false) (hidle : L.view s.engine c = ⟨k, none⟩) :
    ((Act.inScope work).exec s).1 = .error err ∧
      ((Act.inScope work).exec s).2.engine =
        (Executor.control (Executor.control s.engine c .begin).1 c .rollback).1 := by
  obtain ⟨hbegin, -⟩ := L.beginUnit_idle hb hc hfree hidle
  obtain ⟨logs, hw⟩ := hwork { s with engine := _, held := c :: s.held } rfl
  obtain ⟨logs', hr⟩ := Act.exec_inScope_rollback ht hbegin rfl hw
  rw [hr]
  exact ⟨rfl, rfl⟩

/-- A unit of work of its own whose work runs writes is all or nothing: the writes are
committed together, or none of them is. -/
theorem inScope_allOrNothing {work : Handle → Act σ α} {ws : Option (List (String × List Datum))}
    {g : List Nat → α} (hwork : RunsWrites s.compiler c (work ⟨c, false⟩) ws g)
    (ht : s.transaction = none) (hb : s.backend = some b) (hc : b.store = some c)
    (hfree : s.held.contains c = false) (hidle : L.view s.engine c = ⟨k, none⟩) :
    L.AllOrNothing k c ws g ((Act.inScope work).exec s) := by
  obtain ⟨hbegin, hv₁⟩ := L.beginUnit_idle hb hc hfree hidle
  generalize (Executor.control s.engine c .begin).1 = e₁ at hbegin hv₁
  cases ws with
  | none =>
    -- rejected work leaves the transaction as it began, and the rollback drops it
    obtain ⟨err, logs, hw⟩ := hwork.rejected rfl { s with engine := e₁, held := c :: s.held } rfl
    obtain ⟨logs', hr⟩ := Act.exec_inScope_rollback ht hbegin rfl hw
    rw [hr]
    dsimp only
    exact ⟨fun v hv => (by cases hv), fun _ _ => by rw [L.rollback _ _ _ _ hv₁]⟩
  | some ws =>
    obtain ⟨logs, hw⟩ := hwork.runs ws rfl { s with engine := e₁, held := c :: s.held } rfl
    obtain ⟨hview, hall⟩ := L.runWrites_spec ws hv₁
    rcases hrun : Executor.runWrites e₁ c ws with ⟨e₂, r⟩
    rw [hrun] at hw hview hall
    cases r with
    | error f =>
      obtain ⟨logs', hr⟩ := Act.exec_inScope_rollback ht hbegin rfl hw
      rw [hr]
      dsimp only
      exact ⟨fun v hv => (by cases hv), fun _ _ => by rw [L.rollback _ _ _ _ hview]⟩
    | ok ns =>
      rw [Act.exec_inScope_commit ht hbegin rfl hw]
      dsimp only
      rcases L.commit e₂ c k _ hview with ⟨hok, hv⟩ | ⟨⟨f, hf⟩, hv⟩
      · -- the commit publishes the writes
        rw [hok]
        refine ⟨fun v hv' => ⟨ws, ns, rfl, (Except.ok.inj hv').symm, ?_⟩, fun err he => (by cases he)⟩
        dsimp only
        rw [hv]
        exact hall
      · -- a failed commit leaves `k` committed
        rw [hf]
        refine ⟨fun v hv' => (by cases hv'), fun _ _ => ?_⟩
        dsimp only
        rw [hv]

end OwnUnit

section Joined

variable {s : Session σ} {h : Handle} {k t : κ}

/-- Work that runs writes in a transaction it joins leaves the transaction open, seeing the
writes up to the first that fails (none, when the work is rejected); it succeeds only when they
all apply. -/
theorem inScope_joined_writes {work : Handle → Act σ α} {ws : Option (List (String × List Datum))}
    {g : List Nat → α} (hwork : RunsWrites s.compiler h.connection (work h) ws g)
    (ht : s.transaction = some h) (hopen : L.view s.engine h.connection = ⟨k, some t⟩) :
    L.view ((Act.inScope work).exec s).2.engine h.connection = ⟨k, some (ws.elim t (L.applyUntil t))⟩ ∧
      ∀ v, ((Act.inScope work).exec s).1 = .ok v →
        ∃ ws' ns, ws = some ws' ∧ v = g ns ∧ L.applyAll t ws' = some (L.applyUntil t ws', ns) := by
  rw [Act.exec_inScope_joined ht]
  cases ws with
  | none =>
    obtain ⟨err, logs, hw⟩ := hwork.rejected rfl s rfl
    rw [hw]
    exact ⟨hopen, fun v hv => (by cases hv)⟩
  | some ws =>
    obtain ⟨logs, hw⟩ := hwork.runs ws rfl s rfl
    obtain ⟨hview, hall⟩ := L.runWrites_spec ws hopen
    rw [hw]
    refine ⟨hview, fun v hv => ?_⟩
    rcases hrun : Executor.runWrites s.engine h.connection ws with ⟨e', r⟩
    rw [hrun] at hv hall
    cases r with
    | ok ns => exact ⟨ws, ns, rfl, (Except.ok.inj hv).symm, hall⟩
    | error f => cases hv

end Joined

/-- Work on connection `c` that keeps a transaction open there: from a session with the given
compiler whose transaction on `c` is open on committed contents `k`, it ends with the
transaction still open on `k`, and with the backend and the held connections as they were. -/
def KeepsOpen (compiler : Compiler) (c : Nat) (work : Act σ α) : Prop :=
  ∀ (s : Session σ) (k t : κ), s.compiler = compiler → L.view s.engine c = ⟨k, some t⟩ →
    (∃ t', L.view (work.exec s).2.engine c = ⟨k, some t'⟩) ∧
      (work.exec s).2.backend = s.backend ∧ (work.exec s).2.held = s.held

/-- Work that runs writes keeps its transaction open. -/
theorem keepsOpen_of_runsWrites {compiler : Compiler} {c : Nat} {work : Act σ α}
    {ws : Option (List (String × List Datum))} {g : List Nat → α}
    (hwork : RunsWrites compiler c work ws g) : L.KeepsOpen compiler c work := by
  intro s k t hs hopen
  cases ws with
  | none =>
    obtain ⟨err, logs, hw⟩ := hwork.rejected rfl s hs
    rw [hw]
    exact ⟨⟨t, hopen⟩, rfl, rfl⟩
  | some ws =>
    obtain ⟨logs, hw⟩ := hwork.runs ws rfl s hs
    rw [hw]
    exact ⟨⟨_, (L.runWrites_spec ws hopen).1⟩, rfl, rfl⟩

end Transactional

open Transactional

variable {κ α : Type}

/-- A batch write, and a single write, in a unit of work of their own are all or nothing: they
succeed with one count per statement, in order, and the statements applied in order committed,
or fail with the committed contents as they were. A batch with a statement that is not a write
or does not compile runs nothing: its unit of work begins and rolls back. -/
theorem batch_write_all_or_nothing (L : Transactional σ κ) {s : Session σ} {b : Backend} {c : Nat}
    {k : κ} (ht : s.transaction = none) (hb : s.backend = some b) (hc : b.store = some c)
    (hfree : s.held.contains c = false) (hidle : L.view s.engine c = ⟨k, none⟩)
    (statements : List Statement) (statement : Statement) :
    L.AllOrNothing k c (batchWrites s.compiler statements) id
        ((Act.executeBatchWrite statements).exec s) ∧
      (∀ counts, ((Act.executeBatchWrite statements).exec s).1 = .ok counts →
        counts.length = statements.length) ∧
      L.AllOrNothing k c (singleWrites s.compiler statement) (fun ns => ns.foldl (· + ·) 0)
        ((Act.executeWrite statement).exec s) ∧
      ∀ err, statements.mapM (writeStmt s.compiler) = .error err →
        ((Act.executeBatchWrite statements).exec s).1 = .error (err.wrap executionContext) ∧
          ((Act.executeBatchWrite statements).exec s).2.engine =
            (Executor.control (Executor.control s.engine c .begin).1 c .rollback).1 := by
  have hbatch := L.inScope_allOrNothing (batchWork_runsWrites s.compiler statements ⟨c, false⟩)
    ht hb hc hfree hidle
  refine ⟨hbatch, fun counts hok => AllOrNothing.length_counts L hbatch hok, ?_, fun err hcomp => ?_⟩
  · obtain ⟨doc, hdoc⟩ := Act.exec_executeWrite statement s
    rw [hdoc]
    exact L.inScope_allOrNothing (writeWork_runsWrites s.compiler statement doc ⟨c, false⟩)
      ht hb hc hfree hidle
  · refine L.inScope_rejected (fun s₁ hs₁ => ?_) ht hb hc hfree hidle
    rw [← hs₁] at hcomp
    exact Act.exec_batchWork_rejected _ hcomp

/-- Two inserts of which only one fits, and a single insert, each in a unit of work of its own. -/
theorem tally_writes_all_or_nothing :
    (@Tally.laws 1 0).AllOrNothing 0 0 (batchWrites ⟨.sqlite⟩ [Tally.insertRow, Tally.insertRow]) id
        ((Act.executeBatchWrite [Tally.insertRow, Tally.insertRow]).exec Tally.idle) ∧
      (∀ counts, ((Act.executeBatchWrite [Tally.insertRow, Tally.insertRow]).exec Tally.idle).1 =
        .ok counts → counts.length = 2) ∧
      (@Tally.laws 1 0).AllOrNothing 0 0 (singleWrites ⟨.sqlite⟩ Tally.insertRow)
        (fun ns => ns.foldl (· + ·) 0) ((Act.executeWrite Tally.insertRow).exec Tally.idle) ∧
      ∀ err, [Tally.insertRow, Tally.insertRow].mapM (writeStmt ⟨.sqlite⟩) = .error err →
        ((Act.executeBatchWrite [Tally.insertRow, Tally.insertRow]).exec Tally.idle).1 =
            .error (err.wrap executionContext) ∧
          ((Act.executeBatchWrite [Tally.insertRow, Tally.insertRow]).exec Tally.idle).2.engine =
            (Executor.control (Executor.control Tally.idle.engine 0 .begin).1 0 .rollback).1 :=
  batch_write_all_or_nothing (@Tally.laws 1 0) (s := Tally.idle) rfl rfl rfl rfl rfl
    [Tally.insertRow, Tally.insertRow] Tally.insertRow

/-- A batch that joins an open transaction is not all or nothing: the transaction goes on
seeing the batch's writes up to the first that fails, and its owner's commit publishes them. The
batch succeeds only when all its writes apply. -/
theorem joined_batch_keeps_applied_prefix (L : Transactional σ κ) {s : Session σ} {h : Handle}
    {k t : κ} (ht : s.transaction = some h) (hopen : L.view s.engine h.connection = ⟨k, some t⟩)
    (statements : List Statement) :
    L.view ((Act.executeBatchWrite statements).exec s).2.engine h.connection =
        ⟨k, some ((batchWrites s.compiler statements).elim t (L.applyUntil t))⟩ ∧
      ∀ counts, ((Act.executeBatchWrite statements).exec s).1 = .ok counts →
        ∃ ws, batchWrites s.compiler statements = some ws ∧
          L.applyAll t ws = some (L.applyUntil t ws, counts) := by
  obtain ⟨hview, hok⟩ := L.inScope_joined_writes (batchWork_runsWrites s.compiler statements h) ht hopen
  refine ⟨hview, fun counts hcounts => ?_⟩
  obtain ⟨ws, ns, hws, rfl, hall⟩ := hok counts hcounts
  exact ⟨ws, hws, hall⟩

/-- Two inserts of which only one fits, in a transaction the batch joins. -/
theorem tally_joined_batch_view :
    (@Tally.laws 1 0).view
        ((Act.executeBatchWrite [Tally.insertRow, Tally.insertRow]).exec Tally.joined).2.engine 0 =
        ⟨0, some ((batchWrites ⟨.sqlite⟩ [Tally.insertRow, Tally.insertRow]).elim 0
          ((@Tally.laws 1 0).applyUntil 0))⟩ ∧
      ∀ counts, ((Act.executeBatchWrite [Tally.insertRow, Tally.insertRow]).exec Tally.joined).1 =
          .ok counts →
        ∃ ws, batchWrites ⟨.sqlite⟩ [Tally.insertRow, Tally.insertRow] = some ws ∧
          (@Tally.laws 1 0).applyAll 0 ws = some ((@Tally.laws 1 0).applyUntil 0 ws, counts) :=
  joined_batch_keeps_applied_prefix (@Tally.laws 1 0) (s := Tally.joined) rfl rfl
    [Tally.insertRow, Tally.insertRow]

/-- The same batch fails, and the transaction it joined goes on seeing its first insert. -/
theorem tally_joined_batch_keeps_first_insert :
    (∃ err, ((Act.executeBatchWrite [Tally.insertRow, Tally.insertRow]).exec Tally.joined).1 =
        .error err) ∧
      (@Tally.laws 1 0).view Tally.joined.engine 0 = ⟨0, some 0⟩ ∧
      (@Tally.laws 1 0).view
        ((Act.executeBatchWrite [Tally.insertRow, Tally.insertRow]).exec Tally.joined).2.engine 0 =
        ⟨0, some 1⟩ :=
  ⟨⟨_, rfl⟩, rfl, rfl⟩

/-- A unit of work of its own leaves its connection with no open transaction, unless its work
succeeds and its commit fails: the unit then fails, the transaction stays open on the contents
committed before it, and the next unit of work on the backend cannot begin. -/
theorem own_unit_left_open_only_by_failed_commit (L : Transactional σ κ) {s : Session σ}
    {b : Backend} {c : Nat} {k : κ} {work : Handle → Act σ α}
    (hwork : L.KeepsOpen s.compiler c (work ⟨c, false⟩)) (ht : s.transaction = none)
    (hb : s.backend = some b) (hc : b.store = some c) (hfree : s.held.contains c = false)
    (hidle : L.view s.engine c = ⟨k, none⟩) :
    (L.view ((Act.inScope work).exec s).2.engine c).pending = none ∨
      ∃ s₁ v s₂ f, Act.beginUnit.exec s = (.ok ⟨c, false⟩, s₁) ∧
        (work ⟨c, false⟩).exec s₁ = (.ok v, s₂) ∧ (Executor.control s₂.engine c .commit).2 = .error f ∧
        ((Act.inScope work).exec s).1 = .error (f.toError.wrap executionContext) ∧
        (L.view ((Act.inScope work).exec s).2.engine c).committed = k ∧
        (L.view ((Act.inScope work).exec s).2.engine c).pending.isSome ∧
        ∃ err, (Act.beginUnit.exec ((Act.inScope work).exec s).2).1 = .error err := by
  obtain ⟨hbegin, hv₁⟩ := L.beginUnit_idle hb hc hfree hidle
  generalize (Executor.control s.engine c .begin).1 = e₁ at hbegin hv₁
  obtain ⟨⟨t, hv₂⟩, hback, hheld⟩ := hwork { s with engine := e₁, held := c :: s.held } k k rfl hv₁
  rcases hw : (work ⟨c, false⟩).exec { s with engine := e₁, held := c :: s.held } with ⟨r, s₂⟩
  rw [hw] at hv₂ hback hheld
  dsimp only at hv₂ hback hheld
  cases r with
  | error err =>
    -- failed work is rolled back
    left
    obtain ⟨logs, hr⟩ := Act.exec_inScope_rollback ht hbegin rfl hw
    rw [hr]
    dsimp only
    rw [L.rollback _ _ _ _ hv₂]
  | ok v =>
    rw [Act.exec_inScope_commit ht hbegin rfl hw]
    dsimp only
    rcases L.commit s₂.engine c k t hv₂ with ⟨hok, hv⟩ | ⟨⟨f, hf⟩, hv⟩
    · left
      rw [hv]
    · -- the failed commit leaves the transaction open, and the connection free to lend again
      right
      have hfree' : (s₂.held.erase c).contains c = false := by
        rw [hheld, List.erase_cons_head]
        exact hfree
      refine ⟨_, v, s₂, f, hbegin, hw, hf, by rw [hf]; rfl, by rw [hv], by rw [hv]; rfl, ?_⟩
      exact L.beginUnit_busy (hback.trans hb) hc hfree' hv

/-- A single insert in a unit of work of its own. -/
theorem tally_write_unit_end :
    ((@Tally.laws 1 0).view
        ((Act.inScope (Act.writeWork Tally.insertRow none)).exec Tally.idle).2.engine 0).pending = none ∨
      ∃ s₁ v s₂ f, Act.beginUnit.exec Tally.idle = (.ok ⟨0, false⟩, s₁) ∧
        (Act.writeWork Tally.insertRow none ⟨0, false⟩).exec s₁ = (.ok v, s₂) ∧
        (Executor.control s₂.engine 0 .commit).2 = .error f ∧
        ((Act.inScope (Act.writeWork Tally.insertRow none)).exec Tally.idle).1 =
          .error (f.toError.wrap executionContext) ∧
        ((@Tally.laws 1 0).view
          ((Act.inScope (Act.writeWork Tally.insertRow none)).exec Tally.idle).2.engine 0).committed = 0 ∧
        ((@Tally.laws 1 0).view
          ((Act.inScope (Act.writeWork Tally.insertRow none)).exec Tally.idle).2.engine 0).pending.isSome ∧
        ∃ err, (Act.beginUnit.exec
          ((Act.inScope (Act.writeWork Tally.insertRow none)).exec Tally.idle).2).1 = .error err :=
  own_unit_left_open_only_by_failed_commit (@Tally.laws 1 0)
    ((@Tally.laws 1 0).keepsOpen_of_runsWrites
      (writeWork_runsWrites Tally.idle.compiler Tally.insertRow none ⟨0, false⟩)) rfl rfl rfl rfl rfl

/-- The same insert through the facade's single write, on a connection that refuses to commit
it: the write fails, its transaction stays open with the row, and the next unit of work cannot
begin. -/
theorem tally_failed_commit_blocks_next_unit :
    (∃ err, ((Act.executeWrite Tally.insertRow).exec Tally.idle).1 = .error err) ∧
      ((@Tally.laws 1 0).view ((Act.executeWrite Tally.insertRow).exec Tally.idle).2.engine 0).pending =
        some 1 ∧
      ∃ err, (Act.beginUnit.exec ((Act.executeWrite Tally.insertRow).exec Tally.idle).2).1 = .error err :=
  ⟨⟨_, rfl⟩, rfl, ⟨_, rfl⟩⟩

end QueryDoc.Facade
