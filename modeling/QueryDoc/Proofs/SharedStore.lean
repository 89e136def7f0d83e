import QueryDoc.Proofs.UnitOfWork

/-!
One unit of work at a time on a shared in-memory store.

A facade on an in-memory path keeps one store connection, which its raw SQL shares. A unit of
work borrows it; asking for it while it is lent is refused with a validation failure that
changes nothing (`exec_connect_held`). `SharedStore c` says what a session holds of it between
requests: both backends are connection `c`, lent exactly while the session's transaction is
open, and that transaction is its borrow.

A facade operation's work keeps what a session holds of units of work (`Act.KeepsUnits`), so it
keeps `SharedStore c` in the open transaction, and in a unit of its own it gives the connection
back whether the unit commits, rolls back or cannot begin (`SharedStore.inScope`). Raw SQL
borrows the connection for one statement, `begin` lends it, and `commit` and `rollback` give it
back even when their command fails. So every request keeps `SharedStore c` (`SharedStore.step`),
and so does every run of requests (`SharedStore.afterAll`), which gives the main statement,
`store_lent_to_one_unit`.
-/

namespace QueryDoc.Facade

open Store Sql Compile

variable {σ : Type}

/-- What a session holds of units of work: the store connections lent, the open transaction,
and the facade's and raw SQL's backends. -/
def Session.units (s : Session σ) : List Nat × Option Handle × Option Backend × Backend :=
  (s.held, s.transaction, s.backend, s.sqlBackend)

/-- A session whose facade shares the store connection `c` of an in-memory backend with its
raw SQL: both backends are that connection, which is lent exactly while the session's
transaction is open, and that transaction is its borrow. -/
structure SharedStore (c : Nat) (s : Session σ) : Prop where
  backend : ∃ b, s.backend = some b ∧ b.store = some c
  sqlBackend : s.sqlBackend.store = some c
  held : s.held = if s.transaction.isSome then [c] else []
  borrowed : ∀ h, s.transaction = some h → h = ⟨c, false⟩

namespace SharedStore

variable {c : Nat} {s s' : Session σ}

/-- The invariant reads only what a session holds of units of work. -/
theorem of_units (hs : SharedStore c s) (h : s'.units = s.units) : SharedStore c s' := by
  simp only [Session.units, Prod.mk.injEq] at h
  obtain ⟨hheld, htx, hb, hsql⟩ := h
  exact ⟨hb ▸ hs.backend, hsql ▸ hs.sqlBackend, by rw [hheld, htx]; exact hs.held,
    htx ▸ hs.borrowed⟩

/-- A connection borrowed while the transaction is closed and given back after work that kept
what the session holds of units of work leaves the invariant as it was. -/
theorem of_giveBack (hs : SharedStore c s) {s₂ s₃ : Session σ}
    (h₂ : s₂.units = (c :: s.held, s.transaction, s.backend, s.sqlBackend))
    (h₃ : s₃.units = (s₂.held.erase c, s₂.transaction, s₂.backend, s₂.sqlBackend)) :
    SharedStore c s₃ := by
  simp only [Session.units, Prod.mk.injEq] at h₂ h₃
  obtain ⟨hheld₂, htx₂, hb₂, hsql₂⟩ := h₂
  obtain ⟨hheld₃, htx₃, hb₃, hsql₃⟩ := h₃
  refine hs.of_units ?_
  simp only [Session.units, hheld₃, hheld₂, List.erase_cons_head, htx₃, htx₂, hb₃, hb₂, hsql₃,
    hsql₂]

/-- With no transaction open, nothing is lent. -/
theorem held_of_none (hs : SharedStore c s) (ht : s.transaction = none) : s.held = [] := by
  rw [hs.held, ht]
  rfl

/-- With the transaction open, its connection alone is lent. -/
theorem held_of_some (hs : SharedStore c s) {h : Handle} (ht : s.transaction = some h) :
    s.held = [c] := by
  rw [hs.held, ht]
  rfl

end SharedStore

namespace Act

variable {α β : Type}

theorem exec_map (f : α → β) (x : Act σ α) (s : Session σ) :
    (f <$> x).exec s = ((x.exec s).1.map f, (x.exec s).2) := by
  rcases hx : x.exec s with ⟨r, s'⟩
  cases r with
  | ok a => rw [← bind_pure_comp, exec_bind_ok hx]; rfl
  | error e => rw [← bind_pure_comp, exec_bind_error hx]; rfl

theorem exec_seqRight_pure (x : Act σ α) (b : β) (s : Session σ) :
    (x *> pure b).exec s = ((x.exec s).1.map fun _ => b, (x.exec s).2) := by
  rw [seqRight_eq_bind]
  rcases hx : x.exec s with ⟨r, s'⟩
  cases r with
  | ok a => rw [exec_bind_ok hx]; rfl
  | error e => rw [exec_bind_error hx]; rfl

/-- An action that leaves what any session holds of units of work as it was. -/
def KeepsUnits {α : Type} (x : Act σ α) : Prop := ∀ s, (x.exec s).2.units = s.units

namespace KeepsUnits

theorem of_pure (a : α) : KeepsUnits (pure a : Act σ α) := fun _ => rfl

/-- Nothing after a failure runs. -/
theorem of_throw_bind (e : Error) (f : α → Act σ β) : KeepsUnits (throw e >>= f) := fun _ => rfl

theorem of_bind {x : Act σ α} {f : α → Act σ β} (hx : KeepsUnits x) (hf : ∀ a, KeepsUnits (f a)) :
    KeepsUnits (x >>= f) := by
  intro s
  rcases hxs : x.exec s with ⟨r, s'⟩
  have hs' : s'.units = s.units := by rw [← hx s, hxs]
  cases r with
  | ok a => rw [exec_bind_ok hxs, hf a s', hs']
  | error e => rw [exec_bind_error hxs]; exact hs'

theorem get_bind {f : Session σ → Act σ α} (hf : ∀ s, KeepsUnits (f s)) :
    KeepsUnits (get >>= f) := fun s => by rw [exec_get_bind]; exact hf s s

theorem of_result (r : Result α) : KeepsUnits (ofResult r : Act σ α) := fun s => by
  rw [exec_ofResult]

theorem of_map {x : Act σ α} (f : α → β) (hx : KeepsUnits x) : KeepsUnits (f <$> x) := by
  rw [← bind_pure_comp]
  exact of_bind hx fun a => of_pure (f a)

/-- An operation keeps what its work keeps; its document and its end are only logged. -/
theorem of_instrument {operation : String} {doc : Option String} {work : Act σ α}
    (hwork : KeepsUnits work) : KeepsUnits (instrument operation doc work) := by
  intro s
  cases doc with
  | none => rw [exec_instrument]; exact hwork s
  | some d => rw [exec_instrument_some, exec_instrument]; exact hwork _

theorem of_decodeRows (t : RowType) (rows : List (List (String × Json))) :
    KeepsUnits (decodeRows t rows : Act σ (List Json)) := fun s => by
  rw [decodeRows, exec_mapM_ofResult]

variable [Executor σ]

theorem of_execute (h : Handle) (sql : String) (params : List Datum) :
    KeepsUnits (execute h sql params : Act σ Nat) := fun s => by
  rw [exec_execute]
  rfl

theorem of_queryRows (h : Handle) (c : Compiled) :
    KeepsUnits (queryRows h c : Act σ (List (List (String × Json)))) := fun s => by
  rw [exec_queryRows]
  rfl

theorem of_countRows (h : Handle) (select : Select) : KeepsUnits (countRows h select : Act σ Int) := by
  unfold countRows
  refine of_bind (of_result _) fun _ => get_bind fun _ => of_bind (of_result _) fun c =>
    of_bind (of_queryRows h c) fun rows => ?_
  split
  · exact of_pure _
  · exact of_result _

/-- Work that runs writes changes nothing but the engine and the log. -/
theorem of_runsWrites {work : Act σ α} {c : Nat} {ws : Compiler → Option (List (String × List Datum))}
    {g : List Nat → α} (hwork : ∀ compiler, RunsWrites compiler c work (ws compiler) g) :
    KeepsUnits work := by
  intro s
  cases hws : ws s.compiler with
  | none =>
    obtain ⟨err, logs, hx⟩ := (hwork s.compiler).rejected hws s rfl
    rw [hx]
    rfl
  | some ws' =>
    obtain ⟨logs, hx⟩ := (hwork s.compiler).runs ws' hws s rfl
    rw [hx]
    rfl

end KeepsUnits

end Act

namespace Session

/-- A library action run as a step: its failure as a library failure, its session as it
leaves it. -/
theorem run_lib (x : Act σ Reply) (s : Session σ) :
    (Session.request.lib x).run.run s = ((x.exec s).1.mapError StepFailure.library, (x.exec s).2) :=
  rfl

theorem run_get_bind {β : Type} (f : Session σ → ExceptT StepFailure (StateM (Session σ)) β)
    (s : Session σ) : (get >>= f).run.run s = (f s).run.run s :=
  rfl

variable [Executor σ]

/-- A step runs its request from the session with its log emptied, and answers with the lines
the request logged. -/
theorem step_eq (s : Session σ) (r : Request) :
    s.step r =
      ((((Session.request r).run.run { s with logs := #[] }).1,
          ((Session.request r).run.run { s with logs := #[] }).2.logs.toList),
        ((Session.request r).run.run { s with logs := #[] }).2) :=
  rfl

/-- The session a run of requests leaves, each step starting from the session the one before
left, as a script runs them. -/
def afterAll (s : Session σ) : List Request → Session σ
  | [] => s
  | r :: rs => (s.step r).2.afterAll rs

end Session

/-! ### Units of work on the shared connection -/

namespace SharedStore

open Act Act.KeepsUnits

variable [Executor σ] {c : Nat} {s : Session σ} {α : Type}

/-- Work that keeps what a session holds of units of work, run in the open transaction or in a
unit of its own, keeps the invariant: a unit of its own gives the connection back whether it
commits, rolls back or cannot begin. -/
theorem inScope {work : Handle → Act σ α} (hwork : ∀ h, KeepsUnits (work h))
    (hs : SharedStore c s) : SharedStore c ((Act.inScope work).exec s).2 := by
  cases ht : s.transaction with
  | some h =>
    rw [exec_inScope_joined ht]
    exact hs.of_units (hwork h s)
  | none =>
    obtain ⟨b, hb, hc⟩ := hs.backend
    have hheld := hs.held_of_none ht
    have hfree : s.held.contains c = false := by rw [hheld]; rfl
    rcases hbegin : Executor.control s.engine c .begin with ⟨e, r⟩
    cases r with
    | error f =>
      rw [exec_inScope_begin_error ht (exec_beginUnit_error hb hc hfree hbegin)]
      exact hs.of_units rfl
    | ok u =>
      -- the unit holds the connection while its work runs, and gives it back at its end
      have hopen := exec_beginUnit_ok hb hc hfree hbegin
      rcases hw : (work ⟨c, false⟩).exec { s with engine := e, held := c :: s.held } with ⟨r, s₂⟩
      have h₂ := hwork ⟨c, false⟩ { s with engine := e, held := c :: s.held }
      rw [hw] at h₂
      cases r with
      | ok v =>
        rw [exec_inScope_commit ht hopen rfl hw]
        exact hs.of_giveBack h₂ rfl
      | error err =>
        obtain ⟨logs, hx⟩ := exec_inScope_rollback ht hopen rfl hw
        rw [hx]
        exact hs.of_giveBack h₂ rfl

/-- An operation that logs its document and then runs its work in scope keeps the invariant. -/
theorem document_inScope {st : Statement} {work : Option String → Handle → Act σ α}
    (hwork : ∀ doc h, KeepsUnits (work doc h)) (hs : SharedStore c s) :
    SharedStore c ((document st >>= fun doc => Act.inScope (work doc)).exec s).2 := by
  rw [exec_bind_ok (exec_document _ _)]
  exact hs.inScope (hwork _)

/-- Raw SQL borrows the connection for one statement when it is free, and is refused when it
is lent. -/
theorem rawSql (hs : SharedStore c s) (text : String) :
    SharedStore c ((Session.rawSql text).exec s).2 := by
  unfold Session.rawSql
  rw [exec_get_bind]
  cases ht : s.transaction with
  | some h =>
    have hheld : s.held.contains c = true := by rw [hs.held_of_some ht]; simp
    rw [exec_bind_error (exec_connect_held hs.sqlBackend hheld)]
    exact hs
  | none =>
    have hfree : s.held.contains c = false := by rw [hs.held_of_none ht]; rfl
    -- the statement runs on the borrowed connection, which is given back whatever its outcome
    rcases hx : (execute ⟨c, false⟩ text []).exec { s with held := c :: s.held } with ⟨r, s₂⟩
    have h₂ := of_execute ⟨c, false⟩ text [] { s with held := c :: s.held }
    rw [hx] at h₂
    rw [exec_bind_ok (exec_connect_free hs.sqlBackend hfree), exec_bind_ok (exec_attempt _ _), hx,
      exec_bind_ok (exec_release_borrowed rfl _)]
    cases r <;> exact hs.of_giveBack h₂ rfl

/-- `begin` lends the free connection to the session's transaction, and is refused while a
transaction is open. -/
theorem beginTransaction (hs : SharedStore c s) :
    SharedStore c ((Session.beginTransaction).exec s).2 := by
  unfold Session.beginTransaction
  rw [exec_get_bind]
  dsimp only
  cases ht : s.transaction with
  | some h =>
    simp only [Option.isSome_some, if_true]
    exact hs
  | none =>
    simp only [Option.isSome_none, Bool.false_eq_true, if_false]
    obtain ⟨b, hb, hc⟩ := hs.backend
    have hfree : s.held.contains c = false := by rw [hs.held_of_none ht]; rfl
    rcases hbegin : Executor.control s.engine c .begin with ⟨e, r⟩
    cases r with
    | error f =>
      rw [exec_bind_error (exec_beginUnit_error hb hc hfree hbegin)]
      exact hs.of_units rfl
    | ok u =>
      -- the connection now held is the transaction's
      rw [exec_bind_ok (exec_beginUnit_ok hb hc hfree hbegin)]
      refine ⟨⟨b, hb, hc⟩, hs.sqlBackend, ?_, ?_⟩
      · show c :: s.held = [c]
        rw [hs.held_of_none ht]
      · rintro _ ⟨⟩
        rfl

/-- `commit` and `rollback` run their command on the lent connection and give it back, leaving
the session with no transaction and nothing lent, even when the command fails. -/
theorem exec_finishTransaction (hs : SharedStore c s) {h : Handle} (ht : s.transaction = some h)
    (command : TxCommand) :
    (Session.finishTransaction h command).exec s =
      (((Executor.control s.engine c command).2.mapError fun f =>
          f.toError.wrap executionContext).map fun _ => (),
        { s with engine := (Executor.control s.engine c command).1, held := [],
                 transaction := none }) := by
  obtain rfl := hs.borrowed h ht
  show (endUnit ⟨c, false⟩ command).exec { s with transaction := none } = _
  rw [exec_endUnit rfl, hs.held_of_some ht, List.erase_cons_head]

theorem finishTransaction (hs : SharedStore c s) {h : Handle} (ht : s.transaction = some h)
    (command : TxCommand) : SharedStore c ((Session.finishTransaction h command).exec s).2 := by
  rw [hs.exec_finishTransaction ht]
  exact ⟨hs.backend, hs.sqlBackend, rfl, fun _ h => by cases h⟩

/-- An explicit transaction ended by `commit` is gone from the session either way, its handle
consumed, so that nothing rolls it back afterwards. A commit that succeeds publishes what the
transaction saw; one that fails is reported and leaves the connection's transaction open on the
contents committed before it, so the next unit of work on the backend cannot begin. -/
theorem explicit_commit_left_open_only_by_failure {κ : Type} (L : Transactional σ κ)
    (hs : SharedStore c s) {h : Handle} (ht : s.transaction = some h) {k t : κ}
    (hopen : L.view s.engine c = ⟨k, some t⟩) :
    let r := (Session.finishTransaction h .commit).exec s
    r.2.transaction = none ∧
      (r.1 = .ok () ∧ L.view r.2.engine c = ⟨t, none⟩ ∨
        ∃ f : Failure, r.1 = .error (f.toError.wrap executionContext) ∧
          L.view r.2.engine c = ⟨k, some t⟩ ∧ ∃ err, (Act.beginUnit.exec r.2).1 = .error err) := by
  dsimp only
  obtain ⟨b, hb, hc⟩ := hs.backend
  rw [hs.exec_finishTransaction ht .commit]
  refine ⟨rfl, ?_⟩
  rcases L.commit s.engine c k t hopen with ⟨hok, hv⟩ | ⟨⟨f, hf⟩, hv⟩
  · exact .inl ⟨by rw [hok]; rfl, hv⟩
  · -- the connection is no longer lent, but its transaction is still open
    exact .inr ⟨f, by rw [hf]; rfl, hv, L.beginUnit_busy hb hc rfl hv⟩

/-! ### Facade operations -/

theorem getResults (hs : SharedStore c s) (select : Select) (t : RowType) :
    SharedStore c ((Act.getResults select t).exec s).2 :=
  hs.document_inScope fun _ h => of_instrument <| get_bind fun _ =>
    of_bind (of_result _) fun q => of_bind (of_queryRows h q) (of_decodeRows t)

theorem getSingleResult (hs : SharedStore c s) (select : Select) (t : RowType) :
    SharedStore c ((Act.getSingleResult select t).exec s).2 := by
  refine hs.document_inScope fun _ h => of_instrument <| get_bind fun _ =>
    of_bind (of_result _) fun q => of_bind (of_queryRows h q) fun rows => ?_
  dsimp only
  -- several rows are refused before any is decoded
  split
  · exact of_throw_bind _ _
  · split
    · exact of_map _ (of_result _)
    · exact of_pure _

theorem getTotalNumResults (hs : SharedStore c s) (select : Select) :
    SharedStore c ((Act.getTotalNumResults select).exec s).2 :=
  hs.document_inScope fun _ h => of_instrument (of_countRows h select)

theorem getPagedResults (hs : SharedStore c s) (select : Select) (pageNum pageSize : Nat)
    (withTotal : Bool) (t : RowType) :
    SharedStore c ((Act.getPagedResults select pageNum pageSize withTotal t).exec s).2 := by
  refine hs.document_inScope fun _ h => of_instrument <| of_bind (of_result _) fun ⟨_, _⟩ =>
    get_bind fun _ => of_bind (of_result _) fun q => of_bind (of_queryRows h q) fun rows =>
      of_bind (of_decodeRows t rows) fun items => ?_
  split
  · exact of_pure _
  · -- the total is counted on the same connection; a negative one is refused
    refine of_bind (of_countRows h select) fun total => ?_
    dsimp only
    split
    · exact of_throw_bind _ _
    · exact of_pure _

theorem executeWrite (hs : SharedStore c s) (statement : Statement) :
    SharedStore c ((Act.executeWrite statement).exec s).2 :=
  hs.document_inScope fun doc h =>
    of_runsWrites fun compiler => writeWork_runsWrites compiler statement doc h

theorem executeBatchWrite (hs : SharedStore c s) (statements : List Statement) :
    SharedStore c ((Act.executeBatchWrite statements).exec s).2 :=
  hs.inScope fun h => of_runsWrites fun compiler => batchWork_runsWrites compiler statements h

/-! ### Requests -/

theorem request (hs : SharedStore c s) (r : Request) :
    SharedStore c ((Session.request r).run.run s).2 := by
  -- a library action leaves the session as the action does; the others only read it
  cases r with
  | sql text =>
    rw [Session.request, Session.run_lib, exec_map]
    exact hs.rawSql text
  | begin =>
    rw [Session.request, Session.run_lib, exec_seqRight_pure]
    exact hs.beginTransaction
  | commit =>
    rw [Session.request, Session.run_get_bind]
    cases ht : s.transaction with
    | none => exact hs
    | some h =>
      simp only
      rw [Session.run_lib, exec_seqRight_pure]
      exact hs.finishTransaction ht .commit
  | rollback =>
    rw [Session.request, Session.run_get_bind]
    cases ht : s.transaction with
    | none => exact hs
    | some h =>
      simp only
      rw [Session.run_lib, exec_seqRight_pure]
      exact hs.finishTransaction ht .rollback
  | transactionDialect =>
    rw [Session.request, Session.run_get_bind]
    dsimp only
    split <;> exact hs
  | write st =>
    rw [Session.request, Session.run_lib, exec_map]
    exact hs.executeWrite st
  | batch sts =>
    rw [Session.request, Session.run_lib, exec_map]
    exact hs.executeBatchWrite sts
  | count select =>
    rw [Session.request, Session.run_lib, exec_map]
    exact hs.getTotalNumResults select
  | results select t =>
    rw [Session.request, Session.run_lib, exec_map]
    exact hs.getResults select t
  | single select t =>
    rw [Session.request, Session.run_lib, exec_map]
    exact hs.getSingleResult select t
  | page select n size withTotal t =>
    rw [Session.request, Session.run_lib, exec_map]
    exact hs.getPagedResults select n size withTotal t

/-- Every step keeps the invariant: a step starts from the session with its log emptied. -/
theorem step (hs : SharedStore c s) (r : Request) : SharedStore c (s.step r).2 := by
  have hs₀ : SharedStore c { s with logs := #[] } := hs.of_units rfl
  rw [Session.step_eq]
  exact hs₀.request r

/-- Every run of requests keeps the invariant. -/
theorem afterAll (hs : SharedStore c s) (rs : List Request) : SharedStore c (s.afterAll rs) := by
  -- induction on the run, the invariant carried from each step to the next
  induction rs generalizing s with
  | nil => exact hs
  | cons r rs ih => exact ih (hs.step r)

/-! ### While the connection is lent -/

/-- Raw SQL while its connection is lent is refused before it runs. -/
theorem rawSql_lent (hb : s.sqlBackend.store = some c) (hheld : s.held.contains c = true)
    (text : String) :
    (Session.rawSql text).exec s =
      (.error (.validation "a unit of work is already open on this backend; pass it as tx"), s) := by
  rw [Session.rawSql, exec_get_bind, exec_bind_error (exec_connect_held hb hheld)]

/-- A second `begin` is refused before it asks for the connection. -/
theorem beginTransaction_open (ht : s.transaction.isSome = true) :
    (Session.beginTransaction).exec s =
      (.error (.validation "a unit of work is already open on this backend; pass it as tx"), s) := by
  rw [Session.beginTransaction, exec_get_bind]
  simp only [ht, if_true]
  rfl

/-- While the transaction is open, a raw SQL step is refused and logs nothing. -/
theorem step_sql_lent (hs : SharedStore c s) {h : Handle} (ht : s.transaction = some h)
    (text : String) :
    s.step (.sql text) =
      ((.error (.library (.validation "a unit of work is already open on this backend; pass it as tx")),
          []), { s with logs := #[] }) := by
  have hheld : s.held.contains c = true := by rw [hs.held_of_some ht]; simp
  rw [Session.step_eq, Session.request, Session.run_lib, exec_map,
    rawSql_lent (s := { s with logs := #[] }) hs.sqlBackend hheld]
  rfl

/-- While the transaction is open, a `begin` step is refused and logs nothing. -/
theorem step_begin_open {h : Handle} (ht : s.transaction = some h) :
    s.step .begin =
      ((.error (.library (.validation "a unit of work is already open on this backend; pass it as tx")),
          []), { s with logs := #[] }) := by
  have hopen : ({ s with logs := #[] } : Session σ).transaction.isSome = true := by
    show s.transaction.isSome = true
    rw [ht]
    rfl
  rw [Session.step_eq, Session.request, Session.run_lib, exec_seqRight_pure,
    beginTransaction_open hopen]
  rfl

/-- After a `commit` or a `rollback` no transaction is open, whether or not one was and whether
or not its command succeeded. -/
theorem transaction_after_finish (hs : SharedStore c s) {r : Request}
    (hr : r = .commit ∨ r = .rollback) : ((Session.request r).run.run s).2.transaction = none := by
  -- both requests take the open transaction, or fail for want of one
  rcases hr with rfl | rfl <;>
  · rw [Session.request, Session.run_get_bind]
    cases ht : s.transaction with
    | none => exact ht
    | some h =>
      simp only
      rw [Session.run_lib, exec_seqRight_pure, hs.exec_finishTransaction ht]

theorem step_transaction_after_finish (hs : SharedStore c s) {r : Request}
    (hr : r = .commit ∨ r = .rollback) : (s.step r).2.transaction = none := by
  have hs₀ : SharedStore c { s with logs := #[] } := hs.of_units rfl
  rw [Session.step_eq]
  exact hs₀.transaction_after_finish hr

end SharedStore

/-- On a session whose facade and raw SQL share the store connection `c` of an in-memory
backend, after any run of requests the connection is lent to at most one unit of work: it is
lent exactly while the session's transaction is open, to that transaction. While it is lent,
asking a backend on it for a connection is refused with a validation failure that changes
nothing, and so are a raw SQL step and a second `begin`. While it is not, the connection is lent
at once; and after a `commit` or a `rollback` it is not. -/
theorem store_lent_to_one_unit [Executor σ] {c : Nat} {b : Backend} (hb : b.store = some c)
    {s : Session σ} (hs : SharedStore c s) (rs : List Request) :
    let s' := s.afterAll rs
    (s'.held = if s'.transaction.isSome then [c] else []) ∧
      (∀ h, s'.transaction = some h →
        h = ⟨c, false⟩ ∧
          (Act.connect b).exec s' =
            (.error (.validation "a unit of work is already open on this backend; pass it as tx"), s') ∧
          (∀ text, s'.step (.sql text) =
            ((.error (.library
                (.validation "a unit of work is already open on this backend; pass it as tx")), []),
              { s' with logs := #[] })) ∧
          s'.step .begin =
            ((.error (.library
                (.validation "a unit of work is already open on this backend; pass it as tx")), []),
              { s' with logs := #[] })) ∧
      (s'.transaction = none → (Act.connect b).exec s' = (.ok ⟨c, false⟩, { s' with held := [c] })) ∧
      (s'.step .commit).2.transaction = none ∧ (s'.step .rollback).2.transaction = none := by
  intro s'
  have hs' : SharedStore c s' := hs.afterAll rs
  refine ⟨hs'.held, fun h ht => ⟨hs'.borrowed h ht, ?_, hs'.step_sql_lent ht, SharedStore.step_begin_open ht⟩,
    fun ht => ?_, hs'.step_transaction_after_finish (.inl rfl),
    hs'.step_transaction_after_finish (.inr rfl)⟩
  · have hheld : s'.held.contains c = true := by rw [hs'.held_of_some ht]; simp
    exact Act.exec_connect_held hb hheld
  · have hfree : s'.held.contains c = false := by rw [hs'.held_of_none ht]; rfl
    rw [Act.exec_connect_free hb hfree, hs'.held_of_none ht]

/-- The idle session on a small executor shares connection `0` between its facade and raw SQL. -/
theorem Tally.idle_sharedStore : SharedStore 0 Tally.idle :=
  ⟨⟨_, rfl, rfl⟩, rfl, rfl, fun _ h => by cases h⟩

theorem idle_store_lent_after_begin :
    (⟨"", some 0⟩ : Backend).store = some 0 ∧ SharedStore 0 Tally.idle ∧
      let s' := Tally.idle.afterAll [.begin]
      (s'.held = if s'.transaction.isSome then [0] else []) ∧
        (∀ h, s'.transaction = some h →
          h = ⟨0, false⟩ ∧
            (Act.connect ⟨"", some 0⟩).exec s' =
              (.error (.validation "a unit of work is already open on this backend; pass it as tx"),
                s') ∧
            (∀ text, s'.step (.sql text) =
              ((.error (.library
                  (.validation "a unit of work is already open on this backend; pass it as tx")), []),
                { s' with logs := #[] })) ∧
            s'.step .begin =
              ((.error (.library
                  (.validation "a unit of work is already open on this backend; pass it as tx")), []),
                { s' with logs := #[] })) ∧
        (s'.transaction = none →
          (Act.connect ⟨"", some 0⟩).exec s' = (.ok ⟨0, false⟩, { s' with held := [0] })) ∧
        (s'.step .commit).2.transaction = none ∧ (s'.step .rollback).2.transaction = none :=
  ⟨rfl, Tally.idle_sharedStore, store_lent_to_one_unit rfl Tally.idle_sharedStore [.begin]⟩

/-- An explicit transaction holding a row over the executor's limit, ended by `commit`. -/
theorem tally_explicit_commit_refused :
    let s := Tally.idle.afterAll [.begin, .write Tally.insertRow]
    let r := (Session.finishTransaction ⟨0, false⟩ .commit).exec s
    s.transaction = some ⟨0, false⟩ ∧ Tally.laws.view s.engine 0 = ⟨0, some 1⟩ ∧ r.2.transaction = none ∧
      (r.1 = .ok () ∧ Tally.laws.view r.2.engine 0 = ⟨1, none⟩ ∨
        ∃ f : Failure, r.1 = .error (f.toError.wrap executionContext) ∧
          Tally.laws.view r.2.engine 0 = ⟨0, some 1⟩ ∧ ∃ err, (Act.beginUnit.exec r.2).1 = .error err) :=
  ⟨rfl, rfl, SharedStore.explicit_commit_left_open_only_by_failure Tally.laws (Tally.idle_sharedStore.afterAll _) rfl rfl⟩

end QueryDoc.Facade
