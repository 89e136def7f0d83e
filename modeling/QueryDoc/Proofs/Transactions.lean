import QueryDoc.Proofs.ActRun

/-!
Transactions over a connection's contents.

The facade's promises about units of work rest on what the executor does with transactions,
which its interface does not say. `Transactional` says it: a connection holds committed
contents and, while a transaction is open, the contents it sees; a write applies to the latter
or fails and changes nothing; `begin` opens a transaction unless one is open; `commit`
publishes or fails and changes nothing, as a commit refused by a deferred constraint check
does; `rollback` drops. Writes run one after another in an open transaction leave it seeing the
writes up to the first that fails (`runWrites_spec`). `Tally` is a small executor with these
laws, over row counts.
-/

namespace QueryDoc.Facade

open Store Sql Compile

/-- What one connection holds: its committed contents, and the contents its open transaction
sees, when one is open. -/
structure Conn (κ : Type) where
  committed : κ
  pending : Option κ

/-- An executor whose connections are transactions over contents of type `κ`. `view` reads a
connection, and `apply` is what one write does to the contents a transaction sees: the
contents after it and the rows it changed, or nothing when it fails. A write fails or applies
as a whole, `begin` opens a transaction on the committed contents unless one is open, `commit`
publishes the open transaction's contents or fails and changes nothing, and `rollback`
drops them. -/
structure Transactional (σ κ : Type) [Executor σ] where
  view : σ → Nat → Conn κ
  apply : κ → String → List Datum → Option (κ × Nat)
  begin_idle : ∀ e c k, view e c = ⟨k, none⟩ →
    (Executor.control e c .begin).2 = .ok () ∧ view (Executor.control e c .begin).1 c = ⟨k, some k⟩
  begin_busy : ∀ e c k t, view e c = ⟨k, some t⟩ → ∃ f, (Executor.control e c .begin).2 = .error f
  commit : ∀ e c k t, view e c = ⟨k, some t⟩ →
    (Executor.control e c .commit).2 = .ok () ∧ view (Executor.control e c .commit).1 c = ⟨t, none⟩ ∨
      (∃ f, (Executor.control e c .commit).2 = .error f) ∧
        view (Executor.control e c .commit).1 c = ⟨k, some t⟩
  rollback : ∀ e c k t, view e c = ⟨k, some t⟩ →
    view (Executor.control e c .rollback).1 c = ⟨k, none⟩
  write_ok : ∀ e c k t sql params t' n, view e c = ⟨k, some t⟩ → apply t sql params = some (t', n) →
    (Executor.execute e c sql params).2 = .ok n ∧
      view (Executor.execute e c sql params).1 c = ⟨k, some t'⟩
  write_error : ∀ e c k t sql params, view e c = ⟨k, some t⟩ → apply t sql params = none →
    (∃ f, (Executor.execute e c sql params).2 = .error f) ∧
      view (Executor.execute e c sql params).1 c = ⟨k, some t⟩

namespace Transactional

variable {σ κ : Type} [Executor σ] (L : Transactional σ κ)

/-- Writes applied in order: the contents after all of them and the rows each changed, or
nothing when one fails. -/
def applyAll (t : κ) : List (String × List Datum) → Option (κ × List Nat)
  | [] => some (t, [])
  | w :: ws =>
    match L.apply t w.1 w.2 with
    | some (t', n) => (applyAll t' ws).map fun r => (r.1, n :: r.2)
    | none => none

/-- The contents after writes applied in order, up to the first that fails. -/
def applyUntil (t : κ) : List (String × List Datum) → κ
  | [] => t
  | w :: ws =>
    match L.apply t w.1 w.2 with
    | some (t', _) => applyUntil t' ws
    | none => t

/-- Each write that applies gives one count. -/
theorem length_of_applyAll {t t' : κ} {ns : List Nat} :
    ∀ {ws : List (String × List Datum)}, L.applyAll t ws = some (t', ns) → ns.length = ws.length
  | [], h => by simp only [applyAll, Option.some.injEq, Prod.mk.injEq] at h; simp [← h.2]
  | w :: ws, h => by
    rw [applyAll] at h
    split at h
    · obtain ⟨⟨t'', ns'⟩, hr, hns⟩ := Option.map_eq_some_iff.1 h
      simp only [Prod.mk.injEq] at hns
      simp [← hns.2, length_of_applyAll hr]
    · exact absurd h (by simp)

variable {e : σ} {c : Nat} {k t : κ}

/-- Writes run one after another in an open transaction: the transaction then sees the writes
applied up to the first that fails, and they all succeed exactly when all apply, each with the
count `apply` gives. -/
theorem runWrites_spec (ws : List (String × List Datum)) (h : L.view e c = ⟨k, some t⟩) :
    L.view (Executor.runWrites e c ws).1 c = ⟨k, some (L.applyUntil t ws)⟩ ∧
      L.applyAll t ws = (Executor.runWrites e c ws).2.toOption.map fun ns => (L.applyUntil t ws, ns) := by
  induction ws generalizing e t with
  | nil => exact ⟨h, rfl⟩
  | cons w ws ih =>
    rcases happ : L.apply t w.1 w.2 with _ | ⟨t', n⟩
    · -- the failing write changes nothing and stops the run
      obtain ⟨⟨f, hf⟩, hv⟩ := L.write_error e c k t w.1 w.2 h happ
      rcases hx : Executor.execute e c w.1 w.2 with ⟨e', r⟩
      rw [hx] at hf hv
      subst hf
      simp only [Executor.runWrites, applyAll, applyUntil, hx, happ]
      exact ⟨hv, rfl⟩
    · obtain ⟨hn, hv⟩ := L.write_ok e c k t w.1 w.2 t' n h happ
      rcases hx : Executor.execute e c w.1 w.2 with ⟨e', r⟩
      rw [hx] at hn hv
      subst hn
      obtain ⟨hview, hall⟩ := ih hv
      simp only [Executor.runWrites, applyAll, applyUntil, hx, happ, hall]
      refine ⟨hview, ?_⟩
      cases (Executor.runWrites e' c ws).2 <;> rfl

end Transactional

/-! ### A small executor -/

/-- A small executor: each connection holds a row count, committed and as its open transaction
sees it. A write in a transaction adds one row, and fails once the transaction holds
`capacity` rows; a commit fails while the transaction holds more than `commitLimit` rows, as a
deferred constraint check does. Outside a transaction a write fails. -/
structure Tally (capacity commitLimit : Nat) where
  conns : Nat → Conn Nat

namespace Tally

variable {capacity commitLimit : Nat}

/-- The executor with one connection changed. -/
def update (e : Tally capacity commitLimit) (c : Nat) (conn : Conn Nat) : Tally capacity commitLimit :=
  ⟨fun c' => if c' = c then conn else e.conns c'⟩

/-- One more row, while there is room. -/
def addRow (capacity t : Nat) : Option (Nat × Nat) :=
  if t < capacity then some (t + 1, 1) else none

/-- Runs a transaction command on a connection. -/
def control (e : Tally capacity commitLimit) (c : Nat) :
    TxCommand → Tally capacity commitLimit × Outcome Unit
  | .begin =>
    match (e.conns c).pending with
    | none => (e.update c ⟨(e.conns c).committed, some (e.conns c).committed⟩, .ok ())
    | some _ => (e, .error (.general "cannot start a transaction within a transaction"))
  | .commit =>
    match (e.conns c).pending with
    | some t =>
      if t ≤ commitLimit then (e.update c ⟨t, none⟩, .ok ())
      else (e, .error (.general "constraint failed"))
    | none => (e, .error (.general "cannot commit - no transaction is active"))
  | .rollback =>
    match (e.conns c).pending with
    | some _ => (e.update c ⟨(e.conns c).committed, none⟩, .ok ())
    | none => (e, .error (.general "cannot rollback - no transaction is active"))

/-- Runs a write on a connection. -/
def write (e : Tally capacity commitLimit) (c : Nat) : Tally capacity commitLimit × Outcome Nat :=
  match (e.conns c).pending with
  | some t =>
    match addRow capacity t with
    | some (t', n) => (e.update c ⟨(e.conns c).committed, some t'⟩, .ok n)
    | none => (e, .error (.general "row limit reached"))
  | none => (e, .error (.general "no transaction is active"))

instance : Executor (Tally capacity commitLimit) where
  connect e _ := (e, 0)
  close e _ := e
  control := control
  execute e c _ _ := e.write c
  query e _ _ _ := (e, .ok ([], #[]))

@[simp] theorem update_same (e : Tally capacity commitLimit) (c : Nat) (conn : Conn Nat) :
    (e.update c conn).conns c = conn := by
  simp [update]

/-- A small executor's connections are transactions over row counts. -/
def laws : Transactional (Tally capacity commitLimit) Nat where
  view e c := e.conns c
  apply t _ _ := addRow capacity t
  begin_idle := by
    intro e c k h
    simp [Executor.control, control, h]
  begin_busy := by
    intro e c k t h
    simp [Executor.control, control, h]
  commit := by
    intro e c k t h
    by_cases ht : t ≤ commitLimit <;> simp [Executor.control, control, h, ht]
  rollback := by
    intro e c k t h
    simp [Executor.control, control, h]
  write_ok := by
    intro e c k t sql params t' n h happ
    simp [Executor.execute, write, h, happ]
  write_error := by
    intro e c k t sql params h happ
    simp [Executor.execute, write, h, happ]

/-- Connections with no rows and no open transaction. -/
def empty : Tally capacity commitLimit := ⟨fun _ => ⟨0, none⟩⟩

/-- Connections with no rows and a transaction open on each. -/
def begun : Tally capacity commitLimit := ⟨fun _ => ⟨0, some 0⟩⟩

/-- A session on a small executor whose backend shares connection 0. -/
def session (e : Tally capacity commitLimit) (transaction : Option Handle) :
    Session (Tally capacity commitLimit) :=
  { engine := e, held := [], level := .off, compiler := ⟨.sqlite⟩, backend := some ⟨"", some 0⟩,
    sqlBackend := ⟨"", some 0⟩, transaction := transaction, logs := #[] }

/-- An insert of one row. -/
def insertRow : Statement := .insert ⟨⟨"t", none, false⟩, [⟨"id", .integer 1⟩], none⟩

/-- A session on an executor with room for one row that refuses to commit any, with no
transaction open. -/
def idle : Session (Tally 1 0) := session empty none

/-- The same executor with a transaction open on connection 0, which the session has joined. -/
def joined : Session (Tally 1 0) := session begun (some ⟨0, false⟩)

end Tally

end QueryDoc.Facade
