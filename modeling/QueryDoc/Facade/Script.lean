import QueryDoc.Facade.Session

/-!
Session scripts: steps written as JSON objects, run in order on one session, each answered
by a JSON object.

A step names what it does in `do`: `sql` runs the raw SQL in `sql`; `begin`, `commit` and
`rollback` open and end the session's transaction, and `txDialect` names its dialect; `write`
runs the statement document in `statement` and `batch` the documents in `statements`; `count`,
`results`, `single` and `page` read the select document in `select`. Reads may name the type
rows are mapped onto in `as`; a page takes `pageNum` and `pageSize`, and may ask for the
total with `withTotal` and for its accessors with `summary`. A step that cannot be read fails
on its own, and the script goes on.
-/

namespace QueryDoc.Facade

namespace Script

/-- A required member. -/
def member (step : Json) (key : String) : Except StepFailure Json :=
  match step.get? key with
  | some v => .ok v
  | none => .error (.malformed ("missing field " ++ key))

/-- A required string member. -/
def text (step : Json) (key : String) : Except StepFailure String := do
  match ← member step key with
  | .str s => pure s
  | _ => throw (.malformed ("field " ++ key ++ " must be a string"))

/-- A required 64-bit unsigned member. -/
def count (step : Json) (key : String) : Except StepFailure Nat := do
  match ← member step key with
  | .int i =>
    if 0 ≤ i ∧ i < Int.pow 2 64 then pure i.toNat
    else throw (.malformed ("field " ++ key ++ " must be a non-negative integer"))
  | _ => throw (.malformed ("field " ++ key ++ " must be a non-negative integer"))

/-- An optional boolean member; anything but a boolean counts as absent. -/
def flag (step : Json) (key : String) : Bool :=
  match step.get? key with
  | some (.bool b) => b
  | _ => false

/-- A statement document member. -/
def statement (step : Json) (key : String) : Except StepFailure Statement := do
  (Statement.decode (← member step key)).mapError .library

/-- A select document member. -/
def select (step : Json) (key : String) : Except StepFailure Select := do
  match ← statement step key with
  | .select s => pure s
  | s => throw (.notSelect s.type)

/-- The row type a step asks for; rows by default. -/
def rowType (step : Json) : Except StepFailure RowType :=
  match step.get? "as" with
  | none | some .null => .ok .row
  | some (.str n) =>
    match RowType.byName.find? (·.1 == n) with
    | some (_, t) => .ok t
    | none => .error (.malformed ("unknown row type " ++ n))
  | some _ => .ok .row

end Script

/-- Reads one step. -/
def Request.decode (step : Json) : Except StepFailure Request := do
  let kind ← Script.text step "do"
  if kind == "sql" then pure (.sql (← Script.text step "sql"))
  else if kind == "begin" then pure .begin
  else if kind == "commit" then pure .commit
  else if kind == "rollback" then pure .rollback
  else if kind == "txDialect" then pure .transactionDialect
  else if kind == "write" then pure (.write (← Script.statement step "statement"))
  else if kind == "batch" then
    match ← Script.member step "statements" with
    | .arr docs => pure (.batch (← docs.mapM fun d => (Statement.decode d).mapError .library))
    | _ => throw (.malformed "statements must be an array")
  else if kind == "count" then pure (.count (← Script.select step "select"))
  else if kind == "results" then do
    let s ← Script.select step "select"
    pure (.results s (← Script.rowType step))
  else if kind == "single" then do
    let s ← Script.select step "select"
    pure (.single s (← Script.rowType step))
  else if kind == "page" then do
    let s ← Script.select step "select"
    let n ← Script.count step "pageNum"
    let size ← Script.count step "pageSize"
    pure (.page s n size (Script.flag step "withTotal") (← Script.rowType step))
  else throw (.malformed ("unknown step " ++ kind))

/-- A page as a document: its number, size and rows, then its totals when it has them. -/
def pageJson (p : Page Json) : Json :=
  .obj ([("pageNum", .int p.pageNum), ("pageSize", .int p.pageSize), ("pagedList", .arr p.items)] ++
    match p.totals with
    | some (t, pages) => [("totalResults", .int t), ("totalPages", .int pages)]
    | none => [])

/-- What a page's accessors give: the lengths of its rows, read and taken, and its totals. -/
def pageSummaryJson (p : Page Json) : Json :=
  .obj [("listLen", .int p.items.length),
    ("totalResults", match p.totals with | some (t, _) => .int t | none => .null),
    ("totalPages", match p.totals with | some (_, n) => .int n | none => .null),
    ("intoLen", .int p.items.length)]

/-- A step's answer; `summary` adds a page's accessors. -/
def Reply.toJson (summary : Bool) : Reply → Json
  | .affected n => .obj [("affected", .int n)]
  | .affectedEach ns => .obj [("affected", .arr (ns.map fun (n : Nat) => Json.int n))]
  | .ok => .obj [("ok", .bool true)]
  | .dialect n => .obj [("dialect", .str n)]
  | .count n => .obj [("count", .int n)]
  | .rows rs => .obj [("rows", .arr rs)]
  | .single r => .obj [("found", .bool r.isSome), ("row", r.getD .null)]
  | .page p => .obj ([("page", pageJson p)] ++ if summary then [("summary", pageSummaryJson p)] else [])

/-- An error as an answer: its kind, its message, and its first two causes when it has any. -/
def errorAnswer (kind message : String) (causes : List String) : Json :=
  .obj ([("error", .str kind), ("message", .str message)] ++
    if causes.isEmpty then [] else [("causes", Json.strs (causes.take 2))])

/-- A library error as an answer. -/
def libraryAnswer (e : Error) : Json :=
  errorAnswer (if e.isValidation then "Validation" else "Execution") e.message e.causes

/-- A failed step as an answer. -/
def StepFailure.toJson : StepFailure → Json
  | .library e => libraryAnswer e
  | .noTransaction => errorAnswer "NoTransaction" "no open transaction" []
  | .malformed m => errorAnswer "BadRequest" m []
  | .notSelect t => errorAnswer "NotSelect" ("expected a select document, got " ++ t.tag) []

/-- A step's answer, with the lines it logged when `logging` is set. -/
def stepAnswer (logging : Bool) (outcome : Except StepFailure Json) (lines : List String) : Json :=
  let j := match outcome with
    | .ok j => j
    | .error f => f.toJson
  match logging, j with
  | true, .obj fs => .obj (fs ++ [("logs", Json.strs lines)])
  | _, _ => j

/-- Runs the steps of a script in order, answering each; `logging` adds each step's log
lines to its answer. -/
def Session.runScript {σ : Type} [Executor σ] (logging : Bool) (s : Session σ) :
    List Json → List Json
  | [] => []
  | step :: rest =>
    match Request.decode step with
    | .error f => stepAnswer logging (.error f) [] :: s.runScript logging rest
    | .ok r =>
      let ((outcome, lines), s') := s.step r
      stepAnswer logging (outcome.map (Reply.toJson (Script.flag step "summary"))) lines ::
        s'.runScript logging rest

end QueryDoc.Facade
