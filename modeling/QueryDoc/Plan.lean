import QueryDoc.Error
import QueryDoc.Sql.Syntax

/-!
Execution plans: compiled statements as named steps with dependencies, and the context a
plan carries for logs.

Steps are ordered by repeated passes over the plan in its own order. A pass takes every step
not yet taken whose dependencies are all taken, a step taken earlier in the same pass
included. A pass that takes nothing means some step can never run: a dependency on a missing
or repeated id, or a cycle.
-/

namespace QueryDoc

open Sql

/-- One statement of a plan. -/
structure Step where
  id : String
  stmt : Stmt
  description : String
  dependsOn : List String

/-- A step with no dependencies. -/
def Step.new (id : String) (stmt : Stmt) (description : String) : Step := ⟨id, stmt, description, []⟩

/-- The same step depending on one more step. -/
def Step.after (s : Step) (id : String) : Step := { s with dependsOn := s.dependsOn ++ [id] }

/-- The same step depending on several more steps. -/
def Step.afterAll (s : Step) (ids : List String) : Step := { s with dependsOn := s.dependsOn ++ ids }

/-- What a plan tells its logs: the document, the operation and tags. -/
structure Telemetry where
  document : Option String
  operation : Option String
  tags : List (String × String)

/-- No document, no operation, no tags. -/
def Telemetry.empty : Telemetry := ⟨none, none, []⟩

/-- Steps and their context. -/
structure Plan where
  steps : List Step
  telemetry : Telemetry

namespace Plan

/-- A plan of one step named `main`. -/
def single (stmt : Stmt) (description : String) : Plan := ⟨[Step.new "main" stmt description], .empty⟩

/-- A plan of the given steps. -/
def multi (steps : List Step) : Plan := ⟨steps, .empty⟩

/-- The steps `write-i` of a chain, each after the one before it. -/
def chainSteps : Nat → List Stmt → List Step
  | _, [] => []
  | i, s :: ss =>
    let step := Step.new ("write-" ++ toString i) s (s.kind ++ " #" ++ toString i)
    (if i = 0 then step else step.after ("write-" ++ toString (i - 1))) :: chainSteps (i + 1) ss

/-- Statements run one after another, in the given order. -/
def chained (stmts : List Stmt) : Plan := multi (chainSteps 0 stmts)

/-- The same plan for an operation and document. -/
def withContext (p : Plan) (operation : String) (document : Option String) : Plan :=
  { p with telemetry := { p.telemetry with operation := some operation, document := document } }

/-- The same plan with other context. -/
def withTelemetry (p : Plan) (t : Telemetry) : Plan := { p with telemetry := t }

/-- The same plan with one more tag. -/
def withTag (p : Plan) (key value : String) : Plan :=
  { p with telemetry := { p.telemetry with tags := p.telemetry.tags ++ [(key, value)] } }

/-- Whether the plan has exactly one step. -/
def isSingleStep (p : Plan) : Bool := p.steps.length == 1

/-- The number of steps. -/
def stepCount (p : Plan) : Nat := p.steps.length

/-- The only step, or else the step named `main`. -/
def mainStep (p : Plan) : Option Step :=
  match p.steps with
  | [s] => some s
  | ss => ss.find? (·.id == "main")

/-- The first step with the given id. -/
def getStep (p : Plan) (id : String) : Option Step := p.steps.find? (·.id == id)

end Plan

/-- One pass: takes, in order, each step not yet taken whose dependencies are all taken. -/
def orderPass (done : List String) (taken : List Step) : List Step → List String × List Step
  | [] => (done, taken)
  | s :: rest =>
    if done.contains s.id then orderPass done taken rest
    else if s.dependsOn.all done.contains then orderPass (done ++ [s.id]) (taken ++ [s]) rest
    else orderPass done taken rest

/-- Passes until every step is taken, failing on a pass that takes nothing. -/
def orderPasses (steps : List Step) : Nat → List String → List Step → Result (List Step)
  | 0, _, _ => invalid "execution plan has unsatisfiable step dependencies"
  | fuel + 1, done, taken =>
    if steps.length ≤ taken.length then .ok taken
    else
      let (done', taken') := orderPass done taken steps
      if taken'.length == taken.length then
        invalid "execution plan has unsatisfiable step dependencies"
      else orderPasses steps fuel done' taken'

/-- The steps in an order that runs each after its dependencies. Each pass but the last takes
at least one step, so `length + 1` passes suffice. -/
def Plan.stepsInOrder (p : Plan) : Result (List Step) :=
  orderPasses p.steps (p.steps.length + 1) [] []

end QueryDoc
