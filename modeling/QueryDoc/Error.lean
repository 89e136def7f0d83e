/-!
Failures of the library.

A validation failure is a statement or request that cannot be carried out as given. An
execution failure happened while a statement ran; it keeps the texts of the failures it
rests on, outermost first.
-/

namespace QueryDoc

/-- Why an operation failed. -/
inductive Error where
  | validation (message : String)
  | execution (message : String) (causes : List String)
  deriving Repr, BEq, Inhabited

namespace Error

/-- The failure's own text. -/
def message : Error → String
  | .validation m => m
  | .execution m _ => m

/-- The text of a failure when it is itself a cause. -/
def display : Error → String
  | .validation m => "validation error: " ++ m
  | .execution m _ => "execution error: " ++ m

/-- What the failure rests on, outermost first. -/
def causes : Error → List String
  | .validation _ => []
  | .execution _ cs => cs

/-- Whether this is a validation failure. -/
def isValidation : Error → Bool
  | .validation _ => true
  | .execution _ _ => false

/-- Puts an execution failure under a new message, keeping it as the first cause; a
validation failure passes unchanged. -/
def wrap (context : String) : Error → Error
  | .validation m => .validation m
  | e@(.execution _ cs) => .execution context (e.display :: cs)

end Error

/-- An outcome that may fail with an `Error`. -/
abbrev Result (α : Type) := Except Error α

/-- Fails with a validation error. -/
def invalid {α : Type} (message : String) : Result α := .error (.validation message)

end QueryDoc
