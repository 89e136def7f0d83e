import QueryDoc.Error

/-!
Why the database refused or abandoned a statement.

Every failure carries a result code, and the code has a number and a fixed description. A
failure found while reading the statement text may also point at the byte where the fault
lies; its text then names the statement and that offset. A statement meant to change data
that produced rows instead is a failure of the caller, with no code at all.

As a library error, a database failure is an execution error whose first cause is its own
text and whose second cause is the code's description.
-/

namespace QueryDoc.Store

/-- The result codes a statement can end with. -/
inductive ResultCode where
  | error
  | locked
  | lockedSharedCache
  | constraintNotNull
  | constraintPrimaryKey
  | constraintUnique
  | constraintCheck
  | constraintForeignKey
  | constraintTrigger
  | constraintDatatype
  | constraintRowid
  | constraint
  | outOfMemory
  | readonly
  | full
  | missingCollation
  | abort
  | mismatch
  | range
  | tooBig
  | misuse
  deriving Repr, BEq, DecidableEq, Inhabited

namespace ResultCode

/-- The code's number, with the extended part where there is one. -/
def number : ResultCode → Nat
  | .error => 1
  | .locked => 6
  | .lockedSharedCache => 262
  | .constraintNotNull => 1299
  | .constraintPrimaryKey => 1555
  | .constraintUnique => 2067
  | .constraintCheck => 275
  | .constraintForeignKey => 787
  | .constraintTrigger => 1811
  | .constraintDatatype => 3091
  | .constraintRowid => 2579
  | .constraint => 19
  | .outOfMemory => 7
  | .readonly => 8
  | .full => 13
  | .missingCollation => 257
  | .abort => 4
  | .mismatch => 20
  | .range => 25
  | .tooBig => 18
  | .misuse => 21

/-- The code's fixed description. -/
def description : ResultCode → String
  | .error => "SQL error or missing database"
  | .locked => "A table in the database is locked"
  | .lockedSharedCache => "Locking conflict due to another connection with a shared cache"
  | .constraintNotNull => "A NOT NULL constraint failed"
  | .constraintPrimaryKey => "A PRIMARY KEY constraint failed"
  | .constraintUnique => "A UNIQUE constraint failed"
  | .constraintCheck => "A CHECK constraint failed"
  | .constraintForeignKey => "Foreign key constraint failed"
  | .constraintTrigger => "A RAISE function within a trigger fired"
  | .constraintDatatype => "SQLITE_CONSTRAINT_DATATYPE"
  | .constraintRowid => "A non-unique rowid occurred"
  | .constraint => "Abort due to constraint violation"
  | .outOfMemory => "A malloc() failed"
  | .readonly => "Attempt to write a readonly database"
  | .full => "Insertion failed because database is full"
  | .missingCollation => "SQLITE_ERROR_MISSING_COLLSEQ"
  | .abort => "Callback routine requested an abort"
  | .mismatch => "Data type mismatch"
  | .range => "2nd parameter to sqlite3_bind out of range"
  | .tooBig => "String or BLOB exceeds size limit"
  | .misuse => "Library used incorrectly"

/-- The line naming the code: `Error code <number>: <description>`. -/
def text (c : ResultCode) : String :=
  "Error code " ++ toString c.number ++ ": " ++ c.description

end ResultCode

/-- What `raise` does: skip the rest of the trigger's row, or fail in one of the ways a
conflict can. -/
inductive RaiseAction where
  | ignore
  | rollback
  | abort
  | fail
  deriving Repr, BEq, DecidableEq, Inhabited

/-- A failure of the database. -/
inductive Failure where
  /-- A failure with a code and a message. -/
  | coded (code : ResultCode) (message : String)
  /-- A fault in the statement text at a byte offset. -/
  | located (message : String) (sql : String) (offset : Nat)
  /-- A statement run for its changes produced rows. -/
  | returnedRows
  /-- The values given for a statement's parameters did not match how many it has. -/
  | parameterCount (given needed : Nat)
  /-- `raise(…)` in a trigger: what it does, and its text. -/
  | raised (action : RaiseAction) (message : String)
  deriving Repr, BEq, Inhabited

namespace Failure

/-- A failure with the generic error code. -/
def general (message : String) : Failure := .coded .error message

/-- The failure's text. -/
def display : Failure → String
  | .coded _ m => m
  | .located m sql o => m ++ " in " ++ sql ++ " at offset " ++ toString o
  | .returnedRows => "Execute returned results - did you mean to call query?"
  | .parameterCount g n =>
    "Wrong number of parameters passed to query. Got " ++ toString g ++ ", needed " ++ toString n
  | .raised _ m => m

/-- The code's line, when the failure has a code. -/
def codeText : Failure → Option String
  | .coded c _ => some c.text
  | .located _ _ _ => some ResultCode.error.text
  | .raised _ _ => some ResultCode.constraintTrigger.text
  | .returnedRows | .parameterCount _ _ => none

/-- The failure as a library error: its text, then the code's line. -/
def toError (f : Failure) : Error :=
  .execution f.display (f.display :: f.codeText.toList)

end Failure

/-- An outcome of the database. -/
abbrev Outcome (α : Type) := Except Failure α

end QueryDoc.Store
