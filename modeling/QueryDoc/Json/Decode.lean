import QueryDoc.Json.Basic
import QueryDoc.Json.Writer
import QueryDoc.Text.Debug

/-!
Decoding JSON values into typed values, with the failure texts a document's author sees.

A record decodes from an object or from an array. From an object, members are taken in
document order: the first member with a known key whose value does not decode decides the
failure; unknown keys are skipped; a required field that is absent is reported after that, in
declaration order. From an array, the items fill the fields in declaration order; a missing
item takes the field's default or is a length failure, and surplus items are a length failure.

A closed set of names (an enumeration) decodes from a string, or from an object with a single
key whose value is `null`. A choice with a payload decodes from an object with a single key
naming the choice.
-/

namespace QueryDoc.Json

/-- What a decoder found where it expected something else. -/
inductive Found where
  | null
  | bool (b : Bool)
  | int (i : Int)
  | float (f : Float)
  | str (s : String)
  | seq
  | map
  | unitVariant
  deriving Inhabited

/-- What a JSON value is, as far as failures tell. -/
def Found.of : Json → Found
  | .null => .null
  | .bool b => .bool b
  | .int i => .int i
  | .float f => .float f
  | .str s => .str s
  | .arr _ => .seq
  | .obj _ => .map

/-- How a failure describes what it found. -/
def Found.text : Found → String
  | .null => "null"
  | .bool b => "boolean `" ++ (if b then "true" else "false") ++ "`"
  | .int i => "integer `" ++ toString i ++ "`"
  | .float f => "floating point `" ++ Decimal.Style.pointed.format f ++ "`"
  | .str s => "string " ++ Text.debugQuote s
  | .seq => "sequence"
  | .map => "map"
  | .unitVariant => "unit variant"

/-- Why a JSON value did not decode. -/
inductive DecodeError where
  | invalidType (found : Found) (expected : String)
  | invalidValue (found : Found) (expected : String)
  | invalidLength (len : Nat) (expected : String)
  | unknownVariant (name : String) (expected : List String)
  | missingField (name : String)
  | noVariantMatched (typeName : String)
  | tooDeep
  deriving Inhabited

/-- Names in backticks: one, two joined by `or`, or a list after `one of`. -/
def expectedNames : List String → String
  | [] => "there are no variants"
  | [a] => "expected `" ++ a ++ "`"
  | [a, b] => "expected `" ++ a ++ "` or `" ++ b ++ "`"
  | names => "expected one of " ++ ", ".intercalate (names.map fun n => "`" ++ n ++ "`")

/-- The text of a decoding failure. -/
def DecodeError.message : DecodeError → String
  | .invalidType f e => "invalid type: " ++ f.text ++ ", expected " ++ e
  | .invalidValue f e => "invalid value: " ++ f.text ++ ", expected " ++ e
  | .invalidLength n e => "invalid length " ++ toString n ++ ", expected " ++ e
  | .unknownVariant v names => "unknown variant `" ++ v ++ "`, " ++ expectedNames names
  | .missingField n => "missing field `" ++ n ++ "`"
  | .noVariantMatched t => "data did not match any variant of untagged enum " ++ t
  | .tooDeep => "recursion limit exceeded"

/-- A decoder from JSON. -/
abbrev Decoder (α : Type) := Json → Except DecodeError α

/-- A string. -/
def decodeString : Decoder String
  | .str s => .ok s
  | j => .error (.invalidType (.of j) "a string")

/-- A boolean. -/
def decodeBool : Decoder Bool
  | .bool b => .ok b
  | j => .error (.invalidType (.of j) "a boolean")

/-- An array, each item decoded in order. -/
def decodeList {α : Type} (d : Decoder α) : Decoder (List α)
  | .arr xs => xs.mapM d
  | j => .error (.invalidType (.of j) "a sequence")

/-- `null` for absent, anything else through `d`. -/
def decodeOption {α : Type} (d : Decoder α) : Decoder (Option α)
  | .null => .ok none
  | j => (d j).map some

/-- Splits an object with a single key into that key and its value. -/
def singleKey (j : Json) : Except DecodeError (String × Option Json) :=
  match j with
  | .str s => .ok (s, none)
  | .obj [(k, v)] => .ok (k, some v)
  | .obj _ => .error (.invalidValue .map "map with a single key")
  | j => .error (.invalidType (.of j) "string or map")

/-- One of a closed set of names. -/
def decodeNamed {α : Type} (choices : List (String × α)) : Decoder α := fun j => do
  let (name, payload) ← singleKey j
  match choices.lookup name with
  | none => throw (.unknownVariant name (choices.map (·.1)))
  | some a =>
    match payload with
    | none | some .null => pure a
    | some other => throw (.invalidType (.of other) "unit")

/-- One of a closed set of choices, each carrying a value. -/
def decodeTagged {α : Type} (names : List String) (payload : String → Decoder α) : Decoder α :=
  fun j => do
    let (name, value) ← singleKey j
    if !names.contains name then throw (.unknownVariant name names)
    match value with
    | none => throw (.invalidType .unitVariant "newtype variant")
    | some v => payload name v

/-! ### Records -/

/-- The value of a member of an object. -/
def member? (ms : List (String × Json)) (key : String) : Option Json :=
  (ms.find? (·.1 == key)).map (·.2)

/-- The failure of an outcome, if it failed. -/
def failureOf {α : Type} : Option (Except DecodeError α) → Option DecodeError
  | some (.error e) => some e
  | _ => none

/-- The failure of the first member, in document order, whose value did not decode. -/
def firstFailure (ms : List (String × Json)) (outcomes : List (String × Option DecodeError)) :
    Except DecodeError Unit :=
  match ms.findSome? (fun kv => (outcomes.lookup kv.1).bind id) with
  | some e => .error e
  | none => .ok ()

/-- A required field: its decoded value, or a missing-field failure. -/
def required {α : Type} (name : String) : Option (Except DecodeError α) → Except DecodeError α
  | some r => r
  | none => .error (.missingField name)

/-- A field with a default. -/
def orDefault {α : Type} (dflt : α) : Option (Except DecodeError α) → Except DecodeError α
  | some r => r
  | none => .ok dflt

/-- The `i`-th item of an array form, required. -/
def itemRequired {α : Type} (xs : List Json) (i : Nat) (expecting : String) (d : Decoder α) :
    Except DecodeError α :=
  match xs[i]? with
  | some x => d x
  | none => .error (.invalidLength i expecting)

/-- The `i`-th item of an array form, or a default. -/
def itemOrDefault {α : Type} (xs : List Json) (i : Nat) (dflt : α) (d : Decoder α) :
    Except DecodeError α :=
  match xs[i]? with
  | some x => d x
  | none => .ok dflt

/-- An array form holds no more items than the record has fields. -/
def itemsEnd (xs : List Json) (n : Nat) : Except DecodeError Unit :=
  if xs.length > n then .error (.invalidLength xs.length "fewer elements in array") else .ok ()

/-- `struct Name with n elements`. -/
def recordExpecting (name : String) (n : Nat) : String :=
  "struct " ++ name ++ " with " ++ toString n ++ (if n == 1 then " element" else " elements")

end QueryDoc.Json
