/-!
JSON values.

Numbers are kept the way a reader classifies them: an integer that fits in 64 bits (signed
when negative, unsigned otherwise) stays an integer, and every other number is a double.
An object keeps its keys in the order they were first inserted; inserting a key again
replaces its value in place.
-/

namespace QueryDoc

/-- A JSON value. `int` holds integers from `-2^63` to `2^64 - 1`. -/
inductive Json where
  | null
  | bool (b : Bool)
  | int (i : Int)
  | float (f : Float)
  | str (s : String)
  | arr (items : List Json)
  | obj (fields : List (String × Json))
  deriving Inhabited

namespace Json

/-- Sets `key` to `v`: an existing key keeps its place and takes the new value, a new key
goes last. -/
def setField (fields : List (String × Json)) (key : String) (v : Json) : List (String × Json) :=
  if fields.any (·.1 == key) then
    fields.map (fun kv => if kv.1 == key then (key, v) else kv)
  else
    fields ++ [(key, v)]

/-- The value under `key` of an object. -/
def get? (j : Json) (key : String) : Option Json :=
  match j with
  | .obj fields => (fields.find? (·.1 == key)).map (·.2)
  | _ => none

/-- Whether the value is `null`. -/
def isNull : Json → Bool
  | .null => true
  | _ => false

/-- A natural number as a JSON integer. -/
def ofNat (n : Nat) : Json := .int n

mutual
/-- How deeply containers nest in a value: 0 for a scalar. -/
def depth : Json → Nat
  | .arr items => itemsDepth items + 1
  | .obj fields => fieldsDepth fields + 1
  | _ => 0

/-- The deepest of some items. -/
def itemsDepth : List Json → Nat
  | [] => 0
  | j :: rest => max (depth j) (itemsDepth rest)

/-- The deepest of some member values. -/
def fieldsDepth : List (String × Json) → Nat
  | [] => 0
  | (_, j) :: rest => max (depth j) (fieldsDepth rest)
end

mutual
/-- A value as serde_json's value writer stores it: a double that is NaN or infinite has no
JSON number and is stored as `null`. -/
def storeFloats : Json → Json
  | .float f => if f.isNaN || f.isInf then .null else .float f
  | .arr items => .arr (storeItems items)
  | .obj fields => .obj (storeFields fields)
  | j => j

/-- Items as the value writer stores them. -/
def storeItems : List Json → List Json
  | [] => []
  | j :: rest => storeFloats j :: storeItems rest

/-- Member values as the value writer stores them. -/
def storeFields : List (String × Json) → List (String × Json)
  | [] => []
  | (k, j) :: rest => (k, storeFloats j) :: storeFields rest
end

/-- A list of strings as a JSON array. -/
def strs (xs : List String) : Json := .arr (xs.map .str)

/-- An optional string, `null` when absent. -/
def optStr : Option String → Json
  | some s => .str s
  | none => .null

end Json

end QueryDoc
