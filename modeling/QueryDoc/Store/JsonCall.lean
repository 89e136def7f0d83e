import QueryDoc.Store.JsonPath
import QueryDoc.Store.Builtin
import QueryDoc.Store.Failure

/-!
The JSON functions on evaluated arguments.

A function reads its JSON argument from a text, or from a byte string in the binary form; a
byte string that is not in that form is read as text too. Null gives null. The values it puts
into JSON are taken as they are: a number as written, a text as a string, null as null, a
byte string in the binary form as its JSON; a text that is itself a JSON function's result,
which the function marks as JSON, is taken as the JSON it holds. The functions whose name
starts with `jsonb` give the binary form where the others give text.

Each function gives its value and whether that value is marked as JSON, which only lasts
while it is the argument of another function.
-/

namespace QueryDoc.Store

namespace JsonCall

/-- The failure of a malformed JSON argument. -/
def malformed : Failure := Failure.general "malformed JSON"

/-- The failure of a bad path, quoted as a literal. -/
def badPath (p : String) : Failure :=
  Failure.general ("bad JSON path: '" ++ String.ofList (p.toList.flatMap fun c => if c == '\'' then ['\'', '\''] else [c]) ++ "'")

/-- The text of a path argument up to its first NUL. -/
def pathText (d : Datum) : String := String.ofList (d.toText.toList.takeWhile (· != '\x00'))

/-- Reads JSON text from bytes; empty or malformed text fails. -/
def readText (bytes : List UInt8) : Outcome JsonNode :=
  if bytes.isEmpty then throw malformed
  else
    match JsonNode.readBytes (ByteArray.mk bytes.toArray) with
    | .ok (v, _) => pure v
    | .error _ => throw malformed

/-- The JSON an argument holds; none for null. -/
def input (d : Datum) : Outcome (Option JsonNode) :=
  match d with
  | .null => pure none
  | .blob bs =>
    if JsonBinary.looksBinary bs then
      match JsonBinary.decode bs with
      | some v => pure (some v)
      | none => throw malformed
    else some <$> readText bs
  | other => some <$> readText other.asTextBytes

/-- A value put into JSON by a change; `isJson` when it is marked as JSON. -/
def valueArg (d : Datum) (isJson : Bool) : Outcome JsonNode :=
  match d with
  | .null => pure .null
  | .integer n => pure (.integer (toString n) false)
  | .real x =>
    if x.isInf then pure (.real (if x > 0.0 then "9e999" else "-9e999") false)
    else pure (.real (realText x) false)
  | .blob bs =>
    if JsonBinary.looksBinary bs then
      match JsonBinary.decode bs with
      | some v => pure v
      | none => throw malformed
    else throw (Failure.general "JSON cannot hold BLOB values")
  | .text s => if isJson then readText (textBytes s) else pure (.string ⟨.raw, s⟩)
  | .rawText bs => if isJson then readText bs else pure (.string ⟨.raw, bytesText bs⟩)

/-- The JSON text of a value put into an array or object that is built as text: a real
written with 15 digits, a text quoted unless it is marked as JSON, when it goes in as it is. -/
def piece (d : Datum) (isJson : Bool) : Outcome String :=
  match d with
  | .null => pure "null"
  | .integer n => pure (toString n)
  | .real x => pure ((printfText "%!0.15g" [.real x]).getD "")
  | .text s => pure (if isJson then s else JsonNode.quote s)
  | .rawText bs => pure (if isJson then bytesText bs else JsonNode.quote (bytesText bs))
  | .blob bs =>
    if JsonBinary.looksBinary bs then
      match JsonBinary.decode bs with
      | some v => pure v.render
      | none => throw malformed
    else throw (Failure.general "JSON cannot hold BLOB values")

/-- A result built as JSON text: the text marked as JSON, or read into the binary form. -/
def textResult (binary : Bool) (text : String) : Outcome (Datum × Bool) :=
  if binary then do
    let v ← readText (textBytes text)
    pure (.blob (JsonBinary.encode v), false)
  else pure (.text text, true)

/-- A result that is a whole JSON value: its text marked as JSON, or its binary form. -/
def nodeResult (binary : Bool) (v : JsonNode) : Datum × Bool :=
  if binary then (.blob (JsonBinary.encode v), false) else (.text v.render, true)

/-- The number of characters before a byte position of a text, counting up to a NUL, plus
one: where `json_error_position` puts a fault. -/
def charPosition (bytes : List UInt8) (pos : Nat) : Nat :=
  ((bytes.take pos).takeWhile (· != 0)).foldl (fun n b => if b.toNat / 64 == 2 then n else n + 1) 0 + 1

/-- The position of the first fault in an argument read as JSON, or 0. -/
def faultPosition (d : Datum) : Nat :=
  let ofText (bytes : List UInt8) : Nat :=
    match JsonNode.readBytes (ByteArray.mk bytes.toArray) with
    | .ok _ => 0
    | .error e => charPosition bytes e
  match d with
  | .blob bs => if JsonBinary.looksBinary bs then JsonBinary.check bs else ofText bs
  | other => ofText other.asTextBytes

/-- Whether an argument is JSON by the flags of `json_valid`: 1 for plain JSON text, 2 for
JSON5 text, 4 for a byte string whose header looks like the binary form, 8 for one that is
wholly well formed. -/
def validUnder (flags : Nat) (d : Datum) : Bool :=
  let ofText (bytes : List UInt8) : Bool :=
    flags % 4 != 0 && !bytes.isEmpty &&
      match JsonNode.readBytes (ByteArray.mk bytes.toArray) with
      | .ok (_, loose) => (flags / 2) % 2 == 1 || !loose
      | .error _ => false
  match d with
  | .blob bs =>
    if JsonBinary.looksBinary bs then
      (flags / 4) % 2 == 1 || ((flags / 8) % 2 == 1 && JsonBinary.check bs == 0)
    else ofText bs
  | other => ofText other.asTextBytes

/-- The JSON functions that give the binary form, with the function they otherwise are. -/
def plainOf (f : Builtin) : Builtin × Bool :=
  match f with
  | .jsonb => (.json, true)
  | .jsonbArray => (.jsonArray, true)
  | .jsonbExtract => (.jsonExtract, true)
  | .jsonbInsert => (.jsonInsert, true)
  | .jsonbObject => (.jsonObject, true)
  | .jsonbPatch => (.jsonPatch, true)
  | .jsonbRemove => (.jsonRemove, true)
  | .jsonbReplace => (.jsonReplace, true)
  | .jsonbSet => (.jsonSet, true)
  | other => (other, false)

/-- The path after its `$`, or none when it does not start with one. -/
def rootPath (p : String) : Option (List Char) :=
  match p.toList with
  | '$' :: rest => some rest
  | _ => none

/-- Makes the changes of `json_set`, `json_insert` or `json_replace` for each pair of a path
and a value; a null path is passed over. -/
def edits (mode : JsonPath.EditMode) (v : JsonNode) : List ((Datum × Bool) × (Datum × Bool)) → Outcome JsonNode
  | [] => pure v
  | ((p, _), (x, isJson)) :: rest => do
    if p.isNull then edits mode v rest
    else
      let path := pathText p
      match rootPath path with
      | none => throw (badPath path)
      | some steps =>
        let nv ← valueArg x isJson
        if steps.isEmpty then edits mode (if mode == .insert then v else nv) rest
        else
          match JsonPath.edit (steps.length + 1) mode nv v steps with
          | .done (some w) => edits mode w rest
          | .done none | .missing => edits mode v rest
          | .badPath => throw (badPath path)

/-- Removes the value at each path; none when a path is null or the whole value. -/
def removals (v : JsonNode) : List Datum → Outcome (Option JsonNode)
  | [] => pure (some v)
  | p :: rest => do
    if p.isNull then pure none
    else
      let path := pathText p
      match rootPath path with
      | none => throw (badPath path)
      | some [] => pure none
      | some steps =>
        match JsonPath.edit (steps.length + 1) .remove .null v steps with
        | .done (some w) => removals w rest
        | .done none | .missing => removals v rest
        | .badPath => throw (badPath path)

/-- Pairs of arguments. -/
def pairsOf {α : Type} : List α → List (α × α)
  | a :: b :: rest => (a, b) :: pairsOf rest
  | _ => []

/-- What one path of `json_extract` or the `->` operators finds: the value, nothing, or none
when the path is null. -/
def extractOne (v : JsonNode) (abbreviated : Bool) (p : Datum) : Outcome (Option (Option JsonNode)) :=
  if p.isNull then pure none
  else
    let path := pathText p
    let steps := match rootPath path with
      | some rest => some rest
      | none => if abbreviated then some (JsonPath.ofLabel p) else none
    match steps with
    | none => throw (badPath path)
    | some steps =>
      match JsonPath.seek (steps.length + 1) v steps with
      | .found w => pure (some (some w))
      | .missing => pure (some none)
      | .badPath => throw (badPath path)

/-- What each path finds, in order; none as soon as a path is null. -/
def extractAll (v : JsonNode) (abbreviated : Bool) : List Datum → List (Option JsonNode) →
    Outcome (Option (List (Option JsonNode)))
  | [], acc => pure (some acc.reverse)
  | p :: ps, acc => do
    match ← extractOne v abbreviated p with
    | none => pure none
    | some r => extractAll v abbreviated ps (r :: acc)

/-- Whether a value is an array or an object. -/
def isContainer : JsonNode → Bool
  | .array _ | .object _ => true
  | _ => false

/-- A JSON function applied to evaluated arguments; `tags` says which arguments are marked as
JSON. Gives the value and whether it is marked as JSON. -/
def apply (f : Builtin) (args : List Datum) (tags : List Bool) : Outcome (Datum × Bool) := do
  let arg (i : Nat) : Datum := args[i]?.getD .null
  let tag (i : Nat) : Bool := tags[i]?.getD false
  let tagged := args.zipIdx.map fun (d, i) => (d, tag i)
  let (g, binary) := plainOf f
  let whole (v : JsonNode) : Datum × Bool := nodeResult binary v
  match g with
  | .json =>
    match ← input (arg 0) with
    | some v => pure (whole v)
    | none => pure (.null, false)
  | .jsonArray => do
    let pieces ← tagged.mapM fun (d, j) => piece d j
    textResult binary ("[" ++ ",".intercalate pieces ++ "]")
  | .jsonObject => do
    if args.length % 2 == 1 then throw (Failure.general "json_object() requires an even number of arguments")
    let members ← (pairsOf tagged).mapM fun ((k, _), (v, j)) => do
      let name ← match k with
        | .text s => pure s
        | .rawText bs => pure (bytesText bs)
        | _ => throw (Failure.general "json_object() labels must be TEXT")
      pure (JsonNode.quote name ++ ":" ++ (← piece v j))
    textResult binary ("\x7b" ++ ",".intercalate members ++ "\x7d")
  | .jsonQuote => pure (.text (← piece (arg 0) (tag 0)), true)
  | .jsonArrayLength =>
    match ← input (arg 0) with
    | none => pure (.null, false)
    | some v =>
      let count (w : JsonNode) : Datum := match w with
        | .array xs => .integer xs.length
        | _ => .integer 0
      if args.length == 2 then
        if (arg 1).isNull then pure (.null, false)
        else
          let path := pathText (arg 1)
          let steps := (rootPath path).getD ['@']
          match JsonPath.seek (steps.length + 1) v steps with
          | .found w => pure (count w, false)
          | .missing => pure (.null, false)
          | .badPath => throw (badPath path)
      else pure (count v, false)
  | .jsonErrorPosition =>
    if (arg 0).isNull then pure (.null, false) else pure (.integer (faultPosition (arg 0)), false)
  | .jsonValid => do
    let flags ← if args.length == 2 then do
        let n := (arg 1).toInteger
        if n < 1 || n > 15 then throw (Failure.general "FLAGS parameter to json_valid() must be between 1 and 15")
        pure n.toNat
      else pure 1
    if (arg 0).isNull then pure (.null, false)
    else pure (.integer (if validUnder flags (arg 0) then 1 else 0), false)
  | .jsonType =>
    match ← input (arg 0) with
    | none => pure (.null, false)
    | some v =>
      if args.length == 2 then
        if (arg 1).isNull then pure (.null, false)
        else
          let path := pathText (arg 1)
          match rootPath path with
          | none => throw (badPath path)
          | some steps =>
            match JsonPath.seek (steps.length + 1) v steps with
            | .found w => pure (.text w.typeName, false)
            | .missing => pure (.null, false)
            | .badPath => throw (badPath path)
      else pure (.text v.typeName, false)
  | .jsonExtract | .jsonArrow | .jsonArrowText =>
    if args.length < 2 then pure (.null, false)
    else
      match ← input (arg 0) with
      | none => pure (.null, false)
      | some v =>
        match ← extractAll v (g != .jsonExtract) (args.drop 1) [] with
        | none => pure (.null, false)
        | some [r] =>
          match r with
          | none => pure (.null, false)
          | some w =>
            if g == .jsonArrow then pure (.text w.render, true)
            else
              match w.toDatum binary with
              | some d => pure (d, g == .jsonExtract && !binary && isContainer w)
              | none => throw malformed
        | some rs =>
          textResult binary ("[" ++ ",".intercalate (rs.map fun r => (r.map JsonNode.render).getD "null") ++ "]")
  | .jsonSet | .jsonInsert | .jsonReplace =>
    if args.isEmpty then pure (.null, false)
    else if args.length % 2 == 0 then
      let name := if g == .jsonReplace then "replace" else if g == .jsonSet then "set" else "insert"
      throw (Failure.general ("json_" ++ name ++ "() needs an odd number of arguments"))
    else
      match ← input (arg 0) with
      | none => pure (.null, false)
      | some v =>
        let mode := if g == .jsonSet then JsonPath.EditMode.set else if g == .jsonInsert then .insert else .replace
        pure (whole (← edits mode v (pairsOf (tagged.drop 1))))
  | .jsonRemove =>
    if args.isEmpty then pure (.null, false)
    else
      match ← input (arg 0) with
      | none => pure (.null, false)
      | some v =>
        match ← removals v (args.drop 1) with
        | some w => pure (whole w)
        | none => pure (.null, false)
  | .jsonPatch =>
    match ← input (arg 0) with
    | none => pure (.null, false)
    | some t =>
      match ← input (arg 1) with
      | none => pure (.null, false)
      | some p => pure (whole (JsonNode.mergePatch 1000 t p))
  | .jsonPretty =>
    match ← input (arg 0) with
    | none => pure (.null, false)
    | some v =>
      let unit := if args.length == 2 then ((arg 1).toText?.getD "    ") else "    "
      pure (.text (v.pretty unit 0), false)
  | _ => pure (.null, false)

/-- Whether a function's result is always marked as JSON. -/
def marksResult (f : Builtin) : Bool :=
  match f with
  | .json | .jsonArray | .jsonObject | .jsonQuote | .jsonSet | .jsonInsert | .jsonReplace
  | .jsonRemove | .jsonPatch | .jsonArrow => true
  | _ => false

/-- `json_group_array` over the values of a group, each with whether it is marked as JSON. -/
def groupArray (binary : Bool) (values : List (Datum × Bool)) : Outcome Datum := do
  let pieces ← values.mapM fun (d, j) => piece d j
  return (← textResult binary ("[" ++ ",".intercalate pieces ++ "]")).1

/-- `json_group_object` over the names and values of a group; a null name leaves the name out
of its member. -/
def groupObject (binary : Bool) (members : List (Datum × Datum × Bool)) : Outcome Datum := do
  let pieces ← members.mapM fun (k, v, j) => do
    let name := match k.toText? with
      | some s => JsonNode.quote (String.ofList (s.toList.takeWhile (· != '\x00')))
      | none => ""
    pure (name ++ ":" ++ (← piece v j))
  return (← textResult binary ("\x7b" ++ ",".intercalate pieces ++ "\x7d")).1

end JsonCall

end QueryDoc.Store
