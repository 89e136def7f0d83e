import QueryDoc.Store.JsonCall

/-!
The rows of `json_each` and `json_tree`.

Both walk JSON in the binary form, from the root or from the value a path names. `json_each`
gives one row per element or member of the value (or one row for a value that is not a
container); `json_tree` gives a row for the value and for everything inside it, depth first.
A row's `id` is where its element starts in the binary form (for a member, where its name
starts), `parent` the `id` of the container it is in (for `json_tree` only), `fullkey` the
path to it and `path` the path to its container; `key` is the index or the name of a member,
and `value`, `type` and `atom` describe the element itself. Two hidden columns, `json` and
`root`, give the arguments back.
-/

namespace QueryDoc.Store

namespace JsonTable

open JsonString (byteOf)

/-- The names of the columns, the last two hidden. -/
def columnNames : List String :=
  ["key", "value", "type", "atom", "id", "parent", "fullkey", "path", "json", "root"]

/-- The type code of the value at a position. -/
def codeAt (z : Array UInt8) (i : Nat) : Nat := byteOf z i % 16

/-- The header length and payload size of the value at a position, zero when it is not well
formed. -/
def sizeAt (z : Array UInt8) (i : Nat) : Nat × Nat := (JsonBinary.headerAt z z.size i).getD (0, 0)

/-- The position after the value at a position. -/
def endAt (z : Array UInt8) (i : Nat) : Nat :=
  let (n, sz) := sizeAt z i
  if n == 0 then z.size else i + n + sz

/-- The name at a position, a string of the binary form. -/
def nameAt (z : Array UInt8) (i : Nat) : JsonString :=
  let (n, sz) := sizeAt z i
  ⟨(JsonBinary.codeForm (codeAt z i)).getD .plain, JsonBinary.payloadText z (i + n) (i + n + sz)⟩

/-- The number of elements of the array whose payload runs from `j` to `stop`. -/
def countItems (z : Array UInt8) (stop : Nat) : Nat → Nat → Nat → Nat
  | 0, _, acc => acc
  | fuel + 1, j, acc => if j ≥ stop then acc else countItems z stop fuel (endAt z j) (acc + 1)

/-- The position of the `k`-th element of the array whose payload runs from `j` to `stop`. -/
def itemAt (z : Array UInt8) (stop : Nat) : Nat → Nat → Nat → Option Nat
  | 0, _, _ => none
  | fuel + 1, j, k => if j ≥ stop then none else if k == 0 then some j else itemAt z stop fuel (endAt z j) (k - 1)

/-- The position of the name of the member of a name, in the object whose payload runs from
`j` to `stop`. -/
def memberAt (z : Array UInt8) (stop : Nat) (key : List Char) (rawKey : Bool) : Nat → Nat → Option Nat
  | 0, _ => none
  | fuel + 1, j =>
    if j ≥ stop then none
    else if JsonPath.nameMatches key rawKey (nameAt z j) then some j
    else memberAt z stop key rawKey fuel (endAt z (endAt z j))

/-- What following a path finds in the binary form: where the value is and where its name is
(0 for a value that is not a member). -/
inductive Found where
  | at (value label : Nat)
  | missing
  | badPath

/-- Follows a path, given after its `$`, from the value at `i`. -/
def seekAt (z : Array UInt8) : Nat → Nat → Nat → List Char → Found
  | 0, _, _, _ => .missing
  | _, i, label, [] => .at i label
  | fuel + 1, i, _, '.' :: p =>
    match JsonPath.keyStep p with
    | none => .badPath
    | some (key, rawKey, rest) =>
      if codeAt z i != 12 then .missing
      else
        let (n, sz) := sizeAt z i
        match memberAt z (i + n + sz) key rawKey (z.size + 1) (i + n) with
        | some j => seekAt z fuel (endAt z j) j rest
        | none => .missing
  | fuel + 1, i, _, '[' :: p =>
    if codeAt z i != 11 then .missing
    else
      let (n, sz) := sizeAt z i
      let stop := i + n + sz
      match JsonPath.indexStep p (countItems z stop (z.size + 1) (i + n) 0) with
      | .at k rest =>
        match itemAt z stop (z.size + 1) (i + n) k with
        | some j => seekAt z fuel j 0 rest
        | none => .missing
      | .before => .missing
      | .bad => .badPath
  | _ + 1, _, _, _ :: _ => .badPath

/-- A container the walk is inside. -/
structure Parent where
  /-- Where the container's own row is: its name, for a member. -/
  head : Nat
  /-- Where the container's value is. -/
  value : Nat
  /-- Where its payload ends. -/
  stop : Nat
  /-- The index of the current element, for an array. -/
  key : Int
  /-- The length of the path when the container was entered. -/
  pathLength : Nat

/-- Where a walk stands. -/
structure Walk where
  z : Array UInt8
  /-- The current element: its name, for a member. -/
  i : Nat
  /-- Where the walk ends. -/
  stop : Nat
  /-- The type code of the container of the current element, 0 at the top. -/
  kind : Nat
  /-- The containers the walk is inside, innermost first. -/
  parents : List Parent
  path : Array UInt8
  rowid : Nat
  /-- The length of the root path. -/
  rootLength : Nat
  recursive : Bool

/-- Where the value of the current element is, after its name for a member. -/
def Walk.valueAt (w : Walk) : Nat := if w.kind == 12 then endAt w.z w.i else w.i

/-- The path with the name of the current element added: its index in brackets, or its name
after a dot, in quotes unless it is a letter followed by letters and digits. -/
def Walk.named (w : Walk) : Array UInt8 :=
  if w.kind == 11 then
    w.path ++ (textBytes ("[" ++ toString ((w.parents.head?.map (·.key)).getD 0) ++ "]")).toArray
  else
    let (n, sz) := sizeAt w.z w.i
    let name := w.z.extract (w.i + n) (w.i + n + sz)
    let isLetter (b : Nat) : Bool := (65 ≤ b && b ≤ 90) || (97 ≤ b && b ≤ 122)
    let plain := sz > 0 && isLetter (byteOf name 0) && name.toList.all fun b => isLetter b.toNat || (48 ≤ b.toNat && b.toNat ≤ 57)
    if plain then w.path ++ #[46] ++ name else w.path ++ #[46, 34] ++ name ++ #[34]

/-- The length of the path of the current element's container. For the first row of
`json_tree` under a root path, the root path is cut back to the last step whose value's
payload starts where the walk starts, or to `$`. -/
def Walk.pathLength (w : Walk) : Nat :=
  let n := w.path.size
  if w.rowid == 0 && w.recursive && n ≥ 2 then
    let rec back : Nat → Nat → Nat
      | 0, k => k
      | fuel + 1, k =>
        if k ≤ 1 then k
        else
          let k := k - 1
          let c := byteOf w.path k
          if c == 91 || c == 46 then
            let steps := (bytesText (w.path.extract 1 k).toList).toList
            match seekAt w.z (steps.length + 1) 0 0 steps with
            | .at x _ => if x + (sizeAt w.z x).1 == w.i then k else back fuel k
            | _ => back fuel k
          else back fuel k
    back (n + 1) n
  else n

/-- The integer the digits at the start of some bytes stand for. -/
def leadingInteger (bytes : List UInt8) : Int :=
  let (negative, rest) := match bytes with
    | 45 :: r => (true, r)
    | 43 :: r => (false, r)
    | r => (false, r)
  let digits := rest.takeWhile fun b => 48 ≤ b && b ≤ 57
  let v : Int := digits.foldl (fun (a : Int) b => a * 10 + (b.toNat - 48 : Nat)) 0
  if negative then -v else v

/-- The value at a position in the statement language, arrays and objects as JSON text. -/
def valueDatum (z : Array UInt8) (i : Nat) : Outcome Datum :=
  match JsonBinary.decodeAt (z.size + 1) z z.size i with
  | some (v, _) =>
    match v.toDatum false with
    | some d => pure d
    | none => throw JsonCall.malformed
  | none => throw JsonCall.malformed

/-- The type names by type code. -/
def typeNameOf (code : Nat) : String :=
  ["null", "true", "false", "integer", "integer", "real", "real", "text", "text", "text", "text",
   "array", "object"].getD code ""

/-- The row of the current element: the columns in order, then the row id. -/
def Walk.row (w : Walk) (input : Datum) : Outcome (Array Datum) := do
  let v := w.valueAt
  let code := codeAt w.z v
  let key ← match w.parents.head? with
    | none =>
      if w.rootLength == 1 then pure .null
      else
        let j := w.pathLength
        let n := w.rootLength - j
        if n == 0 then pure .null
        else if byteOf w.path j == 91 then pure (.integer (leadingInteger (w.path.extract (j + 1) (j + n)).toList))
        else if byteOf w.path (j + 1) == 34 then pure (Datum.ofTextBytes (w.path.extract (j + 2) (j + n - 1)).toList)
        else pure (Datum.ofTextBytes (w.path.extract (j + 1) (j + n)).toList)
    | some top => if w.kind == 12 then valueDatum w.z w.i else pure (.integer top.key)
  let value ← valueDatum w.z v
  let atom ← if code < 11 then valueDatum w.z v else pure .null
  let parent : Datum := match w.parents.head? with
    | some top => if w.recursive then .integer top.head else .null
    | none => .null
  let full := if w.parents.isEmpty then w.path else w.named
  let json : Datum := match input with
    | .blob bs => .blob bs
    | other => Datum.ofTextBytes (other.asTextBytes.takeWhile (· != 0))
  pure #[key, value, .text (typeNameOf code), atom, .integer w.i, parent,
    Datum.ofTextBytes full.toList, Datum.ofTextBytes (w.path.extract 0 w.pathLength).toList, json,
    Datum.ofTextBytes (w.path.extract 0 w.rootLength).toList, .integer w.rowid]

/-- The containers a walk leaves once it stands at or past their ends, with the path cut back
to where each was entered. -/
def leave : Nat → Nat → List Parent → Array UInt8 → List Parent × Array UInt8 × Bool
  | 0, _, ps, path => (ps, path, false)
  | _, _, [], path => ([], path, false)
  | fuel + 1, i, p :: ps, path =>
    if i ≥ p.stop then
      let (rest, path', _) := leave fuel i ps (path.extract 0 p.pathLength)
      (rest, path', true)
    else (p :: ps, path, false)

/-- The walk moved to the next element. -/
def Walk.next (w : Walk) : Walk :=
  let i := w.valueAt
  let (n, sz) := sizeAt w.z i
  let code := codeAt w.z i
  let moved : Walk :=
    if w.recursive then
      let (w1, entered) : Walk × Bool :=
        if code == 11 || code == 12 then
          let parent : Parent := ⟨w.i, i, i + n + sz, -1, w.path.size⟩
          let path := if w.kind != 0 && !w.parents.isEmpty then w.named else w.path
          ({ w with parents := parent :: w.parents, path := path, i := i + n }, true)
        else ({ w with i := i + n + sz }, false)
      let (ps, path, left) := leave (w1.parents.length + 1) w1.i w1.parents w1.path
      let w2 := { w1 with parents := ps, path := path }
      if entered || left then
        { w2 with kind := match ps.head? with
          | some top => codeAt w.z top.value
          | none => 0 }
      else w2
    else { w with i := i + n + sz }
  let bumped := if moved.kind == 11 then
      match moved.parents with
      | top :: rest => { moved with parents := { top with key := top.key + 1 } :: rest }
      | [] => moved
    else moved
  { bumped with rowid := bumped.rowid + 1 }

/-- The rows from where a walk stands to its end. -/
def Walk.rows (input : Datum) : Nat → Walk → List (Array Datum) → Outcome (List (Array Datum))
  | 0, _, acc => pure acc.reverse
  | fuel + 1, w, acc => do
    if w.i ≥ w.stop then pure acc.reverse
    else
      let r ← w.row input
      Walk.rows input fuel w.next (r :: acc)

/-- The rows of `json_each` (or `json_tree`, when `recursive`) for its arguments: the JSON and
the root path, if given. -/
def rows (recursive : Bool) (args : List Datum) : Outcome (List (Array Datum)) := do
  match args with
  | [] => pure []
  | input :: rest =>
    if input.isNull then pure []
    else
      let z ← match input with
        | .blob bs =>
          if JsonBinary.looksBinary bs then pure bs.toArray
          else do pure (JsonBinary.encode (← JsonCall.readText bs)).toArray
        | other => do pure (JsonBinary.encode (← JsonCall.readText other.asTextBytes)).toArray
      let start : Option (Nat × Nat × Array UInt8) ← match rest with
        | [] => pure (some (0, 0, #[36]))
        | root :: _ =>
          if root.isNull then pure none
          else
            let text := JsonCall.pathText root
            match JsonCall.rootPath text with
            | none => throw (JsonCall.badPath text)
            | some [] => pure (some (0, 0, (textBytes text).toArray))
            | some steps =>
              match seekAt z (steps.length + 1) 0 0 steps with
              | .at i label =>
                if label != 0 then pure (some (label, 12, (textBytes text).toArray))
                else pure (some (i, 11, (textBytes text).toArray))
              | .missing => pure none
              | .badPath => throw (JsonCall.badPath text)
      match start with
      | none => pure []
      | some (i0, kind, path) =>
        let base : Walk := ⟨z, i0, 0, kind, [], path, 0, path.size, recursive⟩
        let i := base.valueAt
        let (n, sz) := sizeAt z i
        let w : Walk := { base with stop := i + n + sz }
        let code := codeAt z i
        let w := if code ≥ 11 && !recursive then
            { w with i := i + n, kind := code, parents := [⟨i + n, i, i + n + sz, 0, 0⟩] }
          else w
        Walk.rows input (z.size + 2) w []

end JsonTable

end QueryDoc.Store
