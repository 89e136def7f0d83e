import QueryDoc.Store.JsonBinary

/-!
Paths into JSON values, the changes made at them, and the values JSON gives the statement
language.

A path starts with `$` and descends by `.name`, `."name"`, `[N]`, `[#]` or `[#-N]`, where `#`
is the length of the array. It is read step by step while it is followed, so a step that
finds nothing ends the walk before the rest of the path is looked at: only a step that is
reached can be a bad one. A name in quotes may hold escapes, and is then compared with the
names of an object by the characters both stand for.

A change follows the path the same way. Setting or inserting at a missing name of an object
adds the member, and at the place just past the end of an array adds an element; when the
path goes on from there, the new value is put inside empty objects and arrays that the rest of
the path names.
-/

namespace QueryDoc.Store

/-- What following a path finds. -/
inductive Seek where
  | found (v : JsonNode)
  | missing
  | badPath
  deriving Inhabited

/-- Where an index step points in an array. -/
inductive Place where
  /-- The element at a position, or the place past the end, and the rest of the path. -/
  | at (k : Nat) (rest : List Char)
  /-- Before the start of the array. -/
  | before
  /-- Not an index step. -/
  | bad

namespace JsonPath

/-- The value of decimal digits, kept to 32 bits. -/
def digitsValue (ds : List Char) : Nat :=
  ds.foldl (fun a c => (a * 10 + (c.toNat - 48)) % 4294967296) 0

/-- Reads a member step after its dot: the name, whether it is free of escapes, and the rest
of the path; none for a bad step. A name in quotes ends at the next quote; one without ends
at a dot or a bracket and is not empty. -/
def keyStep (p : List Char) : Option (List Char × Bool × List Char) :=
  match p with
  | '"' :: rest =>
    let key := rest.takeWhile (· != '"')
    match rest.drop key.length with
    | _ :: after => some (key, !key.contains '\\', after)
    | [] => none
  | _ =>
    let key := p.takeWhile fun c => c != '.' && c != '['
    if key.isEmpty then none else some (key, true, p.drop key.length)

/-- Reads an index step after its bracket, for an array of `count` elements. -/
def indexStep (p : List Char) (count : Nat) : Place :=
  let ds := p.takeWhile Char.isDigit
  match ds, p.drop ds.length with
  | _ :: _, ']' :: rest => .at (digitsValue ds) rest
  | _, _ =>
    match p with
    | '#' :: '-' :: d :: more =>
      if d.isDigit then
        let ns := (d :: more).takeWhile Char.isDigit
        let back := digitsValue ns
        if back > count then .before
        else
          match (d :: more).drop ns.length with
          | ']' :: rest => .at (count - back) rest
          | _ => .bad
      else .bad
    | '#' :: ']' :: rest => .at count rest
    | _ => .bad

/-- Whether a member's name is the name of a step. -/
def nameMatches (key : List Char) (rawKey : Bool) (label : JsonString) : Bool :=
  JsonString.same ⟨if rawKey then .plain else .escaped, String.ofList key⟩ label

/-- Follows a path, given after its `$`. -/
def seek : Nat → JsonNode → List Char → Seek
  | 0, _, _ => .missing
  | _, v, [] => .found v
  | fuel + 1, v, '.' :: p =>
    match keyStep p with
    | none => .badPath
    | some (key, rawKey, rest) =>
      match v with
      | .object ms =>
        match ms.find? (fun (l, _) => nameMatches key rawKey l) with
        | some (_, w) => seek fuel w rest
        | none => .missing
      | _ => .missing
  | fuel + 1, v, '[' :: p =>
    match v with
    | .array xs =>
      match indexStep p xs.length with
      | .at k rest =>
        match xs[k]? with
        | some w => seek fuel w rest
        | none => .missing
      | .before => .missing
      | .bad => .badPath
    | _ => .missing
  | _ + 1, _, _ :: _ => .badPath

/-- How a change treats the place a path names. -/
inductive EditMode where
  | remove
  | insert
  | replace
  | set
  deriving BEq, DecidableEq, Inhabited

/-- What a change did: the value in place of the one changed (none when it is removed), or
why it did nothing. -/
inductive Edited where
  | done (v : Option JsonNode)
  | missing
  | badPath
  deriving Inhabited

/-- Whether a change adds what is missing. -/
def EditMode.adds (m : EditMode) : Bool := m == .insert || m == .set

/-- Makes a change at a path, given after its `$`, in a value. -/
def edit : Nat → EditMode → JsonNode → JsonNode → List Char → Edited
  | 0, _, _, _, _ => .missing
  | _, mode, new, v, [] =>
    match mode with
    | .remove => .done none
    | .insert => .done (some v)
    | _ => .done (some new)
  | fuel + 1, mode, new, v, '.' :: p =>
    match keyStep p with
    | none => .badPath
    | some (key, rawKey, rest) =>
      match v with
      | .object ms =>
        match ms.findIdx? (fun (l, _) => nameMatches key rawKey l) with
        | some i =>
          match ms[i]? with
          | some (l, w) =>
            match edit fuel mode new w rest with
            | .done (some w') => .done (some (.object (ms.set i (l, w'))))
            | .done none => .done (some (.object (ms.eraseIdx i)))
            | other => other
          | none => .missing
        | none =>
          if mode.adds then
            let grown := match rest with
              | [] => Edited.done (some new)
              | c :: _ => edit fuel mode new (if c == '.' then .object [] else .array []) rest
            match grown with
            | .done (some w) =>
              .done (some (.object (ms ++ [(⟨if rawKey then .raw else .loose, String.ofList key⟩, w)])))
            | .done none => .missing
            | other => other
          else .missing
      | _ => .missing
  | fuel + 1, mode, new, v, '[' :: p =>
    match v with
    | .array xs =>
      match indexStep p xs.length with
      | .at k rest =>
        match xs[k]? with
        | some w =>
          match edit fuel mode new w rest with
          | .done (some w') => .done (some (.array (xs.set k w')))
          | .done none => .done (some (.array (xs.eraseIdx k)))
          | other => other
        | none =>
          if k == xs.length && mode.adds then
            let grown := match rest with
              | [] => Edited.done (some new)
              | c :: _ => edit fuel mode new (if c == '.' then .object [] else .array []) rest
            match grown with
            | .done (some w) => .done (some (.array (xs ++ [w])))
            | .done none => .missing
            | other => other
          else .missing
      | .before => .missing
      | .bad => .badPath
    | _ => .missing
  | _ + 1, _, _, _, _ :: _ => .badPath

/-- The path the `->` operators follow for a label that does not start with `$`: an integer
is an array index, letters, digits and underscores a member name, a text in brackets an
index, anything else a quoted member name. Given without its `$`. -/
def ofLabel (d : Datum) : List Char :=
  match d with
  | .integer n => ('[' :: (toString n).toList) ++ [']']
  | other =>
    let s := other.toText.toList
    if s.all (fun c => c.isAlphanum || c == '_') then '.' :: s
    else if s.head? == some '[' && s.length ≥ 3 && s.getLast? == some ']' then s
    else ['.', '"'] ++ s ++ ['"']

end JsonPath

namespace JsonNode

/-- Merges a patch into a value as RFC 7396 describes: members of an object patch replace or,
when null, remove the members of the same name; an object patch member that is missing is
added with its nulls left out; any other patch replaces the value. -/
def mergePatch : Nat → JsonNode → JsonNode → JsonNode
  | 0, _, p => p
  | fuel + 1, target, .object ps =>
    let base := match target with
      | .object ms => ms
      | _ => []
    let step (ms : List (JsonString × JsonNode)) (kv : JsonString × JsonNode) : List (JsonString × JsonNode) :=
      let (k, pv) := kv
      match ms.findIdx? (fun (l, _) => JsonString.same k l) with
      | some i =>
        match pv with
        | .null => ms.eraseIdx i
        | _ => ms.modify i fun (l, x) => (l, mergePatch fuel x pv)
      | none =>
        match pv with
        | .null => ms
        | .object _ => ms ++ [(k, mergePatch fuel .null pv)]
        | _ => ms ++ [(k, pv)]
    .object (ps.foldl step base)
  | _ + 1, _, p => p

/-- The value of a 64-bit pattern as a signed integer. -/
def signed64 (u : Nat) : Int :=
  let u := u % 18446744073709551616
  if u ≥ 9223372036854775808 then (u : Int) - 18446744073709551616 else u

/-- The value of a real number's text; none when the text is not a number. -/
def realValue (t : String) : Option Datum :=
  if t == "9e999" then some (.real (1.0 / 0.0))
  else if t == "-9e999" then some (.real (-1.0 / 0.0))
  else
    let scan := scanNumber t
    match scan.form with
    | .whole _ => some (Datum.ofReal scan.value)
    | _ => none

/-- The value of an integer's text: a decimal one that fits 64 bits, its least value when
negative and one past the greatest, else a real; a hexadecimal one of at most 16 digits as
the signed value of its 64-bit pattern, negated when signed. None when the text is not a
number. -/
def integerValue (t : String) : Option Datum :=
  let (negative, body) := match t.toList with
    | '-' :: r => (true, r)
    | r => (false, r)
  match body with
  | '0' :: x :: digits =>
    if x == 'x' || x == 'X' then
      let significant := digits.dropWhile (· == '0')
      let hexes := significant.takeWhile fun c => JsonRead.isHexDigit c.toNat.toUInt8
      if hexes.length > 16 then realValue t
      else if hexes.length < significant.length then none
      else
        let u := hexes.foldl (fun (a : Nat) c => a * 16 + JsonRead.hexValue c.toNat.toUInt8) 0
        let v := signed64 u
        some (.integer (if negative then signed64 (18446744073709551616 - u) else v))
    else decimal negative body
  | _ => decimal negative body
where
  /-- A decimal integer's digits. -/
  decimal (negative : Bool) (body : List Char) : Option Datum :=
    if body.isEmpty || !body.all Char.isDigit then none
    else
      let n := body.foldl (fun (a : Nat) c => a * 10 + (c.toNat - 48)) 0
      if n ≤ 9223372036854775807 then some (.integer (if negative then -(n : Int) else n))
      else if negative && n == 9223372036854775808 then some (.integer minInteger)
      else realValue t

/-- The value a JSON value has in the statement language: null, 1 or 0, a number, the text a
string stands for, or an array or an object as JSON text, or in the binary form when
`binary`. None when a number's text is not one. -/
def toDatum (binary : Bool) : JsonNode → Option Datum
  | .null => some .null
  | .bool b => some (.integer (if b then 1 else 0))
  | .integer t _ => integerValue t
  | .real t _ => realValue t
  | .string s => if s.isRaw then some (.text s.body) else some (Datum.ofTextBytes s.unescapedBytes)
  | v => if binary then some (.blob (JsonBinary.encode v)) else some (.text v.render)

end JsonNode

end QueryDoc.Store
