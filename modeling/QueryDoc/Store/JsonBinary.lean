import QueryDoc.Store.JsonText

/-!
The binary form of JSON that the `jsonb` functions give and every JSON function reads.

A value is a header and a payload. The low four bits of the header's first byte give the type:
0 null, 1 true, 2 false, 3 integer, 4 hexadecimal integer, 5 real, 6 real in a JSON5 form,
7 to 10 a string body with no escapes, with JSON ones, with JSON5 ones, or to be escaped, 11
an array and 12 an object. The high four bits give the payload size when it is at most 11;
12, 13, 14 and 15 say it follows in 1, 2, 4 or 8 bytes, most significant first. A number or
a string has its text as payload, an array its elements one after another, an object its
names and values in turn. Writing always takes the shortest header.

A byte string is taken for this form when its first header is well formed and covers it
exactly; what is inside is only looked at when it is read.
-/

namespace QueryDoc.Store

namespace JsonNode

end JsonNode

namespace JsonBinary

open JsonString (byteOf)

/-- The header of a value of a type code and payload size, as short as it can be. -/
def header (code size : Nat) : List UInt8 :=
  if size ≤ 11 then [UInt8.ofNat (code + size * 16)]
  else if size ≤ 0xff then [UInt8.ofNat (code + 0xc0), UInt8.ofNat size]
  else if size ≤ 0xffff then [UInt8.ofNat (code + 0xd0), UInt8.ofNat (size / 256), UInt8.ofNat size]
  else
    [UInt8.ofNat (code + 0xe0), UInt8.ofNat (size / 16777216), UInt8.ofNat (size / 65536),
     UInt8.ofNat (size / 256), UInt8.ofNat size]

/-- A value with a text payload. -/
def leaf (code : Nat) (text : String) : List UInt8 :=
  let bytes := textBytes text
  header code bytes.length ++ bytes

/-- The type code of a string form. -/
def formCode : TextForm → Nat
  | .plain => 7
  | .escaped => 8
  | .loose => 9
  | .raw => 10

mutual

/-- A value in the binary form. -/
def encode : JsonNode → List UInt8
  | .null => [0]
  | .bool true => [1]
  | .bool false => [2]
  | .integer t hex => leaf (if hex then 4 else 3) t
  | .real t loose => leaf (if loose then 6 else 5) t
  | .string s => leaf (formCode s.form) s.body
  | .array xs =>
    let body := encodeItems xs
    header 11 body.length ++ body
  | .object ms =>
    let body := encodeMembers ms
    header 12 body.length ++ body

/-- Elements one after another. -/
def encodeItems : List JsonNode → List UInt8
  | [] => []
  | x :: xs => encode x ++ encodeItems xs

/-- Names and values in turn. -/
def encodeMembers : List (JsonString × JsonNode) → List UInt8
  | [] => []
  | (k, v) :: ms => leaf (formCode k.form) k.body ++ encode v ++ encodeMembers ms

end

/-- The header at position `i` of bytes that end at `stop`: its length and the payload size,
when the header is well formed and the payload fits before the end. -/
def headerAt (z : Array UInt8) (stop i : Nat) : Option (Nat × Nat) :=
  if i ≥ stop then none
  else
    let x := byteOf z i / 16
    let found : Option (Nat × Nat) :=
      if x ≤ 11 then some (1, x)
      else if x == 12 then (if i + 1 ≥ stop then none else some (2, byteOf z (i + 1)))
      else if x == 13 then (if i + 2 ≥ stop then none else some (3, byteOf z (i + 1) * 256 + byteOf z (i + 2)))
      else if x == 14 then
        if i + 4 ≥ stop then none
        else some (5, ((byteOf z (i + 1) * 256 + byteOf z (i + 2)) * 256 + byteOf z (i + 3)) * 256 + byteOf z (i + 4))
      else
        if i + 8 ≥ stop || byteOf z (i + 1) != 0 || byteOf z (i + 2) != 0 || byteOf z (i + 3) != 0 || byteOf z (i + 4) != 0 then none
        else some (9, ((byteOf z (i + 5) * 256 + byteOf z (i + 6)) * 256 + byteOf z (i + 7)) * 256 + byteOf z (i + 8))
    match found with
    | some (n, sz) => if i + n + sz > stop then none else some (n, sz)
    | none => none

/-- Whether bytes may be JSON in the binary form: the first header is well formed with a known
type, covers the bytes exactly, and null, true and false have no payload. -/
def looksBinary (bytes : List UInt8) : Bool :=
  let z := bytes.toArray
  match z[0]? with
  | none => false
  | some b0 =>
    b0.toNat % 16 ≤ 12 &&
      match headerAt z z.size 0 with
      | some (n, sz) => n + sz == z.size && (b0.toNat % 16 > 2 || sz == 0)
      | none => false

/-- The text of the payload between two positions. -/
def payloadText (z : Array UInt8) (i j : Nat) : String := bytesText (z.extract i j).toList

/-- The string form of a type code, for the codes of strings. -/
def codeForm (code : Nat) : Option TextForm :=
  match code with
  | 7 => some .plain
  | 8 => some .escaped
  | 9 => some .loose
  | 10 => some .raw
  | _ => none

mutual

/-- Reads the value at position `i` of bytes that end at `stop`, with the position after it;
none when it is not well formed. -/
def decodeAt : Nat → Array UInt8 → Nat → Nat → Option (JsonNode × Nat)
  | 0, _, _, _ => none
  | fuel + 1, z, stop, i => do
    let (n, sz) ← headerAt z stop i
    let code := byteOf z i % 16
    let start := i + n
    let next := start + sz
    match code with
    | 0 => some (.null, next)
    | 1 => some (.bool true, next)
    | 2 => some (.bool false, next)
    | 3 => some (.integer (payloadText z start next) false, next)
    | 4 => some (.integer (payloadText z start next) true, next)
    | 5 => some (.real (payloadText z start next) false, next)
    | 6 => some (.real (payloadText z start next) true, next)
    | 11 => do
      let xs ← decodeItems fuel z next start
      some (.array xs, next)
    | 12 => do
      let ms ← decodeMembers fuel z next start []
      some (.object ms, next)
    | c => do
      let form ← codeForm c
      some (.string ⟨form, payloadText z start next⟩, next)

/-- Reads the elements of an array from `i` up to `stop`. -/
def decodeItems : Nat → Array UInt8 → Nat → Nat → Option (List JsonNode)
  | 0, _, _, _ => none
  | fuel + 1, z, stop, i =>
    if i ≥ stop then some []
    else do
      let (v, next) ← decodeAt fuel z stop i
      let rest ← decodeItems fuel z stop next
      some (v :: rest)

/-- Reads the names and values of an object from `i` up to `stop`; each name is a string. -/
def decodeMembers : Nat → Array UInt8 → Nat → Nat → List (JsonString × JsonNode) → Option (List (JsonString × JsonNode))
  | 0, _, _, _, _ => none
  | fuel + 1, z, stop, i, acc =>
    if i ≥ stop then some acc.reverse
    else do
      let (k, afterKey) ← decodeAt fuel z stop i
      let name ← match k with
        | .string s => some s
        | _ => none
      if afterKey ≥ stop then none
      else
        let (v, next) ← decodeAt fuel z stop afterKey
        decodeMembers fuel z stop next ((name, v) :: acc)

end

/-- Reads JSON in the binary form; none when it is not well formed. -/
def decode (bytes : List UInt8) : Option JsonNode :=
  let z := bytes.toArray
  match decodeAt (2 * z.size + 4) z z.size 0 with
  | some (v, next) => if next == z.size then some v else none
  | none => none

/-- One more than the first position from `j` below `k` whose byte fails a test, or 0 when
every one passes. -/
def firstFailing (p : Nat → Bool) (z : Array UInt8) (k : Nat) : Nat → Nat → Nat
  | 0, _ => 0
  | fuel + 1, j => if j ≥ k then 0 else if p (byteOf z j) then firstFailing p z k fuel (j + 1) else j + 1

/-- Whether a byte is a decimal digit. -/
def isDigitByte (b : Nat) : Bool := 48 ≤ b && b ≤ 57

/-- Whether a byte is a hexadecimal digit. -/
def isHexByte (b : Nat) : Bool := isDigitByte b || (65 ≤ b && b ≤ 70) || (97 ≤ b && b ≤ 102)

/-- Whether a string body may hold a byte as it is. -/
def isBodyByte (b : Nat) : Bool := b ≥ 0x20 && b != 0x22 && b != 0x5c

/-- Checks the digits, point and exponent of a real number from `j` below `k`; `seen` is 0
before a point, 1 after one and 2 after an exponent mark. One more than the position of the
first fault, or 0. -/
def realRest (z : Array UInt8) (strict : Bool) (i k : Nat) : Nat → Nat → Nat → Nat
  | 0, _, _ => 0
  | fuel + 1, j, seen =>
    if j ≥ k then (if seen == 0 then i + 1 else 0)
    else
      let c := byteOf z j
      if isDigitByte c then realRest z strict i k fuel (j + 1) seen
      else if c == 46 then
        if seen > 0 then j + 1
        else if strict && (j + 1 == k || !isDigitByte (byteOf z (j + 1))) then j + 1
        else realRest z strict i k fuel (j + 1) 1
      else if c == 101 || c == 69 then
        if seen == 2 || j + 1 == k then j + 1
        else
          let signed := byteOf z (j + 1) == 43 || byteOf z (j + 1) == 45
          if signed && j + 2 == k then j + 2
          else realRest z strict i k fuel (if signed then j + 2 else j + 1) 2
      else j + 1

/-- Checks a real number's payload from `j0` below `k`, for a header at `i`; `strict` for a
real in plain JSON. -/
def realPayload (z : Array UInt8) (strict : Bool) (i j0 k : Nat) : Nat :=
  let sz := k - j0
  if sz < 2 then i + 1
  else
    let negative := byteOf z j0 == 45
    if negative && sz < 3 then i + 1
    else
      let j := if negative then j0 + 1 else j0
      if byteOf z j == 46 then
        if strict || !isDigitByte (byteOf z (j + 1)) then j + 1
        else realRest z strict i k (k + 1) (j + 2) 1
      else if byteOf z j == 48 && strict then
        if j + 3 > k then j + 1
        else if byteOf z (j + 1) != 46 && byteOf z (j + 1) != 101 && byteOf z (j + 1) != 69 then j + 1
        else realRest z strict i k (k + 1) (j + 1) 0
      else realRest z strict i k (k + 1) j 0

/-- Checks a string body with escapes from `j` below `k`; `five` when JSON5 escapes and control
characters are allowed. -/
def escapedBody (z : Array UInt8) (five : Bool) (k : Nat) : Nat → Nat → Nat
  | 0, _ => 0
  | fuel + 1, j =>
    if j ≥ k then 0
    else
      let c := byteOf z j
      if isBodyByte c then escapedBody z five k fuel (j + 1)
      else if c == 34 then (if five then escapedBody z five k fuel (j + 1) else j + 1)
      else if c ≤ 0x1f then (if five then escapedBody z five k fuel (j + 1) else j + 1)
      else if j + 1 ≥ k then j + 1
      else
        let e := byteOf z (j + 1)
        if e == 0 || e == 34 || e == 92 || e == 47 || e == 98 || e == 102 || e == 110 || e == 114 || e == 116 then
          escapedBody z five k fuel (j + 2)
        else if e == 117 then
          if j + 5 ≥ k || !((List.range 4).all fun d => isHexByte (byteOf z (j + 2 + d))) then j + 1
          else escapedBody z five k fuel (j + 2)
        else if !five then j + 1
        else
          let (v, size) := JsonString.unescapeOne (k + 1) z j (k - j)
          if v == JsonString.invalidChar then j + 1 else escapedBody z five k fuel (j + size)

mutual

/-- Checks strictly that the value at `i` ends exactly at `stop`, `depth` containers deep:
0 when it is well formed, else one more than the position of the first fault. -/
def checkAt : Nat → Array UInt8 → Nat → Nat → Nat → Nat
  | 0, _, i, _, _ => i + 1
  | fuel + 1, z, i, stop, depth =>
    if depth > 1000 then i + 1
    else
      match headerAt z stop i with
      | none => i + 1
      | some (n, sz) =>
        if i + n + sz != stop then i + 1
        else
          let j0 := i + n
          let k := j0 + sz
          match byteOf z i % 16 with
          | 0 | 1 | 2 => if n + sz == 1 then 0 else i + 1
          | 3 =>
            if sz < 1 then i + 1
            else if byteOf z j0 == 45 then
              if sz < 2 then i + 1 else firstFailing isDigitByte z k (k + 1) (j0 + 1)
            else firstFailing isDigitByte z k (k + 1) j0
          | 4 =>
            if sz < 3 then i + 1
            else
              let negative := byteOf z j0 == 45
              if negative && sz < 4 then i + 1
              else
                let j := if negative then j0 + 1 else j0
                if byteOf z j != 48 then i + 1
                else if byteOf z (j + 1) != 120 && byteOf z (j + 1) != 88 then j + 2
                else firstFailing isHexByte z k (k + 1) (j + 2)
          | 5 => realPayload z true i j0 k
          | 6 => realPayload z false i j0 k
          | 7 => firstFailing (fun b => isBodyByte b || b == 39) z k (k + 1) j0
          | 8 => escapedBody z false k (k + 1) j0
          | 9 => escapedBody z true k (k + 1) j0
          | 10 => 0
          | 11 => checkItems fuel z j0 k depth
          | 12 => checkMembers fuel z j0 k depth 0
          | _ => i + 1

/-- Checks the elements of an array from `j` below `k`. -/
def checkItems : Nat → Array UInt8 → Nat → Nat → Nat → Nat
  | 0, _, j, _, _ => j + 1
  | fuel + 1, z, j, k, depth =>
    if j ≥ k then 0
    else
      match headerAt z k j with
      | none => j + 1
      | some (n, sz) =>
        let sub := checkAt fuel z j (j + n + sz) (depth + 1)
        if sub != 0 then sub else checkItems fuel z (j + n + sz) k depth

/-- Checks the names and values of an object from `j` below `k`; `count` of them came before. -/
def checkMembers : Nat → Array UInt8 → Nat → Nat → Nat → Nat → Nat
  | 0, _, j, _, _, _ => j + 1
  | fuel + 1, z, j, k, depth, count =>
    if j ≥ k then (if count % 2 == 1 then j + 1 else 0)
    else
      match headerAt z k j with
      | none => j + 1
      | some (n, sz) =>
        let code := byteOf z j % 16
        if count % 2 == 0 && (code < 7 || code > 10) then j + 1
        else
          let sub := checkAt fuel z j (j + n + sz) (depth + 1)
          if sub != 0 then sub else checkMembers fuel z (j + n + sz) k depth (count + 1)

end

/-- Checks JSON in the binary form strictly: 0 when it is well formed, else one more than the
position of the first fault. -/
def check (bytes : List UInt8) : Nat :=
  let z := bytes.toArray
  checkAt (2 * z.size + 4) z 0 z.size 1

end JsonBinary

end QueryDoc.Store
