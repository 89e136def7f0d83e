import QueryDoc.Store.Datum

/-!
How a row's values are laid out as bytes in the database file.

A record is a header, then the bodies of its values. The header is its own length as a
variable-length integer, then one serial type per value: 0 for null, 8 and 9 for the integers
0 and 1, 1 to 6 for any other integer in 1, 2, 3, 4, 6 or 8 bytes, 7 for a double, 12 + 2n for
n bytes and 13 + 2n for a text of n bytes in the database's encoding. Integers are stored
big-endian in two's complement and a double as its bits.

A variable-length integer keeps seven bits a byte, the most significant first, with the high
bit set on every byte but the last; a value of more than 56 bits takes nine bytes, the last
holding eight bits.
-/

namespace QueryDoc.Store

namespace Record

/-- How many bytes a variable-length integer takes. -/
def varintLength (v : Nat) : Nat :=
  ((List.range 8).find? fun k => v < Nat.pow 128 (k + 1)).map (· + 1) |>.getD 9

/-- The bytes of a variable-length integer. -/
def varintBytes (v : Nat) : List UInt8 :=
  let n := varintLength v
  if n == 9 then
    let high := v / 256
    ((List.range 8).reverse.map fun i => (high / Nat.pow 128 i % 128 + 128).toUInt8) ++ [(v % 256).toUInt8]
  else
    (List.range n).reverse.map fun i =>
      (v / Nat.pow 128 i % 128 + (if i > 0 then 128 else 0)).toUInt8

/-- An integer as an unsigned 64-bit number, the way it is written as a row id. -/
def unsigned (n : Int) : Nat := if n < 0 then (n + Int.ofNat (Nat.pow 2 64)).toNat else n.toNat

/-- The `k` low bytes of a number, the most significant first. -/
def bigEndian (k : Nat) (v : Nat) : List UInt8 :=
  (List.range k).reverse.map fun i => (v / Nat.pow 256 i % 256).toUInt8

/-- How many bytes an integer other than 0 and 1 takes, with its serial type. -/
def integerWidth (n : Int) : Nat × Nat :=
  let fits (bits : Nat) : Bool :=
    -Int.ofNat (Nat.pow 2 (bits - 1)) ≤ n && n < Int.ofNat (Nat.pow 2 (bits - 1))
  if fits 8 then (1, 1) else if fits 16 then (2, 2) else if fits 24 then (3, 3)
  else if fits 32 then (4, 4) else if fits 48 then (5, 6) else (6, 8)

/-- The serial type of a value and the length of its body. -/
def shape (enc : TextEncoding) : Datum → Nat × Nat
  | .null => (0, 0)
  | .integer 0 => (8, 0)
  | .integer 1 => (9, 0)
  | .integer n => integerWidth n
  | .real _ => (7, 8)
  | .blob bs => (12 + 2 * bs.length, bs.length)
  | d =>
    let n := (enc.bytesOf d).length
    (13 + 2 * n, n)

/-- The body of a value. -/
def body (enc : TextEncoding) : Datum → List UInt8
  | .null => []
  | .integer 0 | .integer 1 => []
  | .integer n => bigEndian (integerWidth n).2 (unsigned n)
  | .real x => bigEndian 8 x.toBits.toNat
  | .blob bs => bs
  | d => enc.bytesOf d

/-- The length of a record's header, which counts itself. -/
def headerLength (typeBytes : Nat) : Nat :=
  if typeBytes ≤ 126 then typeBytes + 1
  else
    let n := typeBytes + varintLength typeBytes
    if varintLength typeBytes < varintLength n then n + 1 else n

/-- How many bytes the record of some values takes. -/
def size (enc : TextEncoding) (values : List Datum) : Nat :=
  let shapes := values.map (shape enc)
  headerLength ((shapes.map fun (t, _) => varintLength t).foldl (· + ·) 0) +
    (shapes.map (·.2)).foldl (· + ·) 0

/-- The bytes of the record of some values. -/
def encode (enc : TextEncoding) (values : List Datum) : List UInt8 :=
  let types := values.map fun d => (shape enc d).1
  let typeBytes := types.flatMap varintBytes
  varintBytes (headerLength typeBytes.length) ++ typeBytes ++ values.flatMap (body enc)

/-- Reads a variable-length integer at the head of bytes: its value and the bytes after it. -/
def readVarint (bytes : List UInt8) : Nat × List UInt8 :=
  let rec go : Nat → Nat → List UInt8 → Nat × List UInt8
    | _, v, [] => (v, [])
    | 0, v, b :: rest => (v * 256 + b.toNat, rest)
    | k + 1, v, b :: rest =>
      if b < 0x80 then (v * 128 + b.toNat, rest) else go k (v * 128 + (b.toNat - 128)) rest
  go 8 0 bytes

/-- The serial types of a record's header, read from the bytes after its length. -/
def readTypes : Nat → List UInt8 → List Nat
  | 0, _ => []
  | _, [] => []
  | fuel + 1, bytes =>
    let (t, rest) := readVarint bytes
    t :: readTypes fuel rest

/-- A number from big-endian bytes in two's complement. -/
def signedOf (bytes : List UInt8) : Int :=
  let v := bytes.foldl (fun (acc : Nat) (b : UInt8) => acc * 256 + b.toNat) 0
  let top := Nat.pow 2 (8 * bytes.length)
  if bytes.length > 0 && v ≥ top / 2 then (v : Int) - top else v

/-- The value of a serial type from the bytes of its body. -/
def valueOf (enc : TextEncoding) (t : Nat) (body : List UInt8) : Datum :=
  match t with
  | 0 => .null
  | 7 => .real (Float.ofBits (body.foldl (fun (acc : Nat) (b : UInt8) => acc * 256 + b.toNat) 0).toUInt64)
  | 8 => .integer 0
  | 9 => .integer 1
  | _ =>
    if t ≤ 6 then .integer (signedOf body)
    else if t ≥ 12 && t % 2 == 0 then .blob body
    else if t ≥ 13 then enc.decode body
    else .null

/-- How many bytes the body of a serial type takes. -/
def bodyLength (t : Nat) : Nat :=
  match t with
  | 1 => 1 | 2 => 2 | 3 => 3 | 4 => 4 | 5 => 6 | 6 => 8 | 7 => 8
  | _ => if t ≥ 12 then (t - 12) / 2 else 0

/-- The values of a record. -/
def decode (enc : TextEncoding) (bytes : List UInt8) : List Datum :=
  let (headerLen, afterLen) := readVarint bytes
  let typeBytes := afterLen.take (headerLen - (bytes.length - afterLen.length))
  let types := readTypes typeBytes.length typeBytes
  let body := bytes.drop headerLen
  let (values, _) := types.foldl (fun (acc : List Datum × List UInt8) t =>
    let n := bodyLength t
    (acc.1 ++ [valueOf enc t (acc.2.take n)], acc.2.drop n)) ([], body)
  values

end Record

end QueryDoc.Store
