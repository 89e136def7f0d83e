import QueryDoc.Store.Printf

/-!
JSON texts as the JSON functions read and write them.

A JSON text is read into a tree that keeps how each number and string was written: an
integer in decimal or in hexadecimal, a real number in plain JSON or with a point that has no
digit on one side, a string body with no escapes, with the escapes of JSON, with those of
JSON5 as well, or as characters that still need escaping. Writing the tree gives plain JSON:
a hexadecimal integer in decimal, `.5` as `0.5`, JSON5 escapes as JSON ones.

Reading works on the bytes of the text, which ends at its first NUL. It accepts the JSON5
extensions (comments, more blanks, trailing commas, single quotes, names without quotes,
hexadecimal integers, signs and points at either end of a number, `Infinity` and `NaN`) and
notes that it met one; `Infinity` becomes the real `9e999` and `NaN` becomes null. Containers
nest at most 1000 deep. A fault is found at a byte position, which `json_error_position`
reports.
-/

namespace QueryDoc.Store

/-- How the body of a JSON string is written. -/
inductive TextForm where
  /-- Characters that need no escape. -/
  | plain
  /-- With the escapes of JSON. -/
  | escaped
  /-- With escapes only JSON5 has, or control characters as they are. -/
  | loose
  /-- Characters as they are, to be escaped when written. -/
  | raw
  deriving BEq, DecidableEq, Inhabited, Repr

/-- A JSON string: its body and how the body is written. -/
structure JsonString where
  form : TextForm
  body : String
  deriving BEq, Inhabited, Repr

/-- A JSON value as read, keeping how its numbers and strings were written. -/
inductive JsonNode where
  | null
  | bool (b : Bool)
  /-- An integer, in hexadecimal when `hex`. -/
  | integer (text : String) (hex : Bool)
  /-- A real number; `loose` when a point has no digit on one side. -/
  | real (text : String) (loose : Bool)
  | string (s : JsonString)
  | array (items : List JsonNode)
  | object (members : List (JsonString × JsonNode))
  deriving Inhabited

namespace JsonRead

/-- The byte at a position; past the end the text reads as NUL. -/
def byteAt (z : ByteArray) (i : Nat) : UInt8 := if h : i < z.size then z[i] else 0

/-- Whether a byte is a decimal digit. -/
def isDigit (b : UInt8) : Bool := 48 ≤ b && b ≤ 57

/-- Whether a byte is a hexadecimal digit. -/
def isHexDigit (b : UInt8) : Bool := isDigit b || (65 ≤ b && b ≤ 70) || (97 ≤ b && b ≤ 102)

/-- Whether a byte is an ASCII letter. -/
def isLetter (b : UInt8) : Bool := (65 ≤ b && b ≤ 90) || (97 ≤ b && b ≤ 122)

/-- Whether a byte is an ASCII letter or digit. -/
def isAlnum (b : UInt8) : Bool := isLetter b || isDigit b

/-- Whether a byte is a blank of plain JSON. -/
def isSpace (b : UInt8) : Bool := b == 32 || b == 9 || b == 10 || b == 13

/-- Whether a string holds a byte as it is: anything but control characters, quotes and the
backslash. -/
def isPlainByte (b : UInt8) : Bool := b ≥ 0x20 && b != 0x22 && b != 0x27 && b != 0x5c

/-- Whether a byte may start a name without quotes: a letter, `_`, `$` or any byte of a
multibyte character. -/
def isNameStart (b : UInt8) : Bool := isLetter b || b == 95 || b == 36 || b ≥ 0x80

/-- Whether a byte may go on with a name without quotes. -/
def isNameByte (b : UInt8) : Bool := isNameStart b || isDigit b

/-- The value of a hexadecimal digit. -/
def hexValue (b : UInt8) : Nat :=
  if isDigit b then b.toNat - 48 else if 65 ≤ b && b ≤ 70 then b.toNat - 55
  else if 97 ≤ b && b ≤ 102 then b.toNat - 87 else 0

/-- A byte in lower case. -/
def lowerByte (b : UInt8) : UInt8 := if 65 ≤ b && b ≤ 90 then b + 32 else b

/-- Whether the bytes at a position spell a word, in any case. -/
def wordAt (z : ByteArray) (i : Nat) (w : String) : Bool :=
  w.toUTF8.toList.zipIdx.all fun (b, k) => lowerByte (byteAt z (i + k)) == lowerByte b

/-- Whether four hexadecimal digits stand at a position. -/
def hex4At (z : ByteArray) (i : Nat) : Bool := (List.range 4).all fun k => isHexDigit (byteAt z (i + k))

/-- Whether two hexadecimal digits stand at a position. -/
def hex2At (z : ByteArray) (i : Nat) : Bool := isHexDigit (byteAt z i) && isHexDigit (byteAt z (i + 1))

/-- The text of the bytes between two positions. -/
def slice (z : ByteArray) (i j : Nat) : String := bytesText (z.extract i j).toList

/-- The first position from `j` on that does not hold a hexadecimal digit. -/
def hexEnd (z : ByteArray) : Nat → Nat → Nat
  | 0, j => j
  | fuel + 1, j => if isHexDigit (byteAt z j) then hexEnd z fuel (j + 1) else j

/-- The first position from `j` on that does not hold a blank of plain JSON. -/
def spacesEnd (z : ByteArray) : Nat → Nat → Nat
  | 0, j => j
  | fuel + 1, j => if isSpace (byteAt z j) then spacesEnd z fuel (j + 1) else j

/-- The position after a block comment, looking for its `*/` from `j` on; none when the text
ends first. -/
def commentClose (z : ByteArray) : Nat → Nat → Option Nat
  | 0, _ => none
  | fuel + 1, j =>
    if byteAt z j == 47 && byteAt z (j - 1) == 42 then some (j + 1)
    else if byteAt z j == 0 then none
    else commentClose z fuel (j + 1)

/-- The position after a line comment whose text starts at `j`: after its line break, or at
the end of the text. -/
def lineClose (z : ByteArray) : Nat → Nat → Nat
  | 0, j => j
  | fuel + 1, j =>
    let c := byteAt z j
    if c == 0 then j
    else if c == 10 || c == 13 then j + 1
    else if c == 0xe2 && byteAt z (j + 1) == 0x80 && (byteAt z (j + 2) == 0xa8 || byteAt z (j + 2) == 0xa9) then j + 3
    else lineClose z fuel (j + 1)

/-- The position after the blanks and comments JSON5 allows from a position on: the blanks of
plain JSON, vertical tab, form feed, the Unicode spaces and line separators, the byte order
mark, and comments; a block comment the text does not close is not one. -/
def blanksEnd (z : ByteArray) : Nat → Nat → Nat
  | 0, n => n
  | fuel + 1, n =>
    let b := byteAt z n
    let b1 := byteAt z (n + 1)
    let b2 := byteAt z (n + 2)
    if b == 9 || b == 10 || b == 11 || b == 12 || b == 13 || b == 32 then blanksEnd z fuel (n + 1)
    else if b == 47 then
      if b1 == 42 && b2 != 0 then
        match commentClose z (z.size + 1) (n + 3) with
        | some e => blanksEnd z fuel e
        | none => n
      else if b1 == 47 then blanksEnd z fuel (lineClose z (z.size + 1) (n + 2))
      else n
    else if b == 0xc2 && b1 == 0xa0 then blanksEnd z fuel (n + 2)
    else if b == 0xe1 && b1 == 0x9a && b2 == 0x80 then blanksEnd z fuel (n + 3)
    else if b == 0xe2 && b1 == 0x80 && b2 ≥ 0x80 && (b2 ≤ 0x8a || b2 == 0xa8 || b2 == 0xa9 || b2 == 0xaf) then
      blanksEnd z fuel (n + 3)
    else if b == 0xe2 && b1 == 0x81 && b2 == 0x9f then blanksEnd z fuel (n + 3)
    else if b == 0xe3 && b1 == 0x80 && b2 == 0x80 then blanksEnd z fuel (n + 3)
    else if b == 0xef && b1 == 0xbb && b2 == 0xbf then blanksEnd z fuel (n + 3)
    else n

/-- What a reading keeps: whether it met a JSON5 extension, and the position of the last
fault or punctuation it stopped at. -/
structure ReadState where
  loose : Bool := false
  mark : Nat := 0

/-- A reading step. -/
abbrev ReadM := StateM ReadState

/-- What reading at a position found. -/
inductive Found where
  /-- A value, and the position after it. -/
  | value (v : JsonNode) (next : Nat)
  /-- The end of the text. -/
  | finish
  /-- A fault, at the position marked. -/
  | fault
  /-- A closing brace, at the position marked. -/
  | closeObject
  /-- A closing bracket, at the position marked. -/
  | closeArray
  /-- A comma, at the position marked. -/
  | comma
  /-- A colon, at the position marked. -/
  | colon
  deriving Inhabited

/-- Notes a position. -/
def markAt (i : Nat) : ReadM Unit := modify fun s => { s with mark := i }

/-- A fault at a position. -/
def failAt (i : Nat) : ReadM Found := do
  markAt i
  pure .fault

/-- Notes that a JSON5 extension was met. -/
def noteLoose : ReadM Unit := modify fun s => { s with loose := true }

/-- The position noted last. -/
def marked : ReadM Nat := do pure (← get).mark

/-- Whether a finding is a fault. -/
def Found.isFault : Found → Bool
  | .fault => true
  | _ => false

/-- Skips blanks before a value: those of plain JSON, and those of JSON5, noting them. -/
def skipBlanks (z : ByteArray) : Nat → Nat → ReadM Nat
  | 0, i => pure i
  | fuel + 1, i => do
    let c := byteAt z i
    if isSpace c then skipBlanks z fuel (i + 1)
    else if c == 11 || c == 12 || c == 47 || c == 0xc2 || c == 0xe1 || c == 0xe2 || c == 0xe3 || c == 0xef then
      let e := blanksEnd z (z.size + 1) i
      if e > i then do
        noteLoose
        skipBlanks z fuel e
      else pure i
    else pure i

/-- The number between two positions: an integer or a real, in a JSON5 form when `loose`
(for an integer, hexadecimal). A leading `+` is dropped. -/
def numberAt (z : ByteArray) (i j : Nat) (loose real : Bool) : Found :=
  let i := if byteAt z i == 43 then i + 1 else i
  let text := slice z i j
  .value (if real then .real text loose else .integer text loose) j

/-- Whether the point just before `j` closes a number begun at `i` after a digit, which JSON5
allows. -/
def pointAfterDigit (z : ByteArray) (i j : Nat) : Bool :=
  byteAt z (j - 1) == 46 && j ≥ i + 2 && isDigit (byteAt z (j - 2))

/-- Reads the digits, point and exponent of a number begun at `i`, from `j` on. Gives the
end and whether the number is in a JSON5 form and real, or none after marking a fault. -/
def numberRest (z : ByteArray) (i : Nat) : Nat → Nat → Bool → Bool → Bool → ReadM (Option (Nat × Bool × Bool))
  | 0, j, loose, real, _ => pure (some (j, loose, real))
  | fuel + 1, j, loose, real, seenE => do
    let c := byteAt z j
    if isDigit c then numberRest z i fuel (j + 1) loose real seenE
    else if c == 46 then
      if real then do
        markAt j
        pure none
      else numberRest z i fuel (j + 1) loose true seenE
    else if c == 101 || c == 69 then
      if byteAt z (j - 1) < 48 && !pointAfterDigit z i j then do
        markAt j
        pure none
      else
        let loose := loose || byteAt z (j - 1) < 48
        if byteAt z (j - 1) < 48 then noteLoose
        if seenE then do
          markAt j
          pure none
        else
          let signed := byteAt z (j + 1) == 43 || byteAt z (j + 1) == 45
          let j := if signed then j + 1 else j
          if !isDigit (byteAt z (j + 1)) then do
            markAt j
            pure none
          else numberRest z i fuel (j + 1) loose true true
    else pure (some (j, loose, real))

/-- Reads a number whose first byte, at `i`, is a sign, a digit or a point; `loose` and
`real` say what that first byte already showed. -/
def number (z : ByteArray) (i : Nat) (loose real : Bool) : ReadM Found := do
  let c := byteAt z i
  let c1 := byteAt z (i + 1)
  let rest (loose : Bool) : ReadM Found := do
    match ← numberRest z i (z.size + 1) (i + 1) loose real false with
    | none => pure .fault
    | some (j, loose, real) =>
      if byteAt z (j - 1) < 48 then
        if pointAfterDigit z i j then do
          noteLoose
          pure (numberAt z i j true real)
        else failAt j
      else pure (numberAt z i j loose real)
  if real then rest loose
  else if c == 48 then
    if (c1 == 120 || c1 == 88) && isHexDigit (byteAt z (i + 2)) then do
      noteLoose
      pure (numberAt z i (hexEnd z (z.size + 1) (i + 3)) true false)
    else if isDigit c1 then failAt (i + 1)
    else rest loose
  else if c < 48 then
    if !isDigit c1 then
      if (c1 == 73 || c1 == 105) && wordAt z (i + 1) "inf" then do
        noteLoose
        let text := if c == 45 then "-9e999" else "9e999"
        pure (.value (.real text false) (i + (if wordAt z (i + 4) "inity" then 9 else 4)))
      else if c1 == 46 then do
        noteLoose
        rest true
      else failAt i
    else if c1 == 48 then
      let c2 := byteAt z (i + 2)
      if isDigit c2 then failAt (i + 1)
      else if (c2 == 120 || c2 == 88) && isHexDigit (byteAt z (i + 3)) then do
        noteLoose
        pure (numberAt z i (hexEnd z (z.size + 1) (i + 4)) true false)
      else rest loose
    else rest loose
  else rest loose

/-- Reads the body of a string from `j` on up to its closing quote `delim`: the position of
that quote and how the body is written, or none after marking a fault. -/
def stringEnd (z : ByteArray) (delim : UInt8) : Nat → Nat → TextForm → ReadM (Option (Nat × TextForm))
  | 0, j, _ => do
    markAt j
    pure none
  | fuel + 1, j, form => do
    let c := byteAt z j
    if isPlainByte c then stringEnd z delim fuel (j + 1) form
    else if c == delim then pure (some (j, form))
    else if c == 92 then
      let j := j + 1
      let e := byteAt z j
      if e == 34 || e == 92 || e == 47 || e == 98 || e == 102 || e == 110 || e == 114 || e == 116 ||
          (e == 117 && hex4At z (j + 1)) then
        stringEnd z delim fuel (j + 1) (if form == .plain then .escaped else form)
      else if e == 39 || e == 48 || e == 118 || e == 10 ||
          (e == 0xe2 && byteAt z (j + 1) == 0x80 && (byteAt z (j + 2) == 0xa8 || byteAt z (j + 2) == 0xa9)) ||
          (e == 120 && hex2At z (j + 1)) then do
        noteLoose
        stringEnd z delim fuel (j + 1) .loose
      else if e == 13 then do
        noteLoose
        let j := if byteAt z (j + 1) == 10 then j + 1 else j
        stringEnd z delim fuel (j + 1) .loose
      else do
        markAt j
        pure none
    else if c ≤ 0x1f then
      if c == 0 then do
        markAt j
        pure none
      else do
        noteLoose
        stringEnd z delim fuel (j + 1) .loose
    else if c == 34 then stringEnd z delim fuel (j + 1) .loose
    else stringEnd z delim fuel (j + 1) form

/-- Reads a string whose opening quote is at `i`. -/
def string (z : ByteArray) (i : Nat) : ReadM Found := do
  let delim := byteAt z i
  if delim == 39 then noteLoose
  match ← stringEnd z delim (z.size + 1) (i + 1) .plain with
  | some (j, form) => pure (.value (.string ⟨form, slice z (i + 1) j⟩) (j + 1))
  | none => pure .fault

/-- Reads `Infinity`, `Inf` or one of the names of NaN, in any case and followed by no letter
or digit; anything else is a fault. -/
def special (z : ByteArray) (i : Nat) : ReadM Found := do
  let names : List (String × JsonNode) :=
    [("inf", .real "9e999" false), ("infinity", .real "9e999" false),
     ("nan", .null), ("qnan", .null), ("snan", .null)]
  match names.find? fun (w, _) => wordAt z i w && !isAlnum (byteAt z (i + w.length)) with
  | some (w, v) => do
    noteLoose
    pure (.value v (i + w.length))
  | none => failAt i

/-- Whether a backslash at `k` starts a `\uXXXX` escape, which a name without quotes may
hold. -/
def nameEscapeAt (z : ByteArray) (k : Nat) : Bool :=
  byteAt z k == 92 && byteAt z (k + 1) == 117 && hex4At z (k + 2)

/-- The end of a name without quotes from `k` on, and whether it held an escape. -/
def nameEnd (z : ByteArray) : Nat → Nat → Bool → Nat × Bool
  | 0, k, esc => (k, esc)
  | fuel + 1, k, esc =>
    if isNameByte (byteAt z k) && blanksEnd z (z.size + 1) k == k then nameEnd z fuel (k + 1) esc
    else if nameEscapeAt z k then nameEnd z fuel (k + 1) true
    else (k, esc)

/-- How what follows an element or a member settles its container: going on after a comma,
closing it, or a fault. -/
inductive Sequel where
  | more (j : Nat)
  | close (j : Nat)
  | stop

mutual

/-- Reads what stands at a position, after any blanks; `depth` containers are open. -/
def value : Nat → ByteArray → Nat → Nat → ReadM Found
  | 0, _, i, _ => failAt i
  | fuel + 1, z, i0, depth => do
    let i ← skipBlanks z (z.size + 1) i0
    let c := byteAt z i
    if c == 123 then
      if depth + 1 > 1000 then failAt i else members fuel z (i + 1) (depth + 1) []
    else if c == 91 then
      if depth + 1 > 1000 then failAt i else items fuel z (i + 1) (depth + 1) []
    else if c == 34 || c == 39 then string z i
    else if c == 116 then
      if wordAt z i "true" && !isAlnum (byteAt z (i + 4)) then pure (.value (.bool true) (i + 4))
      else failAt i
    else if c == 102 then
      if wordAt z i "false" && !isAlnum (byteAt z (i + 5)) then pure (.value (.bool false) (i + 5))
      else failAt i
    else if c == 43 then do
      noteLoose
      number z i false false
    else if c == 46 then
      if isDigit (byteAt z (i + 1)) then do
        noteLoose
        number z i true true
      else failAt i
    else if c == 45 || isDigit c then number z i false false
    else if c == 125 then do
      markAt i
      pure .closeObject
    else if c == 93 then do
      markAt i
      pure .closeArray
    else if c == 44 then do
      markAt i
      pure .comma
    else if c == 58 then do
      markAt i
      pure .colon
    else if c == 0 then pure .finish
    else if c == 110 && wordAt z i "null" && !isAlnum (byteAt z (i + 4)) then pure (.value .null (i + 4))
    else special z i

/-- What follows an element or a member at `j`, in a container that the byte `close` ends:
a comma goes on and `close` ends it, after blanks of plain JSON or of JSON5. -/
def sequel : Nat → ByteArray → Nat → UInt8 → Nat → ReadM Sequel
  | 0, _, _, _, _ => pure .stop
  | fuel + 1, z, j, close, depth => do
    if byteAt z j == 44 then pure (.more (j + 1))
    else if byteAt z j == close then pure (.close j)
    else
      let j := if isSpace (byteAt z j) then spacesEnd z (z.size + 1) j else j
      if byteAt z j == 44 then pure (.more (j + 1))
      else if byteAt z j == close then pure (.close j)
      else
        match ← value fuel z j depth with
        | .comma => pure (.more ((← marked) + 1))
        | .closeObject =>
          if close == 125 then pure (.close (← marked))
          else do
            markAt j
            pure .stop
        | .closeArray =>
          if close == 93 then pure (.close (← marked))
          else do
            markAt j
            pure .stop
        | _ => do
          markAt j
          pure .stop

/-- Reads the elements of an array from `j` on; `acc` holds those read, last first. -/
def items : Nat → ByteArray → Nat → Nat → List JsonNode → ReadM Found
  | 0, _, j, _, _ => failAt j
  | fuel + 1, z, j, depth, acc => do
    match ← value fuel z j depth with
    | .closeArray => do
      if !acc.isEmpty then noteLoose
      pure (.value (.array acc.reverse) ((← marked) + 1))
    | .value v next =>
      match ← sequel fuel z next 93 depth with
      | .more k => items fuel z k depth (v :: acc)
      | .close k => pure (.value (.array (v :: acc).reverse) (k + 1))
      | .stop => pure .fault
    | x => do
      if !x.isFault then markAt j
      pure .fault

/-- Reads the members of an object from `j` on; `acc` holds those read, last first. A name may
be a string or, in JSON5, a name without quotes. -/
def members : Nat → ByteArray → Nat → Nat → List (JsonString × JsonNode) → ReadM Found
  | 0, _, j, _, _ => failAt j
  | fuel + 1, z, j, depth, acc => do
    let label ← match ← value fuel z j depth with
      | .closeObject => pure (Sum.inl ())
      | .value (.string s) next => pure (Sum.inr (some (s, next)))
      | .value _ _ => do
        markAt j
        pure (Sum.inr none)
      | x =>
        let k := blanksEnd z (z.size + 1) j
        if isNameStart (byteAt z k) || nameEscapeAt z k then do
          let (e, esc) := nameEnd z (z.size + 1) (k + 1) (nameEscapeAt z k)
          noteLoose
          pure (Sum.inr (some (⟨if esc then .escaped else .plain, slice z k e⟩, e)))
        else do
          if !x.isFault then markAt k
          pure (Sum.inr none)
    match label with
    | .inl () => do
      if !acc.isEmpty then noteLoose
      pure (.value (.object acc.reverse) ((← marked) + 1))
    | .inr none => pure .fault
    | .inr (some (name, p)) =>
      let start ←
        if byteAt z p == 58 then pure (some (p + 1))
        else
          let q := if isSpace (byteAt z p) then spacesEnd z (z.size + 1) p else p
          if byteAt z q == 58 then pure (some (q + 1))
          else
            match ← value fuel z q depth with
            | .colon => pure (some ((← marked) + 1))
            | x => do
              if !x.isFault then markAt q
              pure none
      match start with
      | none => pure .fault
      | some vpos =>
        match ← value fuel z vpos depth with
        | .value v next =>
          match ← sequel fuel z next 125 depth with
          | .more k => members fuel z k depth ((name, v) :: acc)
          | .close k => pure (.value (.object ((name, v) :: acc).reverse) (k + 1))
          | .stop => pure .fault
        | x => do
          if !x.isFault then markAt vpos
          pure .fault

end

end JsonRead

namespace JsonNode

/-- Reads a whole JSON text from its bytes: the tree and whether it used a JSON5 extension,
or the byte position of the fault. Blanks may follow the value, and nothing else. -/
def readBytes (z : ByteArray) : Except Nat (JsonNode × Bool) :=
  let (found, st) := (JsonRead.value (4 * z.size + 16) z 0 0).run {}
  match found with
  | .value v next =>
    let k := JsonRead.spacesEnd z (z.size + 1) next
    if JsonRead.byteAt z k == 0 then .ok (v, st.loose)
    else
      let k := JsonRead.blanksEnd z (z.size + 1) k
      if JsonRead.byteAt z k == 0 then .ok (v, true) else .error st.mark
  | _ => .error st.mark

/-- Reads a whole JSON text. -/
def read (s : String) : Except Nat (JsonNode × Bool) := readBytes s.toUTF8

/-- A hexadecimal digit for a value below 16. -/
def hexDigit (n : Nat) : Char := "0123456789abcdef".toList.getD n '0'

/-- The escape of a control character: a short one where JSON has it, `\u00XX` otherwise. -/
def controlEscape (c : Char) : String :=
  match c.toNat with
  | 8 => "\\b"
  | 9 => "\\t"
  | 10 => "\\n"
  | 12 => "\\f"
  | 13 => "\\r"
  | n => "\\u00" ++ (hexDigit (n / 16)).toString ++ (hexDigit (n % 16)).toString

/-- A text written as a JSON string: quotes, backslashes and control characters escaped. -/
def quote (s : String) : String :=
  "\"" ++ String.join (s.toList.map fun c =>
    if c == '"' then "\\\"" else if c == '\\' then "\\\\"
    else if c.toNat < 0x20 then controlEscape c else c.toString) ++ "\""

/-- Whether a character is a line or paragraph separator, which an escape may break a line
with. -/
def isSeparator (c : Char) : Bool := c.toNat == 0x2028 || c.toNat == 0x2029

/-- A string body with JSON5 escapes, written with JSON ones: `\'` as a quote, `\v` as
`\u0009`, `\xXX` as `\u00XX`, `\0` as `\u0000`; an escaped line break is dropped. -/
def looseBody : Nat → List Char → String → String
  | 0, _, acc => acc
  | _, [], acc => acc
  | fuel + 1, c :: rest, acc =>
    if c == '"' then looseBody fuel rest (acc ++ "\\\"")
    else if c.toNat < 0x20 then looseBody fuel rest (acc ++ controlEscape c)
    else if c == '\\' then
      match rest with
      | [] => acc
      | e :: more =>
        if e == '\'' then looseBody fuel more (acc.push '\'')
        else if e == 'v' then looseBody fuel more (acc ++ "\\u0009")
        else if e == 'x' then
          match more with
          | a :: b :: after => looseBody fuel after (acc ++ "\\u00" ++ a.toString ++ b.toString)
          | _ => acc
        else if e == '0' then looseBody fuel more (acc ++ "\\u0000")
        else if e == '\r' then
          looseBody fuel (match more with
            | '\n' :: after => after
            | _ => more) acc
        else if e == '\n' || isSeparator e then looseBody fuel more acc
        else looseBody fuel more ((acc.push '\\').push e)
    else looseBody fuel rest (acc.push c)

/-- A hexadecimal integer written in decimal, keeping its sign; one too large for 64 bits is
written `9.0e999`. -/
def hexDecimal (t : String) : String :=
  let (sign, digits) := match t.toList with
    | '-' :: r => ("-", r.drop 2)
    | '+' :: r => ("", r.drop 2)
    | r => ("", r.drop 2)
  let digits := digits.takeWhile fun c => JsonRead.isHexDigit c.toNat.toUInt8
  let (u, tooLong) := digits.foldl (fun (acc : Nat × Bool) c =>
    if acc.2 || acc.1 ≥ 1152921504606846976 then (acc.1, true)
    else (acc.1 * 16 + JsonRead.hexValue c.toNat.toUInt8, false)) (0, false)
  sign ++ (if tooLong then "9.0e999" else toString u)

/-- The characters of a real number in a JSON5 form, a zero written after each point that no
digit follows. -/
def zeroAfterPoints : List Char → List Char
  | [] => []
  | c :: more =>
    if c == '.' && !((more.head?.map Char.isDigit).getD false) then c :: '0' :: zeroAfterPoints more
    else c :: zeroAfterPoints more

/-- A real number in a JSON5 form written in plain JSON: a zero before a leading point and
after a trailing one. -/
def pointed (t : String) : String :=
  let (sign, rest) := match t.toList with
    | '-' :: r => ("-", r)
    | r => ("", r)
  let lead := if rest.head? == some '.' then "0" else ""
  sign ++ lead ++ String.ofList (zeroAfterPoints rest)

end JsonNode

namespace JsonString

/-- The string written as JSON. -/
def render (s : JsonString) : String :=
  match s.form with
  | .plain | .escaped => "\"" ++ s.body ++ "\""
  | .loose => "\"" ++ JsonNode.looseBody (s.body.length + 1) s.body.toList "" ++ "\""
  | .raw => JsonNode.quote s.body

end JsonString

namespace JsonNode

mutual

/-- The value written as JSON without blanks. -/
def render : JsonNode → String
  | .null => "null"
  | .bool b => if b then "true" else "false"
  | .integer t hex => if hex then hexDecimal t else t
  | .real t loose => if loose then pointed t else t
  | .string s => s.render
  | .array xs => "[" ++ renderItems xs ++ "]"
  | .object ms => "\x7b" ++ renderMembers ms ++ "\x7d"

/-- Elements written with commas between them. -/
def renderItems : List JsonNode → String
  | [] => ""
  | [x] => render x
  | x :: xs => render x ++ "," ++ renderItems xs

/-- Members written with commas between them. -/
def renderMembers : List (JsonString × JsonNode) → String
  | [] => ""
  | [(k, v)] => k.render ++ ":" ++ render v
  | (k, v) :: ms => k.render ++ ":" ++ render v ++ "," ++ renderMembers ms

end

mutual

/-- The value written with one element per line, indented by `unit` per level. -/
def pretty (unit : String) (depth : Nat) : JsonNode → String
  | .array [] => "[]"
  | .object [] => "\x7b\x7d"
  | .array xs =>
    "[\n" ++ prettyItems unit (depth + 1) xs ++ "\n" ++ String.join (List.replicate depth unit) ++ "]"
  | .object ms =>
    "\x7b\n" ++ prettyMembers unit (depth + 1) ms ++ "\n" ++ String.join (List.replicate depth unit) ++ "\x7d"
  | other => render other

/-- Elements, one per line. -/
def prettyItems (unit : String) (depth : Nat) : List JsonNode → String
  | [] => ""
  | [x] => String.join (List.replicate depth unit) ++ pretty unit depth x
  | x :: xs => String.join (List.replicate depth unit) ++ pretty unit depth x ++ ",\n" ++
      prettyItems unit depth xs

/-- Members, one per line. -/
def prettyMembers (unit : String) (depth : Nat) : List (JsonString × JsonNode) → String
  | [] => ""
  | [(k, v)] => String.join (List.replicate depth unit) ++ k.render ++ ": " ++ pretty unit depth v
  | (k, v) :: ms => String.join (List.replicate depth unit) ++ k.render ++ ": " ++
      pretty unit depth v ++ ",\n" ++ prettyMembers unit depth ms

end

/-- The type name `json_type` gives. -/
def typeName : JsonNode → String
  | .null => "null"
  | .bool true => "true"
  | .bool false => "false"
  | .integer _ _ => "integer"
  | .real _ _ => "real"
  | .string _ => "text"
  | .array _ => "array"
  | .object _ => "object"

end JsonNode

namespace JsonString

/-- The code point an escape stands for when it names no character. -/
def invalidChar : Nat := 0x20000

/-- The byte at a position, zero past the end. -/
def byteOf (z : Array UInt8) (i : Nat) : Nat := (z[i]?.getD 0).toNat

/-- The value of a hexadecimal digit, read the way the escapes are read: any other byte gives
some value below 16 too. -/
def digitValue (h : Nat) : Nat := (h + 9 * ((h / 64) % 2)) % 16

/-- The value of the four hexadecimal digits at a position. -/
def hex4Value (z : Array UInt8) (i : Nat) : Nat :=
  ((digitValue (byteOf z i) * 16 + digitValue (byteOf z (i + 1))) * 16 + digitValue (byteOf z (i + 2))) * 16 +
    digitValue (byteOf z (i + 3))

/-- Reads one character of UTF-8 at position `i`, taking at most `n` bytes: the code point and
the bytes taken. A lone continuation byte is read as its own value. -/
def readChar (z : Array UInt8) (i n : Nat) : Nat × Nat :=
  let c := byteOf z i
  if c < 0xc0 then (c, 1)
  else
    let lead := if c < 0xe0 then c % 32 else if c < 0xf0 then c % 16 else if c < 0xf8 then c % 8
      else if c < 0xfc then c % 4 else if c < 0xfe then c % 2 else 0
    let limit := if n > 4 then 4 else n
    let rec go : Nat → Nat → Nat → Nat × Nat
      | 0, v, k => (v, k)
      | fuel + 1, v, k =>
        if k < limit && byteOf z (i + k) / 64 == 2 then go fuel (v * 64 + byteOf z (i + k) % 64) (k + 1)
        else (v, k)
    go 4 lead 1

/-- The bytes that escaped line breaks take from position `i` on, within `n` bytes: each a
backslash and a line feed, a carriage return (with a line feed after it or not), or a line or
paragraph separator. -/
def lineBreaks (z : Array UInt8) (i n : Nat) : Nat :=
  let rec go : Nat → Nat → Nat
    | 0, k => k
    | fuel + 1, k =>
      if k + 1 < n && byteOf z (i + k) == 92 then
        let e := byteOf z (i + k + 1)
        if e == 10 then go fuel (k + 2)
        else if e == 13 then go fuel (if k + 2 < n && byteOf z (i + k + 2) == 10 then k + 3 else k + 2)
        else if e == 0xe2 && k + 3 < n && byteOf z (i + k + 2) == 0x80 &&
            (byteOf z (i + k + 3) == 0xa8 || byteOf z (i + k + 3) == 0xa9) then go fuel (k + 4)
        else k
      else k
  go (n + 1) 0

/-- Reads the escape at position `i`, a backslash, within `n` bytes: the code point it stands
for and the bytes it takes. Escaped line breaks stand for nothing and the character after them
is read with them. -/
def unescapeOne : Nat → Array UInt8 → Nat → Nat → Nat × Nat
  | 0, _, _, n => (invalidChar, n)
  | fuel + 1, z, i, n =>
    if n < 2 then (invalidChar, n)
    else
      let e := byteOf z (i + 1)
      if e == 117 then
        if n < 6 then (invalidChar, n)
        else
          let v := hex4Value z (i + 2)
          let lo := hex4Value z (i + 8)
          if v / 1024 == 0xd800 / 1024 && n ≥ 12 && byteOf z (i + 6) == 92 && byteOf z (i + 7) == 117 &&
              lo / 1024 == 0xdc00 / 1024 then
            ((v % 1024) * 1024 + lo % 1024 + 0x10000, 12)
          else (v, 6)
      else if e == 98 then (8, 2)
      else if e == 102 then (12, 2)
      else if e == 110 then (10, 2)
      else if e == 114 then (13, 2)
      else if e == 116 then (9, 2)
      else if e == 118 then (11, 2)
      else if e == 48 then (0, 2)
      else if e == 39 || e == 34 || e == 47 || e == 92 then (e, 2)
      else if e == 120 then
        if n < 4 then (invalidChar, n) else (digitValue (byteOf z (i + 2)) * 16 + digitValue (byteOf z (i + 3)), 4)
      else if e == 0xe2 || e == 13 || e == 10 then
        let skip := lineBreaks z i n
        if skip == 0 then (invalidChar, n)
        else if skip == n then (0, n)
        else if byteOf z (i + skip) == 92 then
          let (c, k) := unescapeOne fuel z (i + skip) (n - skip)
          (c, skip + k)
        else
          let (c, k) := readChar z (i + skip) (n - skip)
          (c, skip + k)
      else (invalidChar, 2)

/-- The bytes of a code point in UTF-8, surrogates included; an escape that names no
character gives none. -/
def pointBytes (v : Nat) : List UInt8 :=
  if v ≤ 0x7f then [UInt8.ofNat v]
  else if v ≤ 0x7ff then [UInt8.ofNat (0xc0 + v / 64), UInt8.ofNat (0x80 + v % 64)]
  else if v < 0x10000 then
    [UInt8.ofNat (0xe0 + v / 4096), UInt8.ofNat (0x80 + (v / 64) % 64), UInt8.ofNat (0x80 + v % 64)]
  else if v == invalidChar then []
  else
    [UInt8.ofNat (0xf0 + v / 262144), UInt8.ofNat (0x80 + (v / 4096) % 64), UInt8.ofNat (0x80 + (v / 64) % 64),
     UInt8.ofNat (0x80 + v % 64)]

/-- Whether the body has no escapes to read. -/
def isRaw (s : JsonString) : Bool := s.form == .plain || s.form == .raw

/-- The bytes of the characters a string stands for, its escapes read. -/
def unescapedBytes (s : JsonString) : List UInt8 :=
  let z := (textBytes s.body).toArray
  let rec go : Nat → Nat → List UInt8 → List UInt8
    | 0, _, acc => acc.reverse
    | fuel + 1, i, acc =>
      if i ≥ z.size then acc.reverse
      else if !s.isRaw && byteOf z i == 92 then
        let (v, k) := unescapeOne (z.size + 1) z i (z.size - i)
        go fuel (i + k) ((pointBytes v).reverse ++ acc)
      else go fuel (i + 1) (UInt8.ofNat (byteOf z i) :: acc)
  go (z.size + 1) 0 []

/-- The code points of a string's characters, its escapes read when it has them, up to the
first that is zero. -/
def points (s : JsonString) : List Nat :=
  let z := (textBytes s.body).toArray
  let rec go : Nat → Nat → List Nat → List Nat
    | 0, _, acc => acc.reverse
    | fuel + 1, i, acc =>
      if i ≥ z.size then acc.reverse
      else
        let (v, k) := if !s.isRaw && byteOf z i == 92 then unescapeOne (z.size + 1) z i (z.size - i)
          else readChar z i (z.size - i)
        if v == 0 then acc.reverse else go fuel (i + k) (v :: acc)
  go (z.size + 1) 0 []

/-- Whether two names are the same: by their bytes when neither has escapes, else by the
characters they stand for. -/
def same (a b : JsonString) : Bool :=
  if a.isRaw && b.isRaw then a.body == b.body else a.points == b.points

end JsonString

end QueryDoc.Store
