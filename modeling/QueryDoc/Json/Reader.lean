import QueryDoc.Json.Basic

/-!
Reading JSON text.

The reader walks the UTF-8 bytes of the text with a cursor that knows its line and its column
(bytes since the last newline). A failure names what went wrong and where: most failures point
just past the byte that was read last, and failures found by looking ahead point just past the
byte looked at. Containers may nest 127 deep.

Integers that fit in 64 bits stay integers (a negative one must fit the signed range, and `-0`
is the double `-0.0`); any other number becomes a double. A double is built from up to 19
significant digits and a power of ten, the way the digits were read: the significand is
multiplied or divided by an exact table entry `10^k`, and a power beyond the table is first
brought into range by dividing by `10^308`. A value that overflows is an error, never an
infinity.
-/

namespace QueryDoc.Json

/-- What went wrong while reading JSON text. -/
inductive SyntaxIssue where
  | eofList
  | eofObject
  | eofString
  | eofValue
  | expectedColon
  | expectedListCommaOrEnd
  | expectedObjectCommaOrEnd
  | expectedIdent
  | expectedValue
  | invalidEscape
  | invalidNumber
  | numberOutOfRange
  | controlCharacter
  | keyMustBeString
  | loneLeadingSurrogate
  | trailingComma
  | trailingCharacters
  | unexpectedEndOfHexEscape
  | recursionLimit
  deriving Repr, BEq, DecidableEq

/-- The wording of each issue. -/
def SyntaxIssue.text : SyntaxIssue → String
  | .eofList => "EOF while parsing a list"
  | .eofObject => "EOF while parsing an object"
  | .eofString => "EOF while parsing a string"
  | .eofValue => "EOF while parsing a value"
  | .expectedColon => "expected `:`"
  | .expectedListCommaOrEnd => "expected `,` or `]`"
  | .expectedObjectCommaOrEnd => "expected `,` or `\x7d`"
  | .expectedIdent => "expected ident"
  | .expectedValue => "expected value"
  | .invalidEscape => "invalid escape"
  | .invalidNumber => "invalid number"
  | .numberOutOfRange => "number out of range"
  | .controlCharacter => "control character (\\u0000-\\u001F) found while parsing a string"
  | .keyMustBeString => "key must be a string"
  | .loneLeadingSurrogate => "lone leading surrogate in hex escape"
  | .trailingComma => "trailing comma"
  | .trailingCharacters => "trailing characters"
  | .unexpectedEndOfHexEscape => "unexpected end of hex escape"
  | .recursionLimit => "recursion limit exceeded"

/-- A reading failure and the line and column it points at. -/
structure SyntaxError where
  issue : SyntaxIssue
  line : Nat
  column : Nat
  deriving Repr, BEq

/-- `<issue> at line L column C`. -/
def SyntaxError.message (e : SyntaxError) : String :=
  e.issue.text ++ " at line " ++ toString e.line ++ " column " ++ toString e.column

/-- The bytes left to read, and the line and column reached. -/
structure Cursor where
  rest : List UInt8
  line : Nat
  column : Nat

/-- Where a position moves past one byte. -/
def stepPos (b : UInt8) (line column : Nat) : Nat × Nat :=
  if b == 10 then (line + 1, 0) else (line, column + 1)

namespace Cursor

/-- A cursor at the start of a text. -/
def start (s : String) : Cursor := ⟨s.toUTF8.toList, 1, 0⟩

/-- The next byte, without moving. -/
def peek? (c : Cursor) : Option UInt8 := c.rest.head?

/-- Moves past one byte. -/
def advance (c : Cursor) : Cursor :=
  match c.rest with
  | [] => c
  | b :: bs => let (l, k) := stepPos b c.line c.column; ⟨bs, l, k⟩

/-- The next byte and the cursor past it. -/
def next? (c : Cursor) : Option (UInt8 × Cursor) :=
  match c.rest with
  | [] => none
  | b :: _ => some (b, c.advance)

/-- A failure pointing at the cursor. -/
def fail (c : Cursor) (i : SyntaxIssue) : SyntaxError := ⟨i, c.line, c.column⟩

/-- A failure pointing just past the next byte (at the cursor when there is none). -/
def failAhead (c : Cursor) (i : SyntaxIssue) : SyntaxError :=
  let d := c.advance
  ⟨i, d.line, d.column⟩

/-- Moves to the end of the text. -/
def toEnd (c : Cursor) : Cursor :=
  c.rest.foldl (fun d _ => d.advance) c

end Cursor

/-- Skips blanks: space, tab, carriage return and newline. -/
def skipBlanks (rest : List UInt8) (line column : Nat) : Cursor :=
  match rest with
  | [] => ⟨[], line, column⟩
  | b :: bs =>
    if b == 32 || b == 9 || b == 13 then skipBlanks bs line (column + 1)
    else if b == 10 then skipBlanks bs (line + 1) 0
    else ⟨b :: bs, line, column⟩

/-- The cursor past any blanks. -/
def Cursor.skip (c : Cursor) : Cursor := skipBlanks c.rest c.line c.column

/-- Whether a byte is an ASCII digit. -/
def isDigit (b : UInt8) : Bool := 48 ≤ b && b ≤ 57

/-- The value of a digit byte. -/
def digitVal (b : UInt8) : Nat := b.toNat - 48

/-- A reading step: a result and the cursor after it, or a failure. -/
abbrev Step (α : Type) := Except SyntaxError (α × Cursor)

/-! ### Literals -/

/-- Reads the rest of `null`, `true` or `false` after its first letter. -/
def readIdent : List UInt8 → Cursor → Except SyntaxError Cursor
  | [], c => .ok c
  | e :: es, c => match c.next? with
    | none => .error (c.fail .eofValue)
    | some (b, d) => if b == e then readIdent es d else .error (d.fail .expectedIdent)

/-! ### Numbers -/

/-- `sig * 10 + digit` would pass `2^64 - 1`. -/
def overflowsU64 (sig digit : Nat) : Bool :=
  sig ≥ 1844674407370955161 && (sig > 1844674407370955161 || digit > 5)

/-- `exp * 10 + digit` would pass `2^31 - 1`. -/
def overflowsI32 (exp digit : Nat) : Bool :=
  exp ≥ 214748364 && (exp > 214748364 || digit > 7)

/-- Clamps to the signed 32-bit range. -/
def clampI32 (x : Int) : Int := max (-2147483648) (min 2147483647 x)

/-- The double nearest `10^k`. -/
def pow10 (k : Nat) : Float := Float.ofScientific 1 false k

/-- `f · 10^e` by table steps, or `none` when it overflows. -/
def scalePow10 : Nat → Float → Int → Option Float
  | 0, f, _ => some f
  | fuel + 1, f, e =>
    if e.natAbs ≤ 308 then
      if e ≥ 0 then
        let g := f * pow10 e.natAbs
        if g.isInf then none else some g
      else some (f / pow10 e.natAbs)
    else if f == 0 then some f
    else if e ≥ 0 then none
    else scalePow10 fuel (f / pow10 308) (e + 308)

/-- The double `±sig · 10^exp`, failing at the cursor when it overflows. -/
def fromParts (positive : Bool) (sig : Nat) (exp : Int) (c : Cursor) : Step Json :=
  match scalePow10 8 (UInt64.ofNat sig).toFloat exp with
  | none => .error (c.fail .numberOutOfRange)
  | some f => .ok (.float (if positive then f else -f), c)

/-- Skips digits. -/
def skipDigits : Nat → Cursor → Cursor
  | 0, c => c
  | fuel + 1, c => match c.peek? with
    | some b => if isDigit b then skipDigits fuel c.advance else c
    | none => c

/-- An exponent too large to hold: an error for a non-zero value and a positive exponent,
zero otherwise. -/
def exponentOverflow (fuel : Nat) (positive zeroSig positiveExp : Bool) (c : Cursor) : Step Json :=
  if !zeroSig && positiveExp then .error (c.fail .numberOutOfRange)
  else .ok (.float (if positive then 0.0 else -0.0), skipDigits fuel c)

/-- Digits of an exponent after the first. -/
def exponentDigits (positive : Bool) (sig : Nat) (start : Int) (positiveExp : Bool) :
    Nat → Nat → Cursor → Step Json
  | 0, _, c => .error (c.fail .invalidNumber)
  | fuel + 1, exp, c => match c.peek? with
    | some b =>
      if isDigit b then
        let d := c.advance
        if overflowsI32 exp (digitVal b) then exponentOverflow fuel positive (sig == 0) positiveExp d
        else exponentDigits positive sig start positiveExp fuel (exp * 10 + digitVal b) d
      else finish exp c
    | none => finish exp c
where
  finish (exp : Nat) (c : Cursor) : Step Json :=
    let e := if positiveExp then clampI32 (start + exp) else clampI32 (start - exp)
    fromParts positive sig e c

/-- An exponent, the cursor being at its `e`. -/
def readExponent (fuel : Nat) (positive : Bool) (sig : Nat) (start : Int) (c : Cursor) : Step Json :=
  let c := c.advance
  let (positiveExp, c) := match c.peek? with
    | some 43 => (true, c.advance)
    | some 45 => (false, c.advance)
    | _ => (true, c)
  match c.next? with
  | none => .error (c.fail .eofValue)
  | some (b, d) =>
    if isDigit b then exponentDigits positive sig start positiveExp fuel (digitVal b) d
    else .error (d.fail .invalidNumber)

/-- What follows the fraction digits: an exponent or the end of the number. -/
def afterFraction (fuel : Nat) (positive : Bool) (sig : Nat) (exp : Int) (c : Cursor) : Step Json :=
  match c.peek? with
  | some 101 | some 69 => readExponent fuel positive sig exp c
  | _ => fromParts positive sig exp c

/-- Fraction digits; digits that no longer fit the significand are dropped. -/
def fractionDigits (positive : Bool) (before : Int) : Nat → Nat → Int → Cursor → Step Json
  | 0, _, _, c => .error (c.fail .invalidNumber)
  | fuel + 1, sig, after, c =>
    match c.peek? with
    | some b =>
      if isDigit b then
        if overflowsU64 sig (digitVal b) then
          afterFraction fuel positive sig (before + after) (skipDigits fuel c)
        else fractionDigits positive before fuel (sig * 10 + digitVal b) (after - 1) c.advance
      else done fuel sig after c
    | none => done fuel sig after c
where
  done (fuel sig : Nat) (after : Int) (c : Cursor) : Step Json :=
    if after == 0 then
      match c.peek? with
      | some _ => .error (c.failAhead .invalidNumber)
      | none => .error (c.failAhead .eofValue)
    else afterFraction fuel positive sig (before + after) c

/-- A fraction, the cursor being at its `.`. -/
def readFraction (fuel : Nat) (positive : Bool) (sig : Nat) (before : Int) (c : Cursor) : Step Json :=
  fractionDigits positive before fuel sig 0 c.advance

/-- The end of an integer part: a fraction, an exponent, or an integer value. -/
def afterInteger (fuel : Nat) (positive : Bool) (sig : Nat) (c : Cursor) : Step Json :=
  match c.peek? with
  | some 46 => readFraction fuel positive sig 0 c
  | some 101 | some 69 => readExponent fuel positive sig 0 c
  | _ =>
    if positive then .ok (.int sig, c)
    else if sig == 0 then .ok (.float (-0.0), c)
    else if sig ≤ Nat.pow 2 63 then .ok (.int (-(sig : Int)), c)
    else .ok (.float (-(UInt64.ofNat sig).toFloat), c)

/-- Integer digits past the point where the significand is full: each one raises the exponent. -/
def longDigits (positive : Bool) (sig : Nat) : Nat → Int → Cursor → Step Json
  | 0, _, c => .error (c.fail .invalidNumber)
  | fuel + 1, exp, c =>
    match c.peek? with
    | some b =>
      if isDigit b then longDigits positive sig fuel (exp + 1) c.advance
      else if b == 46 then readFraction fuel positive sig exp c
      else if b == 101 || b == 69 then readExponent fuel positive sig exp c
      else fromParts positive sig exp c
    | none => fromParts positive sig exp c

/-- Integer digits after the first. -/
def integerDigits (positive : Bool) : Nat → Nat → Cursor → Step Json
  | 0, _, c => .error (c.fail .invalidNumber)
  | fuel + 1, sig, c =>
    match c.peek? with
    | some b =>
      if isDigit b then
        if overflowsU64 sig (digitVal b) then longDigits positive sig fuel 0 c
        else integerDigits positive fuel (sig * 10 + digitVal b) c.advance
      else afterInteger fuel positive sig c
    | none => afterInteger fuel positive sig c

/-- A number, the cursor being past its sign if it has one. -/
def readNumber (fuel : Nat) (positive : Bool) (c : Cursor) : Step Json :=
  match c.next? with
  | none => .error (c.fail .eofValue)
  | some (b, d) =>
    if b == 48 then
      match d.peek? with
      | some e => if isDigit e then .error (d.failAhead .invalidNumber) else afterInteger fuel positive 0 d
      | none => afterInteger fuel positive 0 d
    else if isDigit b then integerDigits positive fuel (digitVal b) d
    else .error (d.fail .invalidNumber)

/-! ### Strings -/

/-- The UTF-8 bytes of a code point, in reverse order. -/
def utf8Rev (n : Nat) : List UInt8 :=
  ((String.singleton (Char.ofNat n)).toUTF8.toList).reverse

/-- The value of a hex digit byte. -/
def hexVal (b : UInt8) : Option Nat :=
  if 48 ≤ b && b ≤ 57 then some (b.toNat - 48)
  else if 97 ≤ b && b ≤ 102 then some (b.toNat - 87)
  else if 65 ≤ b && b ≤ 70 then some (b.toNat - 55)
  else none

/-- Four hex digits of a `\u` escape. -/
def readHex4 (c : Cursor) : Except SyntaxError (Nat × Cursor) :=
  match c.rest with
  | a :: b :: d :: e :: _ =>
    let c' := c.advance.advance.advance.advance
    match hexVal a, hexVal b, hexVal d, hexVal e with
    | some w, some x, some y, some z => .ok (((w * 16 + x) * 16 + y) * 16 + z, c')
    | _, _, _, _ => .error (c'.fail .invalidEscape)
  | _ => .error (c.toEnd.fail .eofString)

/-- A `\u` escape, possibly a pair of surrogates; `acc` holds the bytes read so far,
reversed. -/
def readUnicode (acc : List UInt8) (c : Cursor) : Except SyntaxError (List UInt8 × Cursor) := do
  let (n, c) ← readHex4 c
  if 0xDC00 ≤ n && n ≤ 0xDFFF then throw (c.fail .loneLeadingSurrogate)
  if n < 0xD800 || n > 0xDBFF then return (utf8Rev n ++ acc, c)
  match c.peek? with
  | none => throw (c.fail .eofString)
  | some b =>
    if b != 92 then throw (c.advance.fail .unexpectedEndOfHexEscape)
    let c := c.advance
    match c.peek? with
    | none => throw (c.fail .eofString)
    | some u =>
      if u != 117 then throw (c.advance.fail .unexpectedEndOfHexEscape)
      let (n2, c) ← readHex4 c.advance
      if n2 < 0xDC00 || n2 > 0xDFFF then throw (c.fail .loneLeadingSurrogate)
      return (utf8Rev ((n - 0xD800) * 1024 + (n2 - 0xDC00) + 0x10000) ++ acc, c)

/-- One escape after a backslash. -/
def readEscape (acc : List UInt8) (c : Cursor) : Except SyntaxError (List UInt8 × Cursor) :=
  match c.next? with
  | none => .error (c.fail .eofString)
  | some (b, d) =>
    if b == 34 then .ok (34 :: acc, d)
    else if b == 92 then .ok (92 :: acc, d)
    else if b == 47 then .ok (47 :: acc, d)
    else if b == 98 then .ok (8 :: acc, d)
    else if b == 102 then .ok (12 :: acc, d)
    else if b == 110 then .ok (10 :: acc, d)
    else if b == 114 then .ok (13 :: acc, d)
    else if b == 116 then .ok (9 :: acc, d)
    else if b == 117 then readUnicode acc d
    else .error (d.fail .invalidEscape)

/-- The body of a string after its opening quote. -/
def readStringBody : Nat → List UInt8 → Cursor → Step String
  | 0, _, c => .error (c.fail .eofString)
  | fuel + 1, acc, c =>
    match c.next? with
    | none => .error (c.fail .eofString)
    | some (b, d) =>
      if b == 34 then
        .ok ((String.fromUTF8? (ByteArray.mk acc.reverse.toArray)).getD "", d)
      else if b == 92 then
        match readEscape acc d with
        | .ok (acc', d') => readStringBody fuel acc' d'
        | .error e => .error e
      else if b < 32 then .error (d.fail .controlCharacter)
      else readStringBody fuel (b :: acc) d

/-! ### Values -/

/-- Array items up to the closing bracket (not consumed). -/
def readItems (item : Cursor → Step Json) : Nat → Bool → List Json → Cursor → Step (List Json)
  | 0, _, _, c => .error (c.fail .eofList)
  | fuel + 1, first, acc, c =>
    let c := c.skip
    match c.peek? with
    | none => .error (c.failAhead .eofList)
    | some b =>
      if b == 93 then .ok (acc.reverse, c)
      else if first then
        match item c with
        | .ok (v, d) => readItems item fuel false (v :: acc) d
        | .error e => .error e
      else if b == 44 then
        let c2 := c.advance.skip
        match c2.peek? with
        | none => .error (c2.failAhead .eofValue)
        | some b2 =>
          if b2 == 93 then .error (c2.failAhead .trailingComma)
          else match item c2 with
            | .ok (v, d) => readItems item fuel false (v :: acc) d
            | .error e => .error e
      else .error (c.failAhead .expectedListCommaOrEnd)

/-- The colon between a key and its value. -/
def readColon (c : Cursor) : Except SyntaxError Cursor :=
  let c := c.skip
  match c.peek? with
  | some 58 => .ok c.advance
  | some _ => .error (c.failAhead .expectedColon)
  | none => .error (c.failAhead .eofObject)

/-- Object members up to the closing brace (not consumed). -/
def readMembers (item : Cursor → Step Json) :
    Nat → Bool → List (String × Json) → Cursor → Step (List (String × Json))
  | 0, _, _, c => .error (c.fail .eofObject)
  | fuel + 1, first, acc, c =>
    let c := c.skip
    match c.peek? with
    | none => .error (c.failAhead .eofObject)
    | some b =>
      if b == 125 then .ok (acc, c)
      else if b == 44 && !first then member fuel acc (c.advance.skip)
      else if first then member fuel acc c
      else .error (c.failAhead .expectedObjectCommaOrEnd)
where
  member (fuel : Nat) (acc : List (String × Json)) (c : Cursor) : Step (List (String × Json)) :=
    match c.peek? with
    | some 34 =>
      match readStringBody fuel [] c.advance with
      | .error e => .error e
      | .ok (k, d) =>
        match readColon d with
        | .error e => .error e
        | .ok d =>
          match item d with
          | .error e => .error e
          | .ok (v, d) => readMembers item fuel false (setField acc k v) d
    | some 125 => .error (c.failAhead .trailingComma)
    | some _ => .error (c.failAhead .keyMustBeString)
    | none => .error (c.failAhead .eofValue)

/-- A value; `budget` is how many containers may still open inside it plus one. -/
def readValue (fuel : Nat) : Nat → Cursor → Step Json
  | budget, c =>
    let c := c.skip
    match c.peek? with
    | none => .error (c.failAhead .eofValue)
    | some b =>
      if b == 110 then (readIdent [117, 108, 108] c.advance).map (fun d => (.null, d))
      else if b == 116 then (readIdent [114, 117, 101] c.advance).map (fun d => (.bool true, d))
      else if b == 102 then (readIdent [97, 108, 115, 101] c.advance).map (fun d => (.bool false, d))
      else if b == 45 then readNumber fuel false c.advance
      else if isDigit b then readNumber fuel true c
      else if b == 34 then readStringBody fuel [] c.advance |>.map (fun (s, d) => (.str s, d))
      else if b == 91 then
        match budget with
        | 0 | 1 => .error (c.failAhead .recursionLimit)
        | d + 2 =>
          match readItems (readValue fuel (d + 1)) fuel true [] c.advance with
          | .ok (xs, e) => .ok (.arr xs, e.advance)
          | .error err => .error err
      else if b == 123 then
        match budget with
        | 0 | 1 => .error (c.failAhead .recursionLimit)
        | d + 2 =>
          match readMembers (readValue fuel (d + 1)) fuel true [] c.advance with
          | .ok (fs, e) => .ok (.obj fs, e.advance)
          | .error err => .error err
      else .error (c.failAhead .expectedValue)

/-- Reads a whole text as one JSON value; only blanks may follow it. -/
def parse (text : String) : Except SyntaxError Json :=
  let c := Cursor.start text
  let fuel := c.rest.length + 2
  match readValue fuel 128 c with
  | .error e => .error e
  | .ok (v, d) =>
    let d := d.skip
    match d.peek? with
    | some _ => .error (d.failAhead .trailingCharacters)
    | none => .ok v

end QueryDoc.Json
