import QueryDoc.Decimal.Shortest
import QueryDoc.Store.Digits

/-!
Stored values and their text and number forms.

A value is null, a 64-bit integer, a double, a text or a byte string. No double stored or
computed is ever NaN: an operation whose result would be NaN gives null instead.

Texts become numbers by one scan. Blanks may surround the number; a sign, digits, an optional
point with digits and an optional exponent make it up. The scan keeps at most about nineteen
significant digits, the rest only moving the point. Its verdict says whether the whole text
is a number and whether it is written as a plain integer; a text that is not a number still
has the value of its longest numeric beginning.

The digits of a number in text become a double, and a double becomes text, as
`QueryDoc.Store.Digits` describes.
-/

namespace QueryDoc.Store

open Decimal

/-- A stored value. -/
inductive Datum where
  | null
  /-- An integer, always within the 64-bit signed range. -/
  | integer (n : Int)
  /-- A double, never NaN. -/
  | real (x : Float)
  | text (s : String)
  | blob (bytes : List UInt8)
  /-- A text whose bytes are not well-formed UTF-8, as `char` of a surrogate or a byte string
  read as text makes. -/
  | rawText (bytes : List UInt8)
  deriving Inhabited, Repr

/-- The least 64-bit signed integer. -/
def minInteger : Int := -9223372036854775808

/-- The greatest 64-bit signed integer. -/
def maxInteger : Int := 9223372036854775807

/-- Whether an integer fits in 64 signed bits. -/
def fitsInteger (n : Int) : Bool := minInteger ≤ n && n ≤ maxInteger

/-- The exact integer a double equals, when it is finite and integral. -/
def exactInt? (x : Float) : Option Int :=
  match FloatKind.of x with
  | .finite b =>
    let magnitude : Option Nat :=
      if b.exp2 ≥ 0 then some (b.mant * Nat.pow 2 b.exp2.toNat)
      else
        let den := Nat.pow 2 (-b.exp2).toNat
        if b.mant % den == 0 then some (b.mant / den) else none
    magnitude.map fun m => if b.negative then -(m : Int) else (m : Int)
  | _ => none

/-- The integer part of a double, toward zero, clamped to 64 signed bits. -/
def truncateToInteger (x : Float) : Int :=
  if x.isNaN then 0
  else if x ≤ -9223372036854775808.0 then minInteger
  else if x ≥ 9223372036854775807.0 then maxInteger
  else
    match FloatKind.of x with
    | .finite b =>
      let m : Nat :=
        if b.exp2 ≥ 0 then b.mant * Nat.pow 2 b.exp2.toNat else b.mant / Nat.pow 2 (-b.exp2).toNat
      if b.negative then -(m : Int) else (m : Int)
    | _ => 0

/-- The integer a double stands for when it is integral and strictly inside the 64-bit range;
such a double is stored as that integer where a column prefers numbers. -/
def integralValue? (x : Float) : Option Int :=
  match exactInt? x with
  | some n => if minInteger < n && n < maxInteger then some n else none
  | none => none

/-- The double nearest to an integer. -/
def intToFloat (n : Int) : Float := Float.ofInt n

/-! ### Numbers in text -/

/-- The blanks allowed around a number. -/
def isSpace (c : Char) : Bool :=
  c == ' ' || c == '\t' || c == '\n' || c == '\x0c' || c == '\r' || c == '\x0b'

/-- The digit value of a decimal digit. -/
def digitValue (c : Char) : Nat := c.toNat - '0'.toNat

/-- Significant digits stop being taken once the mantissa reaches this. -/
def mantissaCap : Nat := (18446744073709551615 - 9) / 10

/-- How much of a text a number scan took. -/
inductive NumberForm where
  /-- The whole text is a number; `integral` when it has neither point nor exponent. -/
  | whole (integral : Bool)
  /-- Only a beginning is a number, and it has a point or an exponent. -/
  | partialReal
  /-- The text is not a number; its value is that of its digits, if any. -/
  | notNumber
  deriving Repr, BEq, DecidableEq, Inhabited

/-- What a number scan found: the value of the longest numeric beginning, and its form. -/
structure NumberScan where
  value : Float
  form : NumberForm
  deriving Inhabited

/-- Takes integer digits into a mantissa; once it reaches the cap, further digits only move
the point. Returns the mantissa, the digits taken and the point shift. -/
def takeWholeDigits : List Char → Nat × Nat × Int → Nat × Nat × Int
  | [], acc => acc
  | c :: cs, (s, n, d) =>
    if s ≥ mantissaCap then takeWholeDigits cs (s, n, d + 1)
    else takeWholeDigits cs (s * 10 + digitValue c, n + 1, d)

/-- Takes fraction digits into a mantissa while it is below the cap. -/
def takeFractionDigits : List Char → Nat × Nat × Int → Nat × Nat × Int
  | [], acc => acc
  | c :: cs, (s, n, d) =>
    if s < mantissaCap then takeFractionDigits cs (s * 10 + digitValue c, n + 1, d - 1)
    else takeFractionDigits cs (s, n, d)

/-- Reads exponent digits, saturating at 10000. -/
def exponentValue (ds : List Char) : Nat :=
  ds.foldl (fun e c => if e < 10000 then e * 10 + digitValue c else 10000) 0

/-- Scans a text for a number. -/
def scanNumber (s : String) : NumberScan :=
  let cs := s.toList.dropWhile isSpace
  if cs.isEmpty then ⟨0.0, .notNumber⟩
  else
    let (negative, cs) := match cs with
      | '-' :: r => (true, r)
      | '+' :: r => (false, r)
      | r => (false, r)
    let whole := cs.takeWhile Char.isDigit
    let cs := cs.dropWhile Char.isDigit
    let (m, n, d) := takeWholeDigits whole (0, 0, 0)
    -- a point and its fraction
    let (pointSeen, m, n, d, cs) := match cs with
      | '.' :: r =>
        let frac := r.takeWhile Char.isDigit
        let (m, n, d) := takeFractionDigits frac (m, n, d)
        (true, m, n, d, r.dropWhile Char.isDigit)
      | r => (false, m, n, d, r)
    -- an exponent: `e`, an optional sign and digits
    let (expSeen, expValid, e, cs) := match cs with
      | c :: r =>
        if c == 'e' || c == 'E' then
          let (esign, r) := match r with
            | '-' :: r' => (-1, r')
            | '+' :: r' => (1, r')
            | r' => (1, r')
          let eds := r.takeWhile Char.isDigit
          (true, !eds.isEmpty, esign * (exponentValue eds : Int), r.dropWhile Char.isDigit)
        else (false, true, (0 : Int), c :: r)
      | [] => (false, true, (0 : Int), [])
    let rest := cs.dropWhile isSpace
    let kind : Nat := 1 + (if pointSeen then 1 else 0) + (if expSeen then 1 else 0)
    let magnitude := decimalToFloat m (e + d)
    let value := if negative then -magnitude else magnitude
    let form :=
      if rest.isEmpty && n > 0 && expValid then .whole (kind == 1)
      else if kind ≥ 2 && (kind == 3 || expValid) && n > 0 then .partialReal
      else .notNumber
    ⟨value, form⟩

/-- How a text reads as a 64-bit integer. -/
inductive IntegerForm where
  /-- The whole text is an integer that fits. -/
  | exact (n : Int)
  /-- Digits that fit, followed by other text, or no digits at all (value 0). -/
  | leading (n : Int)
  /-- Digits too large for 64 bits; the value is clamped. -/
  | tooLarge (clamped : Int)
  deriving Repr, BEq, Inhabited

/-- Reads a text as a 64-bit integer: blanks, a sign, digits, then only blanks. -/
def scanInteger (s : String) : IntegerForm :=
  let cs := s.toList.dropWhile isSpace
  let (negative, cs) := match cs with
    | '-' :: r => (true, r)
    | '+' :: r => (false, r)
    | r => (false, r)
  let digits := cs.takeWhile Char.isDigit
  let rest := cs.dropWhile Char.isDigit
  let magnitude := digits.foldl (fun acc c => acc * 10 + digitValue c) 0
  let value : Int := if negative then -(magnitude : Int) else magnitude
  if !fitsInteger value then .tooLarge (if negative then minInteger else maxInteger)
  else if digits.isEmpty || !(rest.all isSpace) then .leading value
  else .exact value

/-- The value of the longest numeric beginning of a text, as arithmetic reads it: an integer
when the text is an integer or only integer digits begin it, a double otherwise. -/
def numericOfText (s : String) : Datum :=
  let scan := scanNumber s
  match scan.form with
  | .whole true =>
    match scanInteger s with
    | .exact n => .integer n
    | _ => .real scan.value
  | .whole false | .partialReal => .real scan.value
  | .notNumber =>
    match scanInteger s with
    | .exact n | .leading n => .integer n
    | .tooLarge _ => .real scan.value

/-- The number a text stands for when the whole text is one: an integer when it is written
as an integer that fits, a double otherwise. -/
def numberOfText? (s : String) : Option Datum :=
  let scan := scanNumber s
  match scan.form with
  | .whole true =>
    match scanInteger s with
    | .exact n => some (.integer n)
    | _ => some (.real scan.value)
  | .whole false => some (.real scan.value)
  | _ => none

/-- The bytes of a text. -/
def textBytes (s : String) : List UInt8 := s.toUTF8.toList

/-- Whether a byte continues a multibyte character. -/
def isContinuation (b : UInt8) : Bool := 0x80 ≤ b && b ≤ 0xBF

/-- The bytes at the head of a byte string that make one piece of its reading as UTF-8: how
many, and whether they are a well-formed character. An ill-formed piece is as long as the
longest beginning of a well-formed character it has, and at least one byte long. -/
def utf8Piece : List UInt8 → Nat × Bool
  | [] => (0, true)
  | b :: rest =>
    let within (k : Nat) (lo hi : UInt8) : Bool :=
      match rest[k]? with
      | some c => lo ≤ c && c ≤ hi
      | none => false
    if b < 0x80 then (1, true)
    else if 0xC2 ≤ b && b ≤ 0xDF then
      if within 0 0x80 0xBF then (2, true) else (1, false)
    else if 0xE0 ≤ b && b ≤ 0xEF then
      let (lo, hi) : UInt8 × UInt8 :=
        if b == 0xE0 then (0xA0, 0xBF) else if b == 0xED then (0x80, 0x9F) else (0x80, 0xBF)
      if !within 0 lo hi then (1, false)
      else if within 1 0x80 0xBF then (3, true) else (2, false)
    else if 0xF0 ≤ b && b ≤ 0xF4 then
      let (lo, hi) : UInt8 × UInt8 :=
        if b == 0xF0 then (0x90, 0xBF) else if b == 0xF4 then (0x80, 0x8F) else (0x80, 0xBF)
      if !within 0 lo hi then (1, false)
      else if !within 1 0x80 0xBF then (2, false)
      else if within 2 0x80 0xBF then (4, true) else (3, false)
    else (1, false)

/-- The characters of a byte string read as UTF-8, each ill-formed piece read as U+FFFD. -/
def lossyChars : Nat → List UInt8 → List Char
  | 0, _ => []
  | _, [] => []
  | fuel + 1, bytes@(_ :: _) =>
    let (n, ok) := utf8Piece bytes
    let n := max n 1
    let c : Char :=
      if ok then
        match String.fromUTF8? (ByteArray.mk (bytes.take n).toArray) with
        | some s => s.front
        | none => '\uFFFD'
      else '\uFFFD'
    c :: lossyChars fuel (bytes.drop n)

/-- A byte string read as text; each ill-formed piece becomes one replacement character. -/
def bytesText (bytes : List UInt8) : String :=
  match String.fromUTF8? (ByteArray.mk bytes.toArray) with
  | some s => s
  | none => String.ofList (lossyChars bytes.length bytes)

/-- The characters of a text's bytes as the database counts them: a byte from `0xC0` up starts
a character that takes every continuation byte after it, and any other byte is a character
of its own. -/
def laxPieces : Nat → List UInt8 → List (List UInt8)
  | 0, _ => []
  | _, [] => []
  | fuel + 1, b :: rest =>
    if b ≥ 0xC0 then
      let tail := rest.takeWhile isContinuation
      (b :: tail) :: laxPieces fuel (rest.drop tail.length)
    else [b] :: laxPieces fuel rest

/-- The code point the database reads from one of its characters: ill-formed ones, overlong
ones, surrogates and the two last code points of a plane read as U+FFFD. -/
def laxCodePoint : List UInt8 → Nat
  | [] => 0
  | b :: rest =>
    if b < 0xC0 then b.toNat
    else
      let lead : Nat :=
        if b < 0xE0 then b.toNat - 0xC0 else if b < 0xF0 then b.toNat - 0xE0
        else if b < 0xF8 then b.toNat - 0xF0 else if b < 0xFC then b.toNat - 0xF8
        else if b < 0xFE then b.toNat - 0xFC else 0
      let c := rest.foldl (fun acc x => (acc * 64 + (x.toNat % 64)) % Nat.pow 2 32) lead
      if c < 0x80 || c / 0x800 == 0xD800 / 0x800 || c / 2 == 0xFFFE / 2 then 0xFFFD else c

namespace Datum

/-- A text from its bytes: `rawText` when they are not well-formed UTF-8. -/
def ofTextBytes (bytes : List UInt8) : Datum :=
  match String.fromUTF8? (ByteArray.mk bytes.toArray) with
  | some s => .text s
  | none => .rawText bytes

/-- The bytes of a text value. -/
def textBytes? : Datum → Option (List UInt8)
  | .text s => some (textBytes s)
  | .rawText bs => some bs
  | _ => none

/-- The bytes a value has as text: a byte string's own bytes, null none. -/
def asTextBytes : Datum → List UInt8
  | .null => []
  | .text s => textBytes s
  | .blob bs | .rawText bs => bs
  | .integer n => textBytes (toString n)
  | .real x => textBytes (realText x)

/-- Whether the value is text whose bytes are not UTF-8 or a byte string, whose bytes joined
to other text may not be UTF-8. -/
def hasLooseBytes : Datum → Bool
  | .blob _ | .rawText _ => true
  | _ => false

/-- Texts joined end to end: by their bytes when any of them may not be UTF-8. -/
def joinTexts (parts : List Datum) : Datum :=
  if parts.any hasLooseBytes then ofTextBytes (parts.flatMap asTextBytes)
  else .text (String.join (parts.map fun d => match d with
    | .text s => s
    | .integer n => toString n
    | .real x => realText x
    | _ => ""))

/-- Whether the value is null. -/
def isNull : Datum → Bool
  | .null => true
  | _ => false

/-- The text of a value; null has none. -/
def toText? : Datum → Option String
  | .null => none
  | .integer n => some (toString n)
  | .real x => some (realText x)
  | .text s => some s
  | .blob bs | .rawText bs => some (bytesText bs)

/-- The text of a value, null reading as the empty text. -/
def toText (d : Datum) : String := d.toText?.getD ""

/-- The value as a number for arithmetic; null stays null. -/
def toNumeric : Datum → Datum
  | .null => .null
  | .integer n => .integer n
  | .real x => .real x
  | .text s => numericOfText s
  | .blob bs | .rawText bs => numericOfText (bytesText bs)

/-- The value as a double; null reads as zero. -/
def toReal (d : Datum) : Float :=
  match d with
  | .integer n => intToFloat n
  | .real x => x
  | .text s => (scanNumber s).value
  | .blob bs | .rawText bs => (scanNumber (bytesText bs)).value
  | .null => 0.0

/-- The value as a 64-bit integer; doubles are cut toward zero and null reads as zero. -/
def toInteger (d : Datum) : Int :=
  match d with
  | .integer n => n
  | .real x => truncateToInteger x
  | .text s =>
    match scanInteger s with
    | .exact n | .leading n | .tooLarge n => n
  | .blob bs | .rawText bs =>
    match scanInteger (bytesText bs) with
    | .exact n | .leading n | .tooLarge n => n
  | .null => 0

/-- A double as a value: NaN becomes null. -/
def ofReal (x : Float) : Datum := if x.isNaN then .null else .real x

/-- The truth of a value: numbers are true when not zero, texts by their numeric beginning;
null is unknown. -/
def truth? : Datum → Option Bool
  | .null => none
  | .integer n => some (n != 0)
  | .real x => some (x != 0.0)
  | d => some (d.toReal != 0.0)

/-- A truth value as a value: 1, 0 or null. -/
def ofTruth : Option Bool → Datum
  | some true => .integer 1
  | some false => .integer 0
  | none => .null

/-- The name of the value's storage class. -/
def typeName : Datum → String
  | .null => "null"
  | .integer _ => "integer"
  | .real _ => "real"
  | .text _ | .rawText _ => "text"
  | .blob _ => "blob"

/-- The characters of a text value, an ill-formed piece of a byte text read as U+FFFD. -/
def textChars : Datum → List Char
  | .rawText bs => lossyChars bs.length bs
  | d => d.toText.toList

end Datum

/-- How a database stores its text: as UTF-8, or as UTF-16 with the low byte of each unit
first or last. -/
inductive TextEncoding where | utf8 | utf16le | utf16be
  deriving DecidableEq, Repr, Inhabited

namespace TextEncoding

/-- The two bytes of a UTF-16 unit, the high one first when `bigEndian`. -/
def unitBytes (bigEndian : Bool) (u : Nat) : List UInt8 :=
  let hi := (u / 256 % 256).toUInt8
  let lo := (u % 256).toUInt8
  if bigEndian then [hi, lo] else [lo, hi]

/-- The UTF-16 units of a character: one, or a pair of surrogates beyond the first 65536. -/
def units (c : Char) : List Nat :=
  let v := c.toNat
  if v < 0x10000 then [v]
  else
    let w := v - 0x10000
    [0xD800 + w / 1024, 0xDC00 + w % 1024]

/-- The bytes of a text in an encoding. -/
def encode (enc : TextEncoding) (chars : List Char) : List UInt8 :=
  match enc with
  | .utf8 => textBytes (String.ofList chars)
  | .utf16le => chars.flatMap fun c => (units c).flatMap (unitBytes false)
  | .utf16be => chars.flatMap fun c => (units c).flatMap (unitBytes true)

/-- The bytes a text value has in an encoding; a byte text in UTF-8 keeps its own bytes. -/
def bytesOf (enc : TextEncoding) (d : Datum) : List UInt8 :=
  match enc, d with
  | .utf8, .rawText bs => bs
  | _, d => enc.encode d.textChars

/-- The UTF-8 bytes of a code point, written out even for a surrogate. -/
def utf8Of (c : Nat) : List UInt8 :=
  if c < 0x80 then [c.toUInt8]
  else if c < 0x800 then [(0xC0 + c / 64).toUInt8, (0x80 + c % 64).toUInt8]
  else if c < 0x10000 then
    [(0xE0 + c / 4096).toUInt8, (0x80 + c / 64 % 64).toUInt8, (0x80 + c % 64).toUInt8]
  else
    [(0xF0 + c / 262144 % 8).toUInt8, (0x80 + c / 4096 % 64).toUInt8, (0x80 + c / 64 % 64).toUInt8,
     (0x80 + c % 64).toUInt8]

/-- The units of UTF-16 bytes, two bytes each; an odd last byte is dropped. -/
def unitsOf (bigEndian : Bool) : List UInt8 → List Nat
  | a :: b :: rest =>
    (if bigEndian then a.toNat * 256 + b.toNat else b.toNat * 256 + a.toNat) :: unitsOf bigEndian rest
  | _ => []

/-- The code points of UTF-16 units: a surrogate joins the unit after it, whatever that is,
and a surrogate at the end stands alone. -/
def codePoints : List Nat → List Nat
  | [] => []
  | [c] => [c]
  | c :: c2 :: rest =>
    if 0xD800 ≤ c && c < 0xE000 then
      (c2 % 1024 + c % 64 * 1024 + (c / 64 % 16 * 64 + 64) * 1024) :: codePoints rest
    else c :: codePoints (c2 :: rest)

/-- A text read from bytes in an encoding. -/
def decode (enc : TextEncoding) (bytes : List UInt8) : Datum :=
  match enc with
  | .utf8 => Datum.ofTextBytes bytes
  | .utf16le => Datum.ofTextBytes ((codePoints (unitsOf false bytes)).flatMap utf8Of)
  | .utf16be => Datum.ofTextBytes ((codePoints (unitsOf true bytes)).flatMap utf8Of)

end TextEncoding

end QueryDoc.Store
