import QueryDoc.Store.Datum

/-!
Column preferences and the order of values.

Every column prefers a kind of value, read from its declared type: a type naming `INT` prefers
integers; else one naming `CHAR`, `CLOB` or `TEXT` prefers text; else `BLOB` or no type at all
takes values as they come; else `REAL`, `FLOA` or `DOUB` prefers doubles; anything else
prefers numbers. A value is converted on its way into a column: texts that are numbers become
numbers in the numeric columns, integral doubles become integers there, and numbers become
text in the text columns. A double column hands every number back as a double.

Values are ordered by kind first (null, then numbers, then texts, then byte strings), numbers
by their exact value, texts and byte strings by their bytes.

A comparison between two expressions may convert its operands first. When both sides come
from columns, numbers are preferred if either column prefers them; when only one side does,
its preference rules. Preferring numbers turns numeric texts into numbers; preferring text
turns numbers into text when the other side is text.

Texts are compared under a collation: `BINARY` compares bytes, `NOCASE` folds the ASCII
letters to lower case first, and `RTRIM` ignores spaces at the ends of both texts.
-/

namespace QueryDoc.Store

open Decimal

/-- The kind of value a column prefers. -/
inductive Affinity where
  | blob
  | text
  | numeric
  | integer
  | real
  deriving Repr, BEq, DecidableEq, Inhabited

namespace Affinity

/-- Whether the preference is for numbers. -/
def isNumeric : Affinity → Bool
  | .numeric | .integer | .real => true
  | _ => false

/-- One step of reading a declared type: the last four letters seen and the preference so
far; `INT` ends the reading. -/
def scanType : List Char → String → Affinity → Affinity
  | [], _, aff => aff
  | c :: cs, window, aff =>
    let w := (window.push c.toLower)
    let w := if w.length > 4 then String.ofList (w.toList.drop (w.length - 4)) else w
    let last3 := String.ofList (w.toList.drop (w.length - 3))
    if w == "char" || w == "clob" || w == "text" then scanType cs w .text
    else if w == "blob" && (aff == .numeric || aff == .real) then scanType cs w .blob
    else if (w == "real" || w == "floa" || w == "doub") && aff == .numeric then
      scanType cs w .real
    else if last3 == "int" then .integer
    else scanType cs w aff

/-- The preference of a declared type; no type at all takes values as they come. -/
def ofType (declared : Option String) : Affinity :=
  match declared with
  | none => .blob
  | some t => scanType t.toList "" .numeric

end Affinity

namespace Datum

/-- A text that is a number becomes that number; an integral double in range becomes an
integer. Other values are kept. -/
def preferNumber : Datum → Datum
  | .text s =>
    match numberOfText? s with
    | some (.real x) =>
      match integralValue? x with
      | some n => .integer n
      | none => .real x
    | some d => d
    | none => .text s
  | .real x =>
    match integralValue? x with
    | some n => .integer n
    | none => .real x
  | d => d

/-- A number becomes its text; other values are kept. -/
def preferText : Datum → Datum
  | .integer n => .text (toString n)
  | .real x => .text (realText x)
  | d => d

/-- The value as stored in a column of the given preference. -/
def store (aff : Affinity) (d : Datum) : Datum :=
  match aff with
  | .blob => d
  | .text => d.preferText
  | .numeric | .integer => d.preferNumber
  | .real =>
    match d.preferNumber with
    | .integer n => .real (intToFloat n)
    | other => other

/-- The value converted as a type name asks: the conversion of a cast. -/
def cast (aff : Affinity) (d : Datum) : Datum :=
  match d with
  | .null => .null
  | _ =>
    match aff with
    | .blob =>
      match d with
      | .blob bs | .rawText bs => .blob bs
      | other => .blob (textBytes other.toText)
    | .text =>
      match d with
      | .blob bs => Datum.ofTextBytes bs
      | .rawText bs => .rawText bs
      | other => .text other.toText
    | .integer => .integer d.toInteger
    | .real => .real d.toReal
    | .numeric =>
      match d with
      | .integer n => .integer n
      | .real x => .real x
      | other =>
        match numericOfText other.toText with
        | .real x =>
          match integralValue? x with
          | some n => .integer n
          | none => .real x
        | n => n

/-- The rank of a value's kind in the order of values. -/
def rank : Datum → Nat
  | .null => 0
  | .integer _ | .real _ => 1
  | .text _ | .rawText _ => 2
  | .blob _ => 3

end Datum

/-- Orders an integer against a double exactly. -/
def compareIntReal (n : Int) (x : Float) : Ordering :=
  match FloatKind.of x with
  | .infinite neg => if neg then .gt else .lt
  | .nan => .gt
  | .finite b =>
    let m : Int := if b.negative then -(b.mant : Int) else b.mant
    if b.exp2 ≥ 0 then compare n (m * Int.pow 2 b.exp2.toNat)
    else compare (n * Int.pow 2 (-b.exp2).toNat) m

/-- Orders two lists of bytes. -/
def compareBytes : List UInt8 → List UInt8 → Ordering
  | [], [] => .eq
  | [], _ :: _ => .lt
  | _ :: _, [] => .gt
  | a :: as, b :: bs => if a < b then .lt else if b < a then .gt else compareBytes as bs

/-- Orders two doubles; neither is NaN. -/
def compareReal (x y : Float) : Ordering :=
  if x < y then .lt else if y < x then .gt else .eq

namespace Datum

/-- The order of values. -/
def compare (a b : Datum) : Ordering :=
  match a, b with
  | .integer m, .integer n => Ord.compare m n
  | .integer m, .real y => compareIntReal m y
  | .real x, .integer n => (compareIntReal n x).swap
  | .real x, .real y => compareReal x y
  | .text s, .text t => compareBytes (textBytes s) (textBytes t)
  | .blob s, .blob t => compareBytes s t
  | _, _ =>
    match a.textBytes?, b.textBytes? with
    | some s, some t => compareBytes s t
    | _, _ => Ord.compare a.rank b.rank

/-- Whether two values are the same in the order of values. -/
def same (a b : Datum) : Bool := a.compare b == .eq

end Datum

/-- How texts are compared. -/
inductive Collation where
  | binary
  | nocase
  | rtrim
  /-- A collation named in a statement that no collation has; it orders as `binary`, and a
  statement that compares under it fails. -/
  | missing (name : String)
  deriving Repr, BEq, DecidableEq, Inhabited

namespace Collation

/-- The collation a name stands for, in any case. -/
def ofName? (name : String) : Option Collation :=
  let n := String.ofList (name.toList.map Char.toLower)
  if n == "binary" then some .binary
  else if n == "nocase" then some .nocase
  else if n == "rtrim" then some .rtrim
  else none

/-- The collation's name as the schema reports it. -/
def name : Collation → String
  | .binary => "BINARY"
  | .nocase => "NOCASE"
  | .rtrim => "RTRIM"
  | .missing n => n

/-- ASCII upper case letters as lower case, on one byte. -/
def foldByte (b : UInt8) : UInt8 := if 65 ≤ b && b ≤ 90 then b + 32 else b

/-- Drops trailing spaces. -/
def dropTrailingSpaces (bs : List UInt8) : List UInt8 := (bs.reverse.dropWhile (· == 32)).reverse

/-- Orders the bytes of two texts. -/
def compareTextBytes (c : Collation) (s t : List UInt8) : Ordering :=
  match c with
  | .binary | .missing _ => compareBytes s t
  | .nocase => compareBytes (s.map foldByte) (t.map foldByte)
  | .rtrim => compareBytes (dropTrailingSpaces s) (dropTrailingSpaces t)

/-- Orders two texts. -/
def compareText (c : Collation) (s t : String) : Ordering := c.compareTextBytes (textBytes s) (textBytes t)

end Collation

namespace Datum

/-- The order of values, texts compared under a collation. -/
def compareWith (c : Collation) (a b : Datum) : Ordering :=
  match a, b with
  | .text s, .text t => c.compareText s t
  | _, _ =>
    match a.textBytes?, b.textBytes? with
    | some s, some t => c.compareTextBytes s t
    | _, _ => a.compare b

/-- Whether two values are the same under a collation. -/
def sameWith (c : Collation) (a b : Datum) : Bool := a.compareWith c b == .eq

end Datum

/-- The conversion a comparison applies to both sides, from the preferences of the two
sides' columns. -/
def comparisonAffinity (left right : Option Affinity) : Option Affinity :=
  match left, right with
  | some l, some r => if l.isNumeric || r.isNumeric then some .numeric else none
  | some l, none => some l
  | none, some r => some r
  | none, none => none

/-- A text that is a number becomes that number, without turning doubles into integers. -/
def Datum.numberIfNumeric : Datum → Datum
  | .text s => (numberOfText? s).getD (.text s)
  | d => d

/-- Converts both sides of a comparison as the comparison's preference says. -/
def prepareComparison (aff : Option Affinity) (a b : Datum) : Datum × Datum :=
  match aff with
  | some a' =>
    if a'.isNumeric then (a.numberIfNumeric, b.numberIfNumeric)
    else if a' == .text then
      match a, b with
      | .text _, _ | _, .text _ | .rawText _, _ | _, .rawText _ => (a.preferText, b.preferText)
      | _, _ => (a, b)
    else (a, b)
  | none => (a, b)

end QueryDoc.Store
