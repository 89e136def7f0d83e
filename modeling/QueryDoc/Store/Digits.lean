import QueryDoc.Decimal.Shortest

/-!
Decimal digits and doubles, both ways.

Both directions compute in the 80-bit extended format: a 64-bit significand with an exponent
wide enough that nothing here overflows or underflows, each product rounded to the nearest
64-bit significand, ties to even.

A number read from text is a decimal significand of at most about twenty digits and a power
of ten. The significand is taken exactly and multiplied by 10^100, 10^10 and 10 (or 10^-100,
10^-10 and 10^-1, each itself rounded to 64 bits) as often as the exponent needs; the result
is then rounded to a double. The two roundings make this differ now and then from the nearest
double, and it is the value every number read from text takes.

Printing runs the other way: the double is scaled by the same powers of ten until it lies in
[10^17, 10^19), and the integer part of the result, with the number of powers used, gives the
digits of the double. The digits are then rounded, half up, to the places the format asks for.
-/

namespace QueryDoc.Store

/-- A positive number `mant · 2^exp` with a 64-bit significand: `2^63 ≤ mant < 2^64`. -/
structure Extended where
  mant : Nat
  exp : Int
  deriving Inhabited, Repr

namespace Extended

/-- Rounds `n · 2^e`, plus a nonzero amount below its last bit when `sticky`, to a 64-bit
significand, to nearest with ties to even; `n` is positive. -/
def round (n : Nat) (e : Int) (sticky : Bool) : Extended :=
  let bits := n.log2 + 1
  if bits ≤ 64 then ⟨n * Nat.pow 2 (64 - bits), e - ((64 - bits : Nat) : Int)⟩
  else
    let shift := bits - 64
    let q := n / Nat.pow 2 shift
    let r := n % Nat.pow 2 shift
    let half := Nat.pow 2 (shift - 1)
    let up := r > half || (r == half && (sticky || q % 2 == 1))
    let q := if up then q + 1 else q
    if q == Nat.pow 2 64 then ⟨Nat.pow 2 63, e + shift + 1⟩ else ⟨q, e + shift⟩

/-- The nearest extended number to `num / den`, both positive. -/
def ofRatio (num den : Nat) : Extended :=
  -- enough quotient bits that the rounding is decided by the quotient and a sticky bit
  let k := den.log2 + 68 - min (num.log2) (den.log2 + 68)
  let scaled := num * Nat.pow 2 k
  round (scaled / den) (-(k : Int)) (scaled % den != 0)

/-- `10^k` as an extended number. -/
def tenPow (k : Nat) : Extended := round (Nat.pow 10 k) 0 false

/-- `10^-k` as an extended number. -/
def tenPowNeg (k : Nat) : Extended := ofRatio 1 (Nat.pow 10 k)

/-- The largest finite double. -/
def maxDouble : Extended := ⟨(Nat.pow 2 53 - 1) * Nat.pow 2 11, 960⟩

/-- The product, rounded. -/
def mul (a b : Extended) : Extended := round (a.mant * b.mant) (a.exp + b.exp) false

/-- Whether `a < b`. -/
def lt (a b : Extended) : Bool := if a.exp == b.exp then a.mant < b.mant else a.exp < b.exp

/-- The integer part. -/
def floor (a : Extended) : Nat :=
  if a.exp ≥ 0 then a.mant * Nat.pow 2 a.exp.toNat else a.mant / Nat.pow 2 (-a.exp).toNat

/-- A positive finite double, exactly. -/
def ofFloat (x : Float) : Extended :=
  let bits := x.toBits
  let biased := ((bits >>> 52) &&& 0x7ff).toNat
  let frac := (bits &&& 0xfffffffffffff).toNat
  if biased == 0 then round frac (-1074) false
  else round (frac + Nat.pow 2 52) ((biased : Int) - 1075) false

/-- The double nearest to an extended number, to nearest with ties to even; past the largest
double it is infinite, and below the smallest normal double it keeps the bits a subnormal
has. -/
def toFloat (a : Extended) : Float :=
  -- the place of the last bit kept: 53 significant bits, but never below 2^-1074
  let top := a.exp + 63
  let last := max (top - 52) (-1074)
  let shift := last - a.exp
  let q : Nat :=
    if shift ≤ 0 then a.mant * Nat.pow 2 (-shift).toNat
    else
      let s := shift.toNat
      let q := a.mant / Nat.pow 2 s
      let r := a.mant % Nat.pow 2 s
      let half := Nat.pow 2 (s - 1)
      if r > half || (r == half && q % 2 == 1) then q + 1 else q
  if top > 1023 then Float.ofBits 0x7ff0000000000000
  else Float.scaleB q.toUInt64.toFloat last

end Extended

/-- Multiplies by a power of ten `k` times. -/
def mulTimes (ten : Extended) (k : Nat) (x : Extended) : Extended :=
  Nat.repeat (fun y => y.mul ten) k x

/-- Moves factors of ten from the exponent into the significand while it stays below
`2^64 / 10`, and trailing zeros of the significand into a negative exponent. -/
def normalizeDecimal : Nat → Nat → Int → Nat × Int
  | 0, s, e => (s, e)
  | fuel + 1, s, e =>
    if e > 0 && s < 1844674407370955161 then normalizeDecimal fuel (s * 10) (e - 1)
    else if e < 0 && s % 10 == 0 then normalizeDecimal fuel (s / 10) (e + 1)
    else (s, e)

/-- The double for `s · 10^e`, where `s` is below 2^64. -/
def decimalToFloat (s : Nat) (e : Int) : Float :=
  if s == 0 then 0.0
  else
    let (s, e) := normalizeDecimal 64 s e
    let k := e.natAbs
    let r := Extended.round s 0 false
    let r :=
      if e > 0 then
        mulTimes (.tenPow 1) (k % 10) (mulTimes (.tenPow 10) (k % 100 / 10)
          (mulTimes (.tenPow 100) (k / 100) r))
      else
        mulTimes (.tenPowNeg 1) (k % 10) (mulTimes (.tenPowNeg 10) (k % 100 / 10)
          (mulTimes (.tenPowNeg 100) (k / 100) r))
    if Extended.maxDouble.lt r then Float.ofBits 0x7ff0000000000000 else r.toFloat

/-- Multiplies by a power of ten while the value satisfies `p`, counting the steps; `fuel`
bounds the steps. -/
def scaleWhile (p : Extended → Bool) (ten : Extended) : Nat → Extended × Nat → Extended × Nat
  | 0, acc => acc
  | fuel + 1, (x, k) => if p x then scaleWhile p ten fuel (x.mul ten, k + 1) else (x, k)

/-- The significant digits of a positive double and the place of its decimal point: the value
is `0.d₁d₂… · 10^point`. No digit list ends in a zero. -/
structure DecimalDigits where
  digits : List Char
  point : Int
  deriving Inhabited, Repr

/-- Adds one to the last digit of a list given last digit first, carrying; returns the new
digits (last first) and whether the carry ran off the front. -/
def carryUp : List Char → List Char × Bool
  | [] => ([], true)
  | d :: ds =>
    if d == '9' then
      let (rest, carried) := carryUp ds
      ('0' :: rest, carried)
    else (Char.ofNat (d.toNat + 1) :: ds, false)

/-- Drops trailing zeros. -/
def dropTrailingZeros (ds : List Char) : List Char :=
  (ds.reverse.dropWhile (· == '0')).reverse

/-- Rounds digits to `keep` of them, half up on the next digit. -/
def roundDigits (d : DecimalDigits) (keep : Nat) : DecimalDigits :=
  let kept := d.digits.take keep
  match d.digits[keep]? with
  | some next =>
    if next ≥ '5' then
      let (up, carried) := carryUp kept.reverse
      if carried then ⟨'1' :: up.reverse, d.point + 1⟩ else ⟨up.reverse, d.point⟩
    else ⟨kept, d.point⟩
  | none => ⟨kept, d.point⟩

/-- The digits of a positive finite double, rounded to `round` significant digits when it is
positive, or to `-round` places after the point when it is zero or negative, and to at most
`most` digits in any case. -/
def decodeDigits (r : Float) (round : Int) (most : Nat) : DecimalDigits :=
  let x := Extended.ofFloat r
  let ((x, shift) : Extended × Int) :=
    if !(x.lt (.tenPow 19)) then
      let a := scaleWhile (fun y => !(y.lt (.tenPow 119))) (.tenPowNeg 100) 64 (x, 0)
      let b := scaleWhile (fun y => !(y.lt (.tenPow 29))) (.tenPowNeg 10) 64 (a.1, 0)
      let c := scaleWhile (fun y => !(y.lt (.tenPow 19))) (.tenPowNeg 1) 64 (b.1, 0)
      (c.1, ((100 * a.2 + 10 * b.2 + c.2 : Nat) : Int))
    else
      let a := scaleWhile (·.lt (.tenPowNeg 97)) (.tenPow 100) 64 (x, 0)
      let b := scaleWhile (·.lt (.tenPow 7)) (.tenPow 10) 64 (a.1, 0)
      let c := scaleWhile (·.lt (.tenPow 17)) (.tenPow 1) 64 (b.1, 0)
      (c.1, -((100 * a.2 + 10 * b.2 + c.2 : Nat) : Int))
  let v := x.floor
  let ds := (toString v).toList
  let d : DecimalDigits := ⟨ds, ds.length + shift⟩
  -- places after the point become a digit count; rounding just before the first digit
  let (d, round) :=
    if round ≤ 0 then
      let k := d.point - round
      if k == 0 && (ds.head?.getD '0') ≥ '5' then (⟨'0' :: ds, d.point + 1⟩, (1 : Int))
      else (d, k)
    else (d, round)
  let d :=
    if round > 0 && (round < d.digits.length || d.digits.length > most) then
      roundDigits d (min round.toNat most)
    else d
  ⟨dropTrailingZeros d.digits, d.point⟩

/-- How a double is written by a format: fixed point (`f`), scientific (`e`) or whichever
suits the value (`g`). -/
inductive RealStyle where
  | fixed
  | scientific
  | general
  deriving Repr, BEq, DecidableEq, Inhabited

/-- The options of a format for a double. -/
structure RealFormat where
  style : RealStyle
  /-- Digits after the point, or significant digits for `general`; six when not given. -/
  precision : Option Nat := none
  /-- Whether the exponent letter is a capital. -/
  upper : Bool := false
  /-- `#`: always a point, and trailing zeros kept by `general`. -/
  alternate : Bool := false
  /-- `!`: up to 26 significant digits instead of 16, trailing zeros dropped, and a digit
  always after the point. -/
  extended : Bool := false
  /-- A sign to show before a positive number: `+` or a blank. -/
  signChar : Option Char := none
  /-- `,`: commas between groups of three digits before the point. -/
  thousands : Bool := false
  /-- `0`: zeros after the sign up to the width. -/
  zeroPad : Bool := false
  leftJustify : Bool := false
  width : Nat := 0
  deriving Inhabited

/-- The exponent of a scientific text: the letter, the sign and at least two digits. -/
def exponentPart (upper : Bool) (e : Int) : String :=
  let n := e.natAbs
  let digits := if n ≥ 100 then toString n else String.ofList [Char.ofNat (48 + n / 10), Char.ofNat (48 + n % 10)]
  (if upper then "E" else "e") ++ (if e < 0 then "-" else "+") ++ digits

/-- The digits before the point: `count` of them taken from `ds` (zeros once it runs out),
with commas between groups of three when `thousands`. Returns the text and the digits left. -/
def wholeDigits (ds : List Char) (count : Nat) (thousands : Bool) : List Char × List Char :=
  let rec go : Nat → List Char → List Char → List Char × List Char
    | 0, rest, acc => (acc.reverse, rest)
    | k + 1, rest, acc =>
      let (d, rest) := match rest with
        | d :: r => (d, r)
        | [] => ('0', [])
      -- k places remain after this digit
      let acc := d :: acc
      let acc := if thousands && k % 3 == 0 && k > 1 then ',' :: acc else acc
      go k rest acc
  go count ds []

/-- The places asked of the digits of a double by a format. -/
def RealFormat.rounding (f : RealFormat) : Int :=
  let precision := f.precision.getD 6
  match f.style with
  | .fixed => -(precision : Int)
  | .general => if precision == 0 then 1 else precision
  | .scientific => precision + 1

/-- The text of a number with the given digits in a format, before the padding to the width
with blanks. -/
def formatDigits (f : RealFormat) (negative : Bool) (d : DecimalDigits) : String :=
  let precision0 := f.precision.getD 6
  let precision0 := if f.style == .general && precision0 == 0 then 1 else precision0
  let sign : String := if negative then "-" else (f.signChar.map String.singleton).getD ""
  let exp := d.point - 1
  let precision1 := if f.style == .general && precision0 > 0 then precision0 - 1 else precision0
  let (style, precision, trimZeros) :=
    match f.style with
    | .general =>
      if exp < -4 || exp > (precision1 : Int) then (RealStyle.scientific, precision1, !f.alternate)
      else (RealStyle.fixed, (precision1 - exp).toNat, !f.alternate)
    | s => (s, precision0, f.extended)
  let e2 : Int := if style == .scientific then 0 else d.point - 1
  let showPoint := precision > 0 || f.alternate || f.extended
  let (whole, rest) :=
    if e2 < 0 then (['0'], d.digits) else wholeDigits d.digits (e2.toNat + 1) f.thousands
  -- zeros between the point and the first significant digit
  let leading := if e2 < -1 then min ((-(e2 + 1)).toNat) precision else 0
  let fracCount := precision - leading
  let frac := List.replicate leading '0' ++ (rest ++ List.replicate fracCount '0').take fracCount
  let body := whole ++ (if showPoint then '.' :: frac else [])
  let body :=
    if trimZeros && showPoint then
      let trimmed := body.reverse.dropWhile (· == '0')
      match trimmed with
      | '.' :: more => if f.extended then ('0' :: '.' :: more).reverse else more.reverse
      | _ => trimmed.reverse
    else body
  let body := String.ofList body ++ (if style == .scientific then exponentPart f.upper exp else "")
  let text := sign ++ body
  if f.zeroPad && !f.leftJustify && text.length < f.width then
    sign ++ String.ofList (List.replicate (f.width - text.length) '0') ++ body
  else text

/-- The text of a double in a format, before the padding to the width with blanks. An
infinity is `Inf` with its sign, or under `0` the digit nine a thousand places before the
point; a NaN is `NaN`, or `null` under `0`. -/
def formatReal (f : RealFormat) (x : Float) : String :=
  if x.isNaN then (if f.zeroPad then "null" else "NaN")
  else if x.isInf then
    let negative := x < 0.0
    if f.zeroPad then formatDigits f negative ⟨['9'], 1000⟩
    else if negative then "-Inf"
    else (f.signChar.map String.singleton).getD "" ++ "Inf"
  else
    let negative := x < 0.0
    let r := if negative then -x else x
    let d : DecimalDigits :=
      if r == 0.0 then ⟨['0'], 1⟩ else decodeDigits r f.rounding (if f.extended then 26 else 16)
    formatDigits f negative (if d.digits.isEmpty then ⟨['0'], d.point⟩ else d)

/-- The text of a double when it is converted to text: fifteen significant digits, written
positionally for decimal exponents from -4 to 14 and scientifically otherwise, with trailing
zeros dropped but always a digit after the point: `1.5`, `2.0`, `1.0e+300`, `1.0e-05`. -/
def realText (x : Float) : String :=
  formatReal { style := .general, precision := some 15, extended := true } x

end QueryDoc.Store
