import QueryDoc.Decimal.Shortest

/-!
Writing the shortest digits of a double as text.

A `Style` holds every decision a printer makes: which values are written positionally, whether
an integral value keeps `.0`, how the exponent is marked, and the texts of zero and of the
values that have no digits. Three styles are used: `Style.document` for numbers inside JSON
documents, `Style.plain` for numbers inside SQL text and parameter lists, and `Style.debug`
for numbers in log lines.
-/

namespace QueryDoc.Decimal

/-- The layout decisions of a float printer. -/
structure Style where
  /-- Positional notation is used when `lowPoint < point`, where the value is `0.d… × 10^point`;
  `none` means always. -/
  lowPoint : Option Int
  /-- Positional notation is used when `point ≤ highPoint`; `none` means always. -/
  highPoint : Option Int
  /-- An integral value written positionally ends in `.0`. -/
  pointZero : Bool
  /-- A non-negative exponent is written with `+`. -/
  plusExponent : Bool
  /-- The text of zero, without its sign. -/
  zeroText : String
  /-- The text of a value that is not a number. -/
  nanText : String
  /-- The text of infinity, without its sign. -/
  infText : String

/-- Numbers in JSON documents: positional from `1e-5` up to `1e16`, `.0` on integral
values, and a bare exponent otherwise (`1e17`, `1.5e-7`). -/
def Style.document : Style :=
  ⟨some (-5), some 16, true, false, "0.0", "null", "null"⟩

/-- Numbers in SQL text: always positional, and no `.0` on integral values. -/
def Style.plain : Style :=
  ⟨none, none, false, false, "0", "NaN", "inf"⟩

/-- Numbers in decoding failures: laid out as in documents, with the texts `NaN` and `inf`
for the values that have no digits. -/
def Style.pointed : Style :=
  ⟨some (-5), some 16, true, false, "0.0", "NaN", "inf"⟩

/-- Numbers in log lines: positional from `1e-4` up to below `1e16`, `.0` on integral values,
and an exponent with no `+` otherwise. -/
def Style.debug : Style :=
  ⟨some (-4), some 16, true, false, "0.0", "NaN", "inf"⟩

/-- `n` zeros. -/
def zeros (n : Nat) : String := String.ofList (List.replicate n '0')

/-- Positional text of `0.d… × 10^point`. -/
def Digits.positional (d : Digits) (pointZero : Bool) : String :=
  let len : Int := d.digits.length
  if d.point ≤ 0 then
    "0." ++ zeros (-d.point).toNat ++ String.ofList d.digits
  else if d.point < len then
    String.ofList (d.digits.take d.point.toNat) ++ "." ++ String.ofList (d.digits.drop d.point.toNat)
  else
    String.ofList d.digits ++ zeros (d.point - len).toNat ++ (if pointZero then ".0" else "")

/-- Scientific text of `0.d… × 10^point`: one digit before the point. -/
def Digits.scientific (d : Digits) (plusExponent : Bool) : String :=
  let mantissa := match d.digits with
    | [] => "0"
    | [c] => String.singleton c
    | c :: rest => String.singleton c ++ "." ++ String.ofList rest
  let exp := d.point - 1
  let expText := if exp < 0 then "-" ++ toString exp.natAbs
    else (if plusExponent then "+" else "") ++ toString exp.natAbs
  mantissa ++ "e" ++ expText

/-- Whether a style writes these digits positionally. -/
def Style.isPositional (s : Style) (d : Digits) : Bool :=
  (match s.lowPoint with | some lo => decide (lo < d.point) | none => true) &&
  (match s.highPoint with | some hi => decide (d.point ≤ hi) | none => true)

/-- The text of a double in a style. -/
def Style.format (s : Style) (x : Float) : String :=
  match FloatKind.of x with
  | .nan => s.nanText
  | .infinite neg => (if neg then "-" else "") ++ s.infText
  | .finite b =>
    let sign := if b.negative then "-" else ""
    if b.mant == 0 then sign ++ s.zeroText
    else
      let d := b.shortest
      sign ++ (if s.isPositional d then d.positional s.pointZero else d.scientific s.plusExponent)

end QueryDoc.Decimal
