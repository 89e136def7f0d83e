/-!
Decimal digits of a double, computed exactly.

A finite double is `mant · 2^exp2`. The reals that read back as it form an interval around
it, whose ends belong to it when `mant` is even. `Binary.shortest` picks, among the decimals
inside that interval, one with the fewest significant digits, and of two such the nearer (an
exact tie goes to the larger).

It works on natural numbers only: a comparison of `a · 2^p · 10^q` with `b · 2^r · 10^s`
is done by moving every negative power to the other side.
-/

namespace QueryDoc.Decimal

/-- A finite double: sign, integer mantissa and binary exponent. -/
structure Binary where
  negative : Bool
  mant : Nat
  exp2 : Int
  /-- The double below is half as far away as the double above (a power of two mantissa). -/
  narrowBelow : Bool
  deriving Repr

/-- The three kinds of double. -/
inductive FloatKind where
  | finite (b : Binary)
  | infinite (negative : Bool)
  | nan
  deriving Repr

/-- Splits the bits of a double into its kind and, when finite, its parts. -/
def FloatKind.ofBits (bits : UInt64) : FloatKind :=
  let negative := bits >>> 63 == 1
  let e := ((bits >>> 52) &&& 0x7ff).toNat
  let f := (bits &&& 0xfffffffffffff).toNat
  if e == 0x7ff then
    if f == 0 then .infinite negative else .nan
  else if e == 0 then
    .finite ⟨negative, f, -1074, false⟩
  else
    .finite ⟨negative, f + Nat.pow 2 52, (e : Int) - 1075, f == 0 && e > 1⟩

/-- The kind of a double. -/
def FloatKind.of (x : Float) : FloatKind := FloatKind.ofBits x.toBits

/-- The exact number `coeff · 2^pow2 · 10^pow10`. -/
structure Scaled where
  coeff : Nat
  pow2 : Int
  pow10 : Int

/-- Orders two exact numbers by clearing negative powers on both sides. -/
def Scaled.cmp (x y : Scaled) : Ordering :=
  let m2 := min x.pow2 y.pow2
  let m10 := min x.pow10 y.pow10
  let l := x.coeff * Nat.pow 2 (x.pow2 - m2).toNat * Nat.pow 10 (x.pow10 - m10).toNat
  let r := y.coeff * Nat.pow 2 (y.pow2 - m2).toNat * Nat.pow 10 (y.pow10 - m10).toNat
  compare l r

/-- `⌊coeff · 2^pow2 / 10^k⌋`. -/
def floorDiv10 (coeff : Nat) (pow2 : Int) (k : Int) : Nat :=
  (coeff * Nat.pow 2 pow2.toNat * Nat.pow 10 (-k).toNat) / (Nat.pow 2 (-pow2).toNat * Nat.pow 10 k.toNat)

/-- Number of decimal digits of a positive natural number. -/
def digitCount (n : Nat) : Nat := (Nat.toDigits 10 n).length

/-- `⌊log₁₀ (mant · 2^exp2)⌋` for a positive mantissa. -/
def Binary.log10Floor (b : Binary) : Int :=
  let num := b.mant * Nat.pow 2 b.exp2.toNat
  let den := Nat.pow 2 (-b.exp2).toNat
  let e0 : Int := (digitCount num : Int) - (digitCount den : Int)
  let v : Scaled := ⟨b.mant, b.exp2, 0⟩
  if (v.cmp ⟨1, 0, e0⟩) == .lt then e0 - 1 else e0

/-- Digits `d₁d₂…dₙ` with no trailing zero, and the place of the point: the value is
`0.d₁d₂…dₙ × 10^point`. -/
structure Digits where
  digits : List Char
  point : Int
  deriving Repr, BEq

/-- Drops trailing zeros of a digit list, counting them. -/
def dropTrailingZeros (ds : List Char) : List Char × Nat :=
  let kept := (ds.reverse.dropWhile (· == '0')).reverse
  (kept, ds.length - kept.length)

/-- The digits of `d · 10^k` for a positive `d`. -/
def Digits.ofScaled (d : Nat) (k : Int) : Digits :=
  let (ds, z) := dropTrailingZeros (Nat.toDigits 10 d)
  ⟨ds, (ds.length : Int) + (z : Int) + k⟩

/-- Whether `c · 10^k` reads back as the double `b`. -/
def Binary.admits (b : Binary) (c : Nat) (k : Int) : Bool :=
  let below := if b.narrowBelow then 1 else 2
  let lo : Scaled := ⟨4 * b.mant - below, b.exp2 - 2, 0⟩
  let hi : Scaled := ⟨4 * b.mant + 2, b.exp2 - 2, 0⟩
  let x : Scaled := ⟨c, 0, k⟩
  let inclusive := b.mant % 2 == 0
  let aboveLo := match x.cmp lo with
    | .gt => true
    | .eq => inclusive
    | .lt => false
  let belowHi := match x.cmp hi with
    | .lt => true
    | .eq => inclusive
    | .gt => false
  aboveLo && belowHi

/-- The best decimal with `n` significant digits that reads back, if there is one. -/
def Binary.candidate (b : Binary) (e : Int) (n : Nat) : Option (Nat × Int) :=
  let k := e - (n : Int) + 1
  let d := floorDiv10 b.mant b.exp2 k
  let lowOk := d > 0 && b.admits d k
  let highOk := b.admits (d + 1) k
  if lowOk && highOk then
    -- the nearer of the two; an exact tie goes up
    let v : Scaled := ⟨2 * b.mant, b.exp2, 0⟩
    let mid : Scaled := ⟨2 * d + 1, 0, k⟩
    if v.cmp mid == .lt then some (d, k) else some (d + 1, k)
  else if lowOk then some (d, k)
  else if highOk then some (d + 1, k)
  else none

/-- Tries 1, 2, … significant digits in turn. -/
def Binary.search (b : Binary) (e : Int) : List Nat → Option (Nat × Int)
  | [] => none
  | n :: ns => match b.candidate e n with
    | some r => some r
    | none => b.search e ns

/-- The shortest digits that read back as `b`, nearest first; `b.mant` must be positive. -/
def Binary.shortest (b : Binary) : Digits :=
  let e := b.log10Floor
  match b.search e (List.range' 1 17) with
  | some (d, k) => Digits.ofScaled d k
  | none => Digits.ofScaled (floorDiv10 b.mant b.exp2 (e - 16)) (e - 16)

end QueryDoc.Decimal
