import QueryDoc.Store.Schema

/-!
Estimates of row counts and costs, kept on a logarithmic scale.

An estimate is ten times the base-2 logarithm of a count: 0 is one row, 10 two rows, 33 about
ten, 200 about a million. Multiplying counts adds estimates, and adding counts is `addEst`,
which takes the larger estimate and raises it a little by a table of fractions. The planner
compares plans by these numbers only, so the rounding of each step is part of which plan
wins, and is kept exactly.
-/

namespace QueryDoc.Store

namespace Estimate

/-- The fractional part of an estimate from the three bits after a count's leading one. -/
def fraction (k : Nat) : Int :=
  match k with
  | 0 => 0 | 1 => 2 | 2 => 3 | 3 => 5 | 4 => 6 | 5 => 7 | 6 => 8 | _ => 9

/-- The estimate of a count: 0 below two; else from the position of the count's leading
one and the three bits after it. -/
def ofCount (x : Nat) : Int :=
  if x < 2 then 0
  else if x < 8 then
    -- scale up to eight or more, ten less for each doubling
    let (y, v) := if x < 4 then ((20 : Int), x * 4) else (30, x * 2)
    fraction (v % 8) + y - 10
  else
    let i := Nat.log2 x - 3
    fraction ((x / Nat.pow 2 i) % 8) + 40 + 10 * (i : Int) - 10

/-- What the larger estimate gains when a smaller one is added, by their difference. -/
def gain (d : Nat) : Int :=
  if d ≤ 1 then 10 else if d ≤ 3 then 9 else if d ≤ 5 then 8 else if d ≤ 8 then 7
  else if d ≤ 11 then 6 else if d ≤ 14 then 5 else if d ≤ 18 then 4 else if d ≤ 24 then 3 else 2

/-- The estimate of the sum of two counts. -/
def add (a b : Int) : Int :=
  let (hi, lo) := if a ≥ b then (a, b) else (b, a)
  if hi > lo + 49 then hi
  else if hi > lo + 31 then hi + 1
  else hi + gain (hi - lo).toNat

/-- The estimate of the logarithm of a count given by its estimate: how deep a search in an
index of that many rows goes. -/
def depth (n : Int) : Int := if n ≤ 10 then 0 else ofCount n.toNat - 33

/-- The count an estimate stands for: the leading one and three bits after it that the
estimate's last digit gives, moved to the place its other digits give. -/
def toCount (x : Int) : Nat :=
  let x := x.toNat
  let n := x % 10
  let n := if n ≥ 5 then n - 2 else if n ≥ 1 then n - 1 else n
  let e := x / 10
  if e ≥ 3 then (n + 8) * Nat.pow 2 (e - 3) else (n + 8) / Nat.pow 2 (3 - e)

/-- The room a column of a declared type is thought to take, an integer being one. A text or
blob type takes a quarter of the length its declaration gives after `CHAR` (or right after
`BLOB(`), plus one; without such a length, 5. Any other type takes 1. -/
def columnWidth (declared : Option String) (affinity : Affinity) : Nat :=
  match declared with
  | none => 1
  | some ty =>
    if affinity == .text || affinity == .blob then
      let up := ty.toUpper
      let afterLast (key : String) : Option String :=
        match up.splitOn key with
        | [] | [_] => none
        | parts => parts.getLast?
      let sized : Option String :=
        if affinity == .text then afterLast "CHAR"
        else
          match up.splitOn "BLOB" with
          | _ :: rest :: _ => if rest.startsWith "(" then some rest else none
          | _ => none
      let v : Nat := match sized with
        | some z =>
          let digits := (z.toList.dropWhile (!·.isDigit)).takeWhile Char.isDigit
          digits.foldl (fun a c => a * 10 + (c.toNat - 48)) 0
        | none => 16
      min (v / 4 + 1) 255
    else 1

end Estimate

end QueryDoc.Store
