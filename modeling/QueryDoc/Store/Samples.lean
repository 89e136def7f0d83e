import QueryDoc.Store.Datum

/-!
The samples `analyze` keeps of an index.

`analyze` walks an index's entries in key order, each entry its key columns and then the row
id, and keeps up to 24 of them as samples. A sample carries three counts for each column: `eq`,
how many entries share its values up to that column; `lt`, how many entries come before them;
and `dlt`, how many distinct values of those columns come before them.

Two kinds of entries are kept. A periodic sample is taken each time the count of entries
before the current one passes a multiple of the period, `count / 9 + 1`, so that samples
spread over the index. The others are the entries whose leading columns repeat most: for
each number of leading columns the walk holds the best candidate of the current run of equal
values, and when the run ends the candidate is kept if there is room or if it beats the
worst sample kept, which then goes. A candidate beats another when its run is longer; on equal
runs when it counts fewer leading columns; and then by the runs of its longer prefixes, and
last by a pseudo-random number drawn for each entry. A candidate whose leading columns a kept
sample already shares passes its run on to that sample instead of being kept itself.

A count of zero in a kept sample's `eq` stands for a run not yet ended; it is filled in when
the run ends.
-/

namespace QueryDoc.Store

namespace Samples

/-- The most samples an index keeps. -/
def room : Nat := 24

/-- An entry as a sample: its counts per column, the entry, whether it was taken as a periodic
sample, the number of leading columns less one it stands for, and its pseudo-random number. -/
structure Sample where
  eq : Array Nat
  lt : Array Nat
  dlt : Array Nat
  entry : List Datum
  periodic : Bool
  column : Nat
  hash : UInt32

/-- The state of the walk over an index. -/
structure Walk where
  /-- The number of columns of each entry. -/
  width : Nat
  /-- The spacing of periodic samples. -/
  period : Nat
  /-- The entry just read, with its counts. -/
  current : Sample
  /-- For each number of leading columns less one, the best candidate of the current run. -/
  best : Array Sample
  /-- The samples kept, in index order. -/
  kept : Array Sample
  /-- The place of the kept sample that any better candidate replaces, once all room is
  taken. -/
  worst : Nat
  /-- No kept sample has a zero count from this column on. -/
  zeroed : Nat
  /-- The last pseudo-random number drawn. -/
  seed : UInt32
  /-- The number of entries read. -/
  count : Nat

/-- Whether `a` beats `b`, two candidates for the same number of leading columns, by the
runs of their longer prefixes and last by their numbers. -/
def betterAfter (width : Nat) (a b : Sample) : Bool :=
  let rec go : Nat → Nat → Bool
    | 0, _ => a.hash > b.hash
    | fuel + 1, i =>
      if i ≥ width then a.hash > b.hash
      else
        let x := a.eq[i]?.getD 0
        let y := b.eq[i]?.getD 0
        if x > y then true else if x < y then false else go fuel (i + 1)
  go width (a.column + 1)

/-- Whether `a` beats `b`: by the length of its run, then by counting fewer leading columns,
then as `betterAfter` says. -/
def better (width : Nat) (a b : Sample) : Bool :=
  let x := a.eq[a.column]?.getD 0
  let y := b.eq[b.column]?.getD 0
  if x > y then true
  else if x == y then a.column < b.column || (a.column == b.column && betterAfter width a b)
  else false

/-- Finds the worst kept sample other than the periodic ones, once all room is taken; the
first of equals. -/
def findWorst (w : Walk) : Walk :=
  if w.kept.size < room then w
  else
    let pick (acc : Option Nat) (k : Nat) : Option Nat :=
      match w.kept[k]? with
      | some s =>
        if s.periodic then acc
        else match acc with
          | none => some k
          | some m => if (w.kept[m]?.map fun t => better w.width t s).getD false then some k else acc
      | none => acc
    { w with worst := ((List.range room).foldl pick none).getD 0 }

/-- The kept sample, among those sharing the candidate's leading columns, that the candidate's
run is passed to: none when there is none, or `some none` when a periodic sample shares them
and the candidate is dropped. -/
def upgradeOf (w : Walk) (s : Sample) : Option (Option Nat) :=
  (List.range w.kept.size).reverse.foldl (fun (acc : Option (Option Nat)) i =>
    match acc with
    | some none => acc
    | _ =>
      match w.kept[i]? with
      | some old =>
        if old.eq[s.column]?.getD 0 != 0 then acc
        else if old.periodic then some none
        else match acc with
          | some (some u) =>
            if (w.kept[u]?.map fun t => better w.width old t).getD false then some (some i) else acc
          | _ => some (some i)
      | none => acc) none

/-- Keeps a sample whose first `zeroes` counts of `eq` stand for runs not yet ended. -/
def insert (w : Walk) (s : Sample) (zeroes : Nat) : Walk :=
  let w := { w with zeroed := max w.zeroed zeroes }
  let upgrade := if s.periodic then none else upgradeOf w s
  match upgrade with
  | some none => w
  | some (some u) =>
    findWorst { w with kept := w.kept.modify u fun old =>
      { old with column := s.column, eq := old.eq.setIfInBounds s.column (s.eq[s.column]?.getD 0) } }
  | none =>
    let kept := if w.kept.size ≥ room then w.kept.eraseIdxIfInBounds w.worst else w.kept
    let fresh := { s with eq := s.eq.mapIdx fun j v => if j < zeroes then 0 else v }
    findWorst { w with kept := kept.push fresh }

/-- Offers the candidates of the runs that end before an entry whose first changed column is
`changed`: the longest prefixes first. Then fills in the zero counts the ended runs leave. -/
def pushPrevious (w : Walk) (changed : Nat) : Walk :=
  let cols := ((List.range (w.width - 1)).filter (· ≥ changed)).reverse
  let w := cols.foldl (fun w i =>
    let cand := match w.best[i]? with
      | some b => { b with eq := b.eq.setIfInBounds i (w.current.eq[i]?.getD 0) }
      | none => w.current
    let w := { w with best := w.best.setIfInBounds i cand }
    let beats := match w.kept[w.worst]? with
      | some m => better w.width cand m
      | none => true
    if w.kept.size < room || beats then insert w cand i else w) w
  if changed < w.zeroed then
    let fill (s : Sample) : Sample :=
      { s with eq := s.eq.mapIdx fun j v => if j ≥ changed && v == 0 then w.current.eq[j]?.getD 0 else v }
    { w with kept := w.kept.map fill, zeroed := changed }
  else w

/-- Reads one entry, whose first column that differs from the entry before is `changed`. -/
def push (w : Walk) (changed : Nat) (entry : List Datum) : Walk :=
  let w := if w.count == 0 then { w with current := { w.current with eq := w.current.eq.map fun _ => 1 } }
    else
      let w := pushPrevious w changed
      let c := w.current
      let c := { c with
        eq := c.eq.mapIdx fun i v => if i < changed then v + 1 else 1,
        lt := c.lt.mapIdx fun i v => if i < changed then v else v + (c.eq[i]?.getD 0),
        dlt := c.dlt.mapIdx fun i v => if i < changed then v else v + 1 }
      { w with current := c }
  let seed := w.seed * 1103515245 + 12345
  let w := { w with count := w.count + 1, seed := seed,
                    current := { w.current with entry := entry, hash := seed } }
  let before := w.current.lt[w.width - 1]?.getD 0
  let w := if before / w.period != (before + 1) / w.period then
      let w := insert w { w.current with periodic := true, column := 0 } (w.width - 1)
      { w with current := { w.current with periodic := false, column := 0 } }
    else w
  (List.range (w.width - 1)).foldl (fun w i =>
    let c := { w.current with column := i }
    let keep := match w.best[i]? with
      | some b => i ≥ changed || betterAfter w.width c b
      | none => true
    { w with current := c, best := if keep then w.best.setIfInBounds i c else w.best }) w

/-- The samples of an index of `count` entries, each `width` columns wide, from its entries in
key order, each with its first column that differs from the entry before (any for the
first). -/
def collect (width count : Nat) (entries : List (Nat × List Datum)) : List Sample :=
  let zeros := Array.replicate width 0
  let blank : Sample := ⟨zeros, zeros, zeros, [], false, 0, 0⟩
  let seed : UInt32 := (0x689e962d * width.toUInt32) ^^^ (0xd0944565 * count.toUInt32)
  let start : Walk := ⟨width, count / (room / 3 + 1) + 1, blank, Array.replicate (width - 1) blank, #[], 0, 0,
    seed, 0⟩
  let w := entries.foldl (fun w (changed, entry) => push w changed entry) start
  if w.count == 0 then [] else (pushPrevious w 0).kept.toList

end Samples

end QueryDoc.Store
