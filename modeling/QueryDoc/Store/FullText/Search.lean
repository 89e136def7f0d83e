import QueryDoc.Store.FullText.Query

/-!
Matching full-text queries against rows, and what a match shows of itself.

A row is read as the terms of each of its columns, each term at its place, counted from zero
in its column. A phrase occurs where its terms stand one after another in a column it may
search; a truncated term fits every term it begins, and a term that must open its column fits
only at place zero.

Phrases near each other (fifth version) all occur in one column, each starting no more than
its own length and the distance before the latest of them. In a chain (third and fourth
versions), each phrase occurs after the one before it and within the distance and its own
length of its start, or before it and within the distance and the length of the one before;
the places of each phrase that are near the one before it are the ones the next is measured
against.

The places where each phrase of a query occurs in a row that its group matches are the row's
instances. They weigh the row with `bm25`, which favours rows holding phrases that few rows
hold, many times, in few terms; `highlight` marks them in the text of a column, runs of
instances that overlap marked as one; and `snippet` marks them in the window of a column that
shows the most of them.
-/

namespace QueryDoc.Store.FullText

/-- A row as a full-text table reads it: the terms of each of its columns. -/
abbrev Document := Array (Array Piece)

/-- Whether a term of a column fits a query term. -/
def QueryTerm.fits (q : QueryTerm) (t : String) : Bool :=
  if q.truncated then q.text.isPrefixOf t else t == q.text

/-- The places (column, place) where a phrase starts in a row, column by column. -/
def Phrase.occurrences (doc : Document) (p : Phrase) : List (Nat × Nat) :=
  if p.terms.isEmpty then []
  else
    let cols := p.columns.getD (List.range doc.size)
    cols.flatMap fun c =>
      let terms := doc.getD c #[]
      (List.range terms.size).filterMap fun pos =>
        if p.terms.zipIdx.all (fun (q, k) =>
            (terms[pos + k]?).any (fun t => q.fits t.term) && (!q.first || pos + k == 0)) then
          some (c, pos)
        else none

/-- The latest starts of a group of phrases near each other: a place of one of them such that
every phrase starts in its column, at it or before it by no more than the phrase's length and
the distance. -/
def nearEnds (occs : List (List (Nat × Nat))) (sizes : List Nat) (d : Nat) : List (Nat × Nat) :=
  let within (m : Nat) (n : Nat) (p : Nat) : Bool := p ≤ m && m ≤ p + n + d
  occs.flatten.filter fun (c, m) =>
    (occs.zip sizes).all fun (os, n) => os.any fun (c', p) => c' == c && within m n p

/-- The places of each phrase of a group that take part in some way of the group standing
near each other; none when the group does not. -/
def nearPlaces (doc : Document) (ps : List Phrase) (d : Nat) : Option (List (List (Nat × Nat))) :=
  let occs := ps.map (·.occurrences doc)
  let sizes := ps.map (·.terms.length)
  let ends := nearEnds occs sizes d
  if ends.isEmpty then none
  else
    some ((occs.zip sizes).map fun (os, n) =>
      os.filter fun (c, p) => ends.any fun (c', m) => c == c' && p ≤ m && m ≤ p + n + d)

/-- Whether two places of a column are near: `x` after `y` by at most the distance and the
length `nx` of the phrase at `x`, or before it by at most the distance and the length `ny`. -/
def chainNear (d nx ny : Nat) (y x : Nat × Nat) : Bool :=
  y.1 == x.1 && ((y.2 < x.2 && x.2 ≤ y.2 + d + nx) || (x.2 < y.2 && y.2 ≤ x.2 + d + ny))

/-- Whether a chain of phrases stands near: measured from the first phrase's places, the places
of each next phrase near those kept of the one before are kept, and none may be left. -/
def chainHolds (doc : Document) (first : Phrase) (links : List (Nat × Phrase)) : Bool :=
  let start := first.occurrences doc
  let rec walk : List (Nat × Phrase) → List (Nat × Nat) → Nat → Bool
    | [], prev, _ => !prev.isEmpty
    | (d, p) :: more, prev, nPrev =>
      let n := p.terms.length
      let kept := (p.occurrences doc).filter fun x => prev.any fun y => chainNear d n nPrev y x
      !kept.isEmpty && walk more kept n
  walk links start first.terms.length

/-- Whether a row matches a query. -/
def TextQuery.matches (doc : Document) : TextQuery → Bool
  | .phrase p => !(p.occurrences doc).isEmpty
  | .near ps d => (nearPlaces doc ps d).isSome
  | .chain first links => chainHolds doc first links
  | .both l r => l.matches doc && r.matches doc
  | .either l r => l.matches doc || r.matches doc
  | .without l r => l.matches doc && !r.matches doc
  | .nothing => false

/-- The places of each phrase of a query (in the order of `TextQuery.phrases`) in a row, for
the phrases whose group matches the row. -/
def TextQuery.places (doc : Document) : TextQuery → List (List (Nat × Nat))
  | .phrase p => [p.occurrences doc]
  | .near ps d =>
    match nearPlaces doc ps d with
    | some pl => pl
    | none => ps.map fun _ => []
  | .chain first links => (first :: links.map (·.2)).map (·.occurrences doc)
  | .both l r => l.places doc ++ r.places doc
  | .either l r => l.places doc ++ r.places doc
  | .without l r => l.places doc ++ r.places doc
  | .nothing => []

/-- An instance: a phrase's number, the column and the place where it starts. -/
structure Instance where
  phrase : Nat
  column : Nat
  place : Nat
  deriving Repr, BEq, Inhabited

/-- The instances of a query in a row, by column, then place, then phrase. -/
def TextQuery.instances (doc : Document) (q : TextQuery) : List Instance :=
  let all := (q.places doc).zipIdx.flatMap fun (pl, i) => pl.map fun (c, p) => ⟨i, c, p⟩
  all.mergeSort fun a b =>
    a.column < b.column || (a.column == b.column && (a.place < b.place ||
      (a.place == b.place && a.phrase ≤ b.phrase)))

/-- The number of terms of a row. -/
def Document.size (doc : Document) : Nat := doc.foldl (fun n c => n + c.size) 0

/-- The `bm25` weight of a row among the rows of its table, as a negative number: the lower,
the better the match. Each phrase counts by how rare it is (how many rows hold it, but never
less than a millionth), by how often it occurs in the row (each instance weighing as its
column says, one when it says nothing), and against the row's length beside the average. -/
def bm25 (rows : List Document) (doc : Document) (q : TextQuery) (weights : List Float) : Float :=
  let k1 : Float := 1.2
  let b : Float := 0.75
  let nRow := rows.length
  let nToken := rows.foldl (fun n d => n + d.size) 0
  let avgdl := nToken.toFloat / nRow.toFloat
  let phrases := q.phrases
  let insts := q.instances doc
  let dl := doc.size.toFloat
  let score := phrases.zipIdx.foldl (fun (acc : Float) (p, i) =>
    let nHit := (rows.filter fun r => !(p.occurrences r).isEmpty).length
    let raw := Float.log ((nRow.toFloat - nHit.toFloat + 0.5) / (nHit.toFloat + 0.5))
    let idf := if raw ≤ 0.0 then 1e-6 else raw
    let freq := insts.foldl (fun (f : Float) ins =>
      if ins.phrase == i then f + (weights[ins.column]?).getD 1.0 else f) 0.0
    acc + idf * ((freq * (k1 + 1.0)) / (freq + k1 * (1.0 - b + b * dl / avgdl)))) 0.0
  Float.neg score

/-- The runs of places of a column that instances cover, overlapping instances joined. -/
def coveredRuns (q : TextQuery) (insts : List Instance) (col : Nat) : List (Nat × Nat) :=
  let sizes := q.phrases.map (·.terms.length)
  let spans := (insts.filter (·.column == col)).map fun i => (i.place, i.place + (sizes.getD i.phrase 1) - 1)
  spans.foldl (fun (acc : List (Nat × Nat)) (s, e) =>
    match acc.getLast? with
    | some (s0, e0) => if s ≤ e0 then acc.dropLast ++ [(s0, max e e0)] else acc ++ [(s, e)]
    | none => [(s, e)]) []

/-- The bytes of a text between two offsets. -/
def textBetween (bytes : ByteArray) (a b : Nat) : String :=
  (String.fromUTF8? (bytes.extract a b)).getD ""

/-- Marking a column's text term by term: the text written so far, the offset up to which the
column's text is copied, whether a mark is open, and the runs still to mark. -/
structure Marking where
  out : String
  off : Nat
  isOpen : Bool
  runs : List (Nat × Nat)

/-- One term's step of marking a column's text. A mark stays open over the text between runs
that touch, and closes before the first term after it that no run covers. With a window (the
places `lo` to `hi`), terms outside it are passed over, the text before its first term is left
out unless it starts the column, and its last term closes the mark and ends the copied text. -/
def Marking.step (bytes : ByteArray) (opening closing : String) (window : Option (Nat × Nat))
    (st : Marking) (pp : Piece × Nat) : Marking :=
  let (p, pos) := pp
  let outside := match window with
    | some (lo, hi) => pos < lo || pos > hi
    | none => false
  if outside then st
  else
    let off := match window with
      | some (lo, _) => if lo > 0 && pos == lo then p.start else st.off
      | none => st.off
    let st := { st with off }
    let cur := st.runs.head?
    let st :=
      if st.isOpen && (cur.all fun (s, _) => pos ≤ s) && p.start > st.off then
        { st with out := st.out ++ closing, isOpen := false }
      else st
    let st :=
      match cur with
      | some (s, _) =>
        if pos == s && !st.isOpen then
          { st with out := st.out ++ textBetween bytes st.off p.start ++ opening, off := p.start, isOpen := true }
        else st
      | none => st
    let st :=
      match cur with
      | some (_, e) =>
        if pos == e then
          let out := if st.isOpen then st.out else st.out ++ opening
          { out := out ++ textBetween bytes st.off p.stop, off := p.stop, isOpen := true, runs := st.runs.drop 1 }
        else st
      | none => st
    match window with
    | some (_, hi) =>
      if pos == hi then
        let st :=
          if st.isOpen then
            let st :=
              if st.runs.head?.any (fun (s, _) => pos ≥ s) then
                { st with out := st.out ++ textBetween bytes st.off p.stop, off := p.stop }
              else st
            { st with out := st.out ++ closing, isOpen := false }
          else st
        { st with out := st.out ++ textBetween bytes st.off p.stop, off := p.stop }
      else st
    | none => st

/-- Marks the runs in a column's text, term by term, within a window when there is one. -/
def mark (tok : Tokenizer) (text : String) (runs : List (Nat × Nat)) (opening closing : String)
    (window : Option (Nat × Nat)) : Marking :=
  (tok.pieces text).zipIdx.foldl (Marking.step text.toUTF8 opening closing window) ⟨"", 0, false, runs⟩

/-- A column's text with the runs of terms that instances cover put between `opening` and
`closing`. -/
def highlight (tok : Tokenizer) (text : String) (runs : List (Nat × Nat)) (opening closing : String) :
    String :=
  let bytes := text.toUTF8
  let m := mark tok text runs opening closing none
  let out := if m.isOpen then m.out ++ closing else m.out
  out ++ textBetween bytes m.off bytes.size

/-- The places of the terms that start a sentence of a text: the first term, and each term
with blanks and then a `.` or `:` before it. -/
def sentenceStarts (tok : Tokenizer) (text : String) : List Nat :=
  let bytes := text.toUTF8
  let blank (b : UInt8) : Bool := b == 32 || b == 9 || b == 10 || b == 13
  (tok.pieces text).zipIdx.filterMap fun (p, pos) =>
    if pos == 0 then some 0
    else
      let before := (bytes.extract 0 p.start).toList.reverse
      let rest := before.dropWhile blank
      if rest.length < before.length && (rest.head? == some 46 || rest.head? == some 58) then some pos
      else none

/-- How well the window of `width` places from `start` of a column shows a row's instances: a
thousand for each instance of a phrase not yet seen in it and one for each further one; with
the place of its first instance (`-1` when none) and the end of its last. -/
def windowScore (sizes : List Nat) (insts : List Instance) (col : Nat) (start width : Int) :
    Nat × Int × Int :=
  let (score, _, first, last) := insts.foldl (fun (acc : Nat × List Nat × Int × Int) ins =>
    let (score, seen, first, _) := acc
    if ins.column == col && (ins.place : Int) ≥ start && (ins.place : Int) < start + width then
      (score + (if seen.contains ins.phrase then 1 else 1000), ins.phrase :: seen,
        (if first < 0 then (ins.place : Int) else first), (ins.place : Int) + sizes.getD ins.phrase 1)
    else acc) (0, [], -1, 0)
  (score, first, last)

/-- Where a window of `width` places around the instances from `first` to `last` starts: the
instances centred, the window kept inside a column of `size` terms. -/
def centred (size : Nat) (width first last : Int) : Int :=
  let adj := first - Int.tdiv (width - (last - first)) 2
  let adj := if adj + width > size then size - width else adj
  if adj < 0 then 0 else adj

/-- A candidate window: its score, column, first place and the column's number of terms. -/
abbrev Candidate := Nat × Nat × Int × Nat

/-- The windows `snippet` weighs in one column: for each instance in it, the window centred on
the instances near it, and, when the column is longer than a window, the window from the start
of the instance's sentence, scored higher by a hundred (by 120 at the column's start). -/
def columnCandidates (sizes : List Nat) (insts : List Instance) (starts : List Nat) (col size : Nat)
    (width : Int) : List Candidate :=
  (insts.filter (·.column == col)).flatMap fun ins =>
    let io := ins.place
    let (score, first, last) := windowScore sizes insts col io width
    let centredOne : Candidate := (score, col, centred size width first last, size)
    let opening : Option (Nat × Nat) := (starts.zip (starts.drop 1 ++ [ins.place + 1])).find? (fun (_, next) => next > io)
    let sentence : List Candidate :=
      match opening with
      | some (s, _) =>
        if (size : Int) > width && s < io then
          let (score, _, _) := windowScore sizes insts col s width
          [(score + (if s == 0 then 120 else 100), col, (s : Int), size)]
        else []
      | none => []
    centredOne :: sentence

/-- Why `snippet` cannot show a row: it was asked for a column the table does not have, and
the query has no phrases (so there was nothing to keep track of which phrases a window shows),
or it was asked for such a column. -/
inductive SnippetFault where
  | noPhrases
  | noColumn
  deriving Repr, BEq, Inhabited

/-- The `snippet` of a row of a full-text table of the fifth version: the window of `width`
terms of a column (of the columns when `col` is negative) that shows the most of the row's
instances, its runs marked, with `ellipsis` where text before or after it is left out. No
text when the chosen column holds none. -/
def snippet (tok : Tokenizer) (texts : Array (Option String)) (doc : Document) (q : TextQuery)
    (col : Int) (opening closing ellipsis : String) (width : Int) :
    Except SnippetFault (Option String) := do
  let sizes := q.phrases.map (·.terms.length)
  let insts := q.instances doc
  let cols := (List.range texts.size).filter fun (i : Nat) => col < 0 || col == Int.ofNat i
  let cands := cols.flatMap fun i =>
    let starts := match texts[i]? with
      | some (some text) => sentenceStarts tok text
      | _ => []
    columnCandidates sizes insts starts i (doc.getD i #[]).size width
  let init : Candidate := (0, (if col ≥ 0 then col.toNat else 0), 0, 0)
  let (_, bestCol, bestStart, colSize) :=
    cands.foldl (fun (best c : Candidate) => if c.1 > best.1 then c else best) init
  if bestCol ≥ texts.size then throw (if sizes.isEmpty then .noPhrases else .noColumn)
  let colSize := if colSize == 0 then (doc.getD bestCol #[]).size else colSize
  match texts[bestCol]? with
  | some (some text) =>
    let bytes := text.toUTF8
    let hi := bestStart + width - 1
    let window := if hi < 0 then none else some (bestStart.toNat, hi.toNat)
    let runs := (coveredRuns q insts bestCol).filter fun (s, _) => (s : Int) ≥ bestStart
    let m := mark tok text runs opening closing window
    let out := (if bestStart > 0 then ellipsis else "") ++ m.out ++ (if m.isOpen then closing else "")
    let tail := if hi ≥ (colSize : Int) - 1 then textBetween bytes m.off bytes.size else ellipsis
    pure (some (out ++ tail))
  | _ => pure none

end QueryDoc.Store.FullText
