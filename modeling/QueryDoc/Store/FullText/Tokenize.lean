import QueryDoc.Store.FullText.Stem
import QueryDoc.Text.Unicode

/-!
Splitting text into the terms a full-text table indexes.

A tokenizer reads a text as runs of token characters separated by other characters; each run
is a term, numbered from zero in reading order, and remembers the bytes it came from. What a
token character is, and how a run becomes a term, is the tokenizer's:

* `simple`: ASCII letters and digits, and every character past ASCII; ASCII letters lowered.
* `porter`: as `simple`, each word reduced to its stem (see `Stem.porterTerm`).
* `unicode61`: letters and digits of any script; lowered, and accents taken off Latin letters
  unless `removeDiacritics` is zero. Characters can be made token characters or separators.
* `ascii`: as `unicode61`, but every character past ASCII is a token character and only ASCII
  letters are lowered.
* `stemmed`: the terms of another tokenizer reduced to their stems (see `Stem.stemTerm`).
-/

namespace QueryDoc.Store.FullText

/-- How a full-text table splits text into terms. -/
inductive Tokenizer where
  | simple
  | porter
  | unicode61 (removeDiacritics : Nat) (tokenChars : List Char) (separators : List Char)
  | ascii (tokenChars : List Char) (separators : List Char)
  | stemmed (base : Tokenizer)
  deriving Repr, BEq, Inhabited

/-- A term of a text, with the byte offsets where its run starts and ends. -/
structure Piece where
  term : String
  start : Nat
  stop : Nat
  deriving Repr, BEq, Inhabited

namespace Tokenize

/-- Whether a character is an ASCII letter or digit. -/
def asciiAlnum (c : Char) : Bool := c.isAlphanum

/-- Whether a character past ASCII counts as a letter or digit. Latin-1 punctuation and
symbols, the general punctuation block and its neighbours, and the CJK and full-width
punctuation marks are not. -/
def wideAlnum (c : Char) : Bool :=
  let n := c.toNat
  if n < 0x80 then false
  else if n < 0xC0 then [0xAA, 0xB2, 0xB3, 0xB5, 0xB9, 0xBA, 0xBC, 0xBD, 0xBE].contains n
  else if n == 0xD7 || n == 0xF7 then false
  else if 0x2000 ≤ n && n ≤ 0x206F then false
  else if 0x20A0 ≤ n && n ≤ 0x20CF then false
  else if 0x2190 ≤ n && n ≤ 0x23FF then false
  else if 0x2500 ≤ n && n ≤ 0x27BF then false
  else if 0x3000 ≤ n && n ≤ 0x3003 then false
  else if 0x3008 ≤ n && n ≤ 0x3020 then false
  else if 0xFE30 ≤ n && n ≤ 0xFE4F then false
  else if 0xFF00 ≤ n && n ≤ 0xFF0F then false
  else if 0xFF1A ≤ n && n ≤ 0xFF20 then false
  else if 0xFFF0 ≤ n && n ≤ 0xFFFF then false
  else true

/-- The letter a lowercase Latin letter with an accent is written with; the letter itself
when it has no accent to take off. -/
def plainLetter (c : Char) : Char :=
  let n := c.toNat
  let ranges : List (Nat × Nat × Char) :=
    [(0xE0, 0xE5, 'a'), (0xE7, 0xE7, 'c'), (0xE8, 0xEB, 'e'), (0xEC, 0xEF, 'i'), (0xF1, 0xF1, 'n'),
     (0xF2, 0xF6, 'o'), (0xF9, 0xFC, 'u'), (0xFD, 0xFD, 'y'), (0xFF, 0xFF, 'y'),
     (0x101, 0x105, 'a'), (0x107, 0x10D, 'c'), (0x10F, 0x10F, 'd'), (0x113, 0x11B, 'e'),
     (0x11D, 0x123, 'g'), (0x125, 0x125, 'h'), (0x129, 0x12F, 'i'), (0x135, 0x135, 'j'),
     (0x137, 0x137, 'k'), (0x13A, 0x13E, 'l'), (0x144, 0x148, 'n'), (0x14D, 0x151, 'o'),
     (0x155, 0x159, 'r'), (0x15B, 0x161, 's'), (0x163, 0x165, 't'), (0x169, 0x173, 'u'),
     (0x175, 0x175, 'w'), (0x177, 0x177, 'y'), (0x17A, 0x17E, 'z')]
  match ranges.find? (fun (lo, hi, _) => lo ≤ n && n ≤ hi) with
  | some (_, _, p) => p
  | none => c

/-- A character as `unicode61` folds it: lowered, and without its accent when accents go. -/
def fold (removeDiacritics : Nat) (c : Char) : List Char :=
  if c.toNat < 0x80 then [Stem.lowerAscii c]
  else
    let lowered := Text.lowerChar c
    if removeDiacritics == 0 then lowered else lowered.map plainLetter

/-- The maximal runs of token characters of a text, each with the offsets of its start and
end, a character counting `size` of them. -/
def runs (size : Char → Nat) (isToken : Char → Bool) (cs : List Char) : List (List Char × Nat × Nat) :=
  let rec go : List Char → Nat → List Char → Nat → List (List Char × Nat × Nat) →
      List (List Char × Nat × Nat)
    | [], off, cur, start, acc => if cur.isEmpty then acc.reverse else ((cur.reverse, start, off) :: acc).reverse
    | c :: rest, off, cur, start, acc =>
      let next := off + size c
      if isToken c then go rest next (c :: cur) (if cur.isEmpty then off else start) acc
      else go rest next [] 0 (if cur.isEmpty then acc else (cur.reverse, start, off) :: acc)
  go cs 0 [] 0 []

/-- Whether a character is a token character of a tokenizer. -/
def isTokenChar : Tokenizer → Char → Bool
  | .simple, c => asciiAlnum c || c.toNat ≥ 0x80
  | .porter, c => asciiAlnum c || c.toNat ≥ 0x80
  | .unicode61 _ extra seps, c =>
    if extra.contains c then true
    else if seps.contains c then false
    else asciiAlnum c || wideAlnum c
  | .ascii extra seps, c =>
    if extra.contains c then true
    else if seps.contains c then false
    else asciiAlnum c || c.toNat ≥ 0x80
  | .stemmed base, c => isTokenChar base c

/-- The term a run of token characters gives. -/
def termOf : Tokenizer → List Char → String
  | .simple, w => String.ofList (w.map Stem.lowerAscii)
  | .porter, w => Stem.porterTerm w
  | .unicode61 rd _ _, w => String.ofList (w.flatMap (fold rd))
  | .ascii _ _, w => String.ofList (w.map Stem.lowerAscii)
  | .stemmed base, w => Stem.stemTerm (termOf base w)

end Tokenize

/-- The terms of characters, in reading order, with offsets counted by `size`. -/
def Tokenizer.piecesBy (t : Tokenizer) (size : Char → Nat) (cs : List Char) : List Piece :=
  (Tokenize.runs size (Tokenize.isTokenChar t) cs).filterMap fun (w, a, b) =>
    let term := Tokenize.termOf t w
    if term.isEmpty then none else some ⟨term, a, b⟩

/-- The terms of a text, in reading order, with byte offsets. -/
def Tokenizer.pieces (t : Tokenizer) (s : String) : List Piece := t.piecesBy Char.utf8Size s.toList

/-- The terms of characters, in reading order, with character offsets. -/
def Tokenizer.charPieces (t : Tokenizer) (cs : List Char) : List Piece := t.piecesBy (fun _ => 1) cs

end QueryDoc.Store.FullText
