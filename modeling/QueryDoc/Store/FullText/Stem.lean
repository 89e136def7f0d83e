/-!
The Porter stemmer.

A word is reduced to its stem by five rounds of rules, each replacing an ending when what comes
before the ending is long enough. Length is measured by `m`, the number of vowel runs that a
consonant follows: a word is `[C] (VC)^m [V]`. A `y` is a vowel after a consonant and a
consonant elsewhere.

The rules look at the word from its end, so the word is kept reversed: its last letter first.
An ending is matched reversed too, and the text that replaces it is given in reading order.
Only words of lowercase ASCII letters are stemmed; the others keep their letters, lowered.
-/

namespace QueryDoc.Store.FullText

namespace Stem

/-- The kind of a letter on its own: a vowel (0), a consonant (1), or `y` (2), which depends on
the letter before it. -/
def letterKind (c : Char) : Nat :=
  if c == 'a' || c == 'e' || c == 'i' || c == 'o' || c == 'u' then 0
  else if c == 'y' then 2 else 1

mutual

/-- Whether the last letter of a reversed word is a consonant: `y` is one when it starts the
word or follows a vowel. -/
def isConsonant : List Char → Bool
  | [] => false
  | c :: rest =>
    match letterKind c with
    | 0 => false
    | 1 => true
    | _ => rest.isEmpty || isVowel rest

/-- Whether the last letter of a reversed word is a vowel. -/
def isVowel : List Char → Bool
  | [] => false
  | c :: rest =>
    match letterKind c with
    | 0 => true
    | 1 => false
    | _ => isConsonant rest

end

/-- A reversed word without its last letters while `p` holds of what is left. -/
def skipWhile (p : List Char → Bool) : List Char → List Char
  | [] => []
  | c :: rest => if p (c :: rest) then skipWhile p rest else c :: rest

/-- `m > 0`: some vowel is followed by a consonant. -/
def mAbove0 (z : List Char) : Bool :=
  let z := skipWhile isVowel z
  !z.isEmpty && !(skipWhile isConsonant z).isEmpty

/-- `m = 1`. -/
def mIs1 (z : List Char) : Bool :=
  let z := skipWhile isVowel z
  if z.isEmpty then false
  else
    let z := skipWhile isConsonant z
    if z.isEmpty then false
    else
      let z := skipWhile isVowel z
      z.isEmpty || (skipWhile isConsonant z).isEmpty

/-- `m > 1`. -/
def mAbove1 (z : List Char) : Bool :=
  let z := skipWhile isVowel z
  if z.isEmpty then false
  else
    let z := skipWhile isConsonant z
    if z.isEmpty then false
    else
      let z := skipWhile isVowel z
      !z.isEmpty && !(skipWhile isConsonant z).isEmpty

/-- Whether the word holds a vowel. -/
def hasVowel (z : List Char) : Bool := !(skipWhile isConsonant z).isEmpty

/-- Whether the word ends in a doubled consonant. -/
def doubleConsonant (z : List Char) : Bool :=
  isConsonant z && (match z with
    | a :: b :: _ => a == b
    | _ => false)

/-- Whether the word ends consonant, vowel, consonant, the last not `w`, `x` or `y`. -/
def endsCvc (z : List Char) : Bool :=
  isConsonant z && !(z.head? == some 'w' || z.head? == some 'x' || z.head? == some 'y') &&
    isVowel (z.drop 1) && isConsonant (z.drop 2)

/-- The letter `k` places from the end, when the word is that long. -/
def at? (z : List Char) (k : Nat) : Option Char := z[k]?

/-- Replaces the ending `suffix` (reversed) by `repl` (in reading order) when what precedes the
ending meets `cond`. The first part tells whether the ending was there at all, replaced or
not. -/
def stem (z : List Char) (suffix : String) (repl : String) (cond : List Char → Bool) : Bool × List Char :=
  let s := suffix.toList
  if s.isPrefixOf z then
    let rest := z.drop s.length
    if cond rest then (true, repl.toList.reverse ++ rest) else (true, z)
  else (false, z)

/-- The first of several endings that is there, replaced when its condition holds; the word as
it was when none is. -/
def firstStem (z : List Char) : List (String × String × (List Char → Bool)) → List Char
  | [] => z
  | (suffix, repl, cond) :: more =>
    let (found, z') := stem z suffix repl cond
    if found then z' else firstStem z more

/-- Whatever holds. -/
def always (_ : List Char) : Bool := true

/-- Step 1a: plurals. -/
def step1a (z : List Char) : List Char :=
  if z.head? == some 's' then
    let (found, z') := stem z "sess" "ss" always
    if found then z'
    else
      let (found, z') := stem z "sei" "i" always
      if found then z'
      else
        let (found, z') := stem z "ss" "ss" always
        if found then z' else z.drop 1
  else z

/-- Step 1b: `-eed`, `-ed` and `-ing`, with the repairs after `-ed` or `-ing` goes. -/
def step1b (z : List Char) : List Char :=
  let (found, z') := stem z "dee" "ee" mAbove0
  if found then z'
  else
    let (foundIng, afterIng) := stem z "gni" "" hasVowel
    let z' := if foundIng then afterIng else (stem z "de" "" hasVowel).2
    if z'.length == z.length then z
    else
      let (f1, a1) := stem z' "ta" "ate" always
      if f1 then a1
      else
        let (f2, a2) := stem z' "lb" "ble" always
        if f2 then a2
        else
          let (f3, a3) := stem z' "zi" "ize" always
          if f3 then a3
          else if doubleConsonant z' && !(z'.head? == some 'l' || z'.head? == some 's' || z'.head? == some 'z') then
            z'.drop 1
          else if mIs1 z' && endsCvc z' then 'e' :: z'
          else z'

/-- Step 1c: a final `y` after a vowel somewhere becomes `i`. -/
def step1c (z : List Char) : List Char :=
  match z with
  | 'y' :: rest => if hasVowel rest then 'i' :: rest else z
  | _ => z

/-- Step 2: double endings to single ones, keyed on the last letter but one. -/
def step2 (z : List Char) : List Char :=
  match at? z 1 with
  | some 'a' => firstStem z [("lanoita", "ate", mAbove0), ("lanoit", "tion", mAbove0)]
  | some 'c' => firstStem z [("icne", "ence", mAbove0), ("icna", "ance", mAbove0)]
  | some 'e' => firstStem z [("rezi", "ize", mAbove0)]
  | some 'g' => firstStem z [("igol", "log", mAbove0)]
  | some 'l' =>
    firstStem z [("ilb", "ble", mAbove0), ("illa", "al", mAbove0), ("iltne", "ent", mAbove0),
      ("ile", "e", mAbove0), ("ilsuo", "ous", mAbove0)]
  | some 'o' => firstStem z [("noitazi", "ize", mAbove0), ("noita", "ate", mAbove0), ("rota", "ate", mAbove0)]
  | some 's' =>
    firstStem z [("msila", "al", mAbove0), ("ssenevi", "ive", mAbove0), ("ssenluf", "ful", mAbove0),
      ("ssensuo", "ous", mAbove0)]
  | some 't' => firstStem z [("itila", "al", mAbove0), ("itivi", "ive", mAbove0), ("itilib", "ble", mAbove0)]
  | _ => z

/-- Step 3: `-icate`, `-ative`, `-alize`, `-iciti`, `-ical`, `-ful`, `-ness`. -/
def step3 (z : List Char) : List Char :=
  match z.head? with
  | some 'e' => firstStem z [("etaci", "ic", mAbove0), ("evita", "", mAbove0), ("ezila", "al", mAbove0)]
  | some 'i' => firstStem z [("itici", "ic", mAbove0)]
  | some 'l' => firstStem z [("laci", "ic", mAbove0), ("luf", "", mAbove0)]
  | some 's' => firstStem z [("ssen", "", mAbove0)]
  | _ => z

/-- The word without its last `k` letters when what is left has `m > 1`. -/
def dropIfLong (z : List Char) (k : Nat) : List Char :=
  if mAbove1 (z.drop k) then z.drop k else z

/-- Step 4: endings dropped from long words, keyed on the last letter but one. -/
def step4 (z : List Char) : List Char :=
  let c (k : Nat) : Option Char := at? z k
  match c 1 with
  | some 'a' => if c 0 == some 'l' then dropIfLong z 2 else z
  | some 'c' =>
    if c 0 == some 'e' && c 2 == some 'n' && (c 3 == some 'a' || c 3 == some 'e') then dropIfLong z 4 else z
  | some 'e' => if c 0 == some 'r' then dropIfLong z 2 else z
  | some 'i' => if c 0 == some 'c' then dropIfLong z 2 else z
  | some 'l' =>
    if c 0 == some 'e' && c 2 == some 'b' && (c 3 == some 'a' || c 3 == some 'i') then dropIfLong z 4 else z
  | some 'n' =>
    if c 0 == some 't' then
      if c 2 == some 'a' then dropIfLong z 3
      else if c 2 == some 'e' then
        firstStem z [("tneme", "", mAbove1), ("tnem", "", mAbove1), ("tne", "", mAbove1)]
      else z
    else z
  | some 'o' =>
    if c 0 == some 'u' then dropIfLong z 2
    else if c 3 == some 's' || c 3 == some 't' then firstStem z [("noi", "", mAbove1)]
    else z
  | some 's' => if c 0 == some 'm' && c 2 == some 'i' then dropIfLong z 3 else z
  | some 't' => firstStem z [("eta", "", mAbove1), ("iti", "", mAbove1)]
  | some 'u' => if c 0 == some 's' && c 2 == some 'o' then dropIfLong z 3 else z
  | some 'v' => if c 0 == some 'e' && c 2 == some 'i' then dropIfLong z 3 else z
  | some 'z' => if c 0 == some 'e' && c 2 == some 'i' then dropIfLong z 3 else z
  | _ => z

/-- Step 5: a final `e` of a long word goes, and a final `ll` of a long word loses an `l`. -/
def step5 (z : List Char) : List Char :=
  let z := match z with
    | 'e' :: rest => if mAbove1 rest || (mIs1 rest && !endsCvc rest) then rest else z
    | _ => z
  match z with
  | 'l' :: 'l' :: _ => if mAbove1 z then z.drop 1 else z
  | _ => z

/-- The stem of a word given reversed. -/
def stemReversed (z : List Char) : List Char :=
  step5 (step4 (step3 (step2 (step1c (step1b (step1a z))))))

/-- ASCII lowercase of one character. -/
def lowerAscii (c : Char) : Char := if 'A' ≤ c && c ≤ 'Z' then Char.ofNat (c.toNat + 32) else c

/-- A word that is not stemmed: lowered, and when longer than twice a limit (three letters
when it holds a digit, ten otherwise) only that many letters from each end are kept. -/
def copyWord (w : List Char) : List Char :=
  let lowered := w.map lowerAscii
  let limit := if w.any Char.isDigit then 3 else 10
  if w.length > 2 * limit then lowered.take limit ++ lowered.drop (w.length - limit) else lowered

/-- The term of a word for the third and fourth versions of full-text tables: the stem of a
word of three to twenty ASCII letters, else the word copied. -/
def porterTerm (w : List Char) : String :=
  if w.length < 3 || w.length > 20 || !w.all Char.isAlpha then String.ofList (copyWord w)
  else String.ofList (stemReversed (w.map lowerAscii).reverse).reverse

/-- The term of a word for the fifth version, whose words come lowered already: the stem of a
word of three to sixty-four bytes, else the word itself. -/
def stemTerm (w : String) : String :=
  if w.utf8ByteSize < 3 || w.utf8ByteSize > 64 then w
  else String.ofList (stemReversed w.toList.reverse).reverse

end Stem

end QueryDoc.Store.FullText
