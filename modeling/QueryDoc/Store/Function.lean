import QueryDoc.Store.Bound
import QueryDoc.Store.Failure
import QueryDoc.Store.DateTime
import QueryDoc.Store.JsonCall

/-!
Operators and functions on values.

Arithmetic reads its operands as numbers (texts by their numeric beginning) and gives null
when either is null. Two integers give an integer, except when the exact result leaves the
64-bit range, when the operands are taken as doubles instead; division and remainder by
zero give null, and integer division cuts toward zero.

Comparisons give 1, 0 or null, after converting their operands as the comparison's
preference says. `and` and `or` follow three-valued logic.

`like` matches `%` to any run of characters and `_` to one character, ASCII letters without
regard to case, and a character after the escape character literally. `glob` matches `*`,
`?` and bracketed classes, with case.

Aggregates accumulate over the rows of a group. A sum of integers stays an integer unless it
overflows, which is a failure; once a double or a non-integer joins, the sum is a double kept
with a running error term.
-/

namespace QueryDoc.Store

namespace Datum

/-- Both operands as numbers, unless either is null. -/
def numericPair (a b : Datum) : Option (Datum × Datum) :=
  if a.isNull || b.isNull then none else some (a.toNumeric, b.toNumeric)

/-- The sum of two values. -/
def add (a b : Datum) : Datum :=
  match numericPair a b with
  | none => .null
  | some (.integer x, .integer y) =>
    if fitsInteger (x + y) then .integer (x + y) else ofReal (intToFloat x + intToFloat y)
  | some (x, y) => ofReal (x.toReal + y.toReal)

/-- The difference of two values. -/
def sub (a b : Datum) : Datum :=
  match numericPair a b with
  | none => .null
  | some (.integer x, .integer y) =>
    if fitsInteger (x - y) then .integer (x - y) else ofReal (intToFloat x - intToFloat y)
  | some (x, y) => ofReal (x.toReal - y.toReal)

/-- The product of two values. -/
def mul (a b : Datum) : Datum :=
  match numericPair a b with
  | none => .null
  | some (.integer x, .integer y) =>
    if fitsInteger (x * y) then .integer (x * y) else ofReal (intToFloat x * intToFloat y)
  | some (x, y) => ofReal (x.toReal * y.toReal)

/-- The quotient of two values; by zero it is null. -/
def div (a b : Datum) : Datum :=
  match numericPair a b with
  | none => .null
  | some (.integer x, .integer y) =>
    if y == 0 then .null
    else if x == minInteger && y == -1 then ofReal (intToFloat x / intToFloat y)
    else .integer (x.tdiv y)
  | some (x, y) =>
    let d := y.toReal
    if d == 0.0 then .null else ofReal (x.toReal / d)

/-- The remainder of two values, taken on integers; by zero it is null. -/
def rem (a b : Datum) : Datum :=
  match numericPair a b with
  | none => .null
  | some (.integer x, .integer y) =>
    if y == 0 then .null else if y == -1 then .integer 0 else .integer (x.tmod y)
  | some (x, y) =>
    let ix := x.toInteger
    let iy := y.toInteger
    if iy == 0 then .null
    else
      let iy := if iy == -1 then 1 else iy
      ofReal (intToFloat (ix.tmod iy))

/-- Two texts joined; null if either is null. -/
def concat (a b : Datum) : Datum :=
  if a.isNull || b.isNull then .null else Datum.joinTexts [a, b]

/-- The value as a 64-bit two's complement word. -/
def toWord (d : Datum) : Int := d.toInteger

/-- A word back into the signed range. -/
def ofWord (w : Int) : Datum :=
  let m := w % (Int.pow 2 64)
  .integer (if m ≥ Int.pow 2 63 then m - Int.pow 2 64 else m)

/-- Bits of two's complement words, combined bit by bit. -/
def bitwise (f : Bool → Bool → Bool) (a b : Datum) : Datum :=
  if a.isNull || b.isNull then .null
  else
    let x := (a.toWord % (Int.pow 2 64)).toNat
    let y := (b.toWord % (Int.pow 2 64)).toNat
    let bits := (List.range 64).foldl (fun acc i =>
      if f (x.testBit i) (y.testBit i) then acc + Int.pow 2 i else acc) 0
    ofWord bits

/-- A left shift by `k` bits, right for negative `k`. -/
def shift (a : Datum) (k : Int) : Datum :=
  if k ≥ 64 then .integer 0
  else if k ≤ -64 then .integer (if a.toWord < 0 then -1 else 0)
  else if k ≥ 0 then ofWord (a.toWord * Int.pow 2 k.toNat)
  else .integer (a.toWord / Int.pow 2 (-k).toNat)

end Datum

/-- A comparison operator applied after conversion: 1, 0, or null when a side is null. Texts
compare under the comparison's collation. -/
def compareValues (op : BinaryOp) (cmp : Comparison) (a b : Datum) : Datum :=
  match op with
  | .isSame | .isNotSame =>
    let same :=
      if a.isNull && b.isNull then true
      else if a.isNull || b.isNull then false
      else
        let (x, y) := prepareComparison cmp.affinity a b
        x.sameWith cmp.collation y
    .ofTruth (some (if op == .isSame then same else !same))
  | _ =>
    if a.isNull || b.isNull then .null
    else
      let (x, y) := prepareComparison cmp.affinity a b
      let c := x.compareWith cmp.collation y
      .ofTruth (some (match op with
        | .eq => c == .eq
        | .ne => c != .eq
        | .lt => c == .lt
        | .le => c != .gt
        | .gt => c == .gt
        | _ => c != .lt))

/-- Three-valued `and`. -/
def andTruth : Option Bool → Option Bool → Option Bool
  | some false, _ => some false
  | _, some false => some false
  | some true, some true => some true
  | _, _ => none

/-- Three-valued `or`. -/
def orTruth : Option Bool → Option Bool → Option Bool
  | some true, _ => some true
  | _, some true => some true
  | some false, some false => some false
  | _, _ => none

/-- A binary operator that is not a comparison. -/
def applyBinary (op : BinaryOp) (a b : Datum) : Datum :=
  match op with
  | .add => a.add b
  | .sub => a.sub b
  | .mul => a.mul b
  | .div => a.div b
  | .rem => a.rem b
  | .concat => a.concat b
  | .and => .ofTruth (andTruth a.truth? b.truth?)
  | .or => .ofTruth (orTruth a.truth? b.truth?)
  | .bitAnd => Datum.bitwise (· && ·) a b
  | .bitOr => Datum.bitwise (· || ·) a b
  | .shiftLeft => if a.isNull || b.isNull then .null else a.shift b.toInteger
  | .shiftRight => if a.isNull || b.isNull then .null else a.shift (-b.toInteger)
  | _ => .null

/-- A unary operator. -/
def applyUnary (op : UnaryOp) (a : Datum) : Datum :=
  match op with
  | .neg => (Datum.integer 0).sub a
  | .plus => a
  | .not => .ofTruth (a.truth?.map (!·))
  | .bitNot => if a.isNull then .null else Datum.ofWord (-a.toWord - 1)

/-! ### Pattern matching -/

/-- ASCII lowercase of one character. -/
def lowerAscii (c : Char) : Char := if 'A' ≤ c && c ≤ 'Z' then Char.ofNat (c.toNat + 32) else c

/-- Whether a text matches a `like` pattern; unless `exact`, ASCII letters match either case. -/
def likeMatch (exact : Bool) (esc : Option Char) : List Char → List Char → Bool
  | [], text => text.isEmpty
  | p :: ps, text =>
    let same (a b : Char) : Bool := if exact then a == b else lowerAscii a == lowerAscii b
    if esc == some p then
      match ps, text with
      | q :: qs, t :: ts => same q t && likeMatch exact esc qs ts
      | _, _ => false
    else if p == '%' then
      (List.range (text.length + 1)).any fun k => likeMatch exact esc ps (text.drop k)
    else if p == '_' then
      match text with
      | _ :: ts => likeMatch exact esc ps ts
      | [] => false
    else
      match text with
      | t :: ts => same p t && likeMatch exact esc ps ts
      | [] => false

/-- Whether a character is in a bracketed class of a `glob` pattern; returns the verdict and
the pattern after the class, or nothing for an unclosed class. -/
def globClass (c : Char) (cs : List Char) : Option (Bool × List Char) :=
  let (negated, cs) := match cs with
    | '^' :: r => (true, r)
    | r => (false, r)
  -- a `]` right after the opening is a member, but starts no range
  let (first, cs) := match cs with
    | ']' :: r => (c == ']', r)
    | r => (false, r)
  let body := cs.takeWhile (· != ']')
  let rest := cs.dropWhile (· != ']')
  match rest with
  | [] => none
  | _ :: after =>
    -- `prior` is the last single member, which a following `-` makes the start of a range
    let rec member : List Char → Option Char → Bool
      | '-' :: b :: more, some a => (a ≤ c && c ≤ b) || member more none
      | x :: more, _ => x == c || member more (some x)
      | [], _ => false
    some ((first || member body none) != negated, after)

/-- Whether a text matches a `glob` pattern. -/
def globMatch : List Char → List Char → Bool
  | [], text => text.isEmpty
  | p :: ps, text =>
    if p == '*' then (List.range (text.length + 1)).any fun k => globMatch ps (text.drop k)
    else if p == '?' then
      match text with
      | _ :: ts => globMatch ps ts
      | [] => false
    else if p == '[' then
      match text with
      | t :: ts =>
        match globClass t ps with
        | some (true, after) =>
          -- the class consumed part of the pattern; it is shorter than `ps`
          globMatch (after.take ps.length) ts
        | _ => false
      | [] => false
    else
      match text with
      | t :: ts => p == t && globMatch ps ts
      | [] => false
termination_by ps => ps.length
decreasing_by
  all_goals first
    | exact Nat.lt_succ_self _
    | exact Nat.lt_of_le_of_lt (List.length_take_le _ _) (Nat.lt_succ_self _)

/-! ### Text helpers -/

/-- ASCII lowercase of a text. -/
def lowerText (s : String) : String := String.ofList (s.toList.map lowerAscii)

/-- ASCII uppercase of a text. -/
def upperText (s : String) : String :=
  String.ofList (s.toList.map fun c => if 'a' ≤ c && c ≤ 'z' then Char.ofNat (c.toNat - 32) else c)

/-- The 1-based place of the first occurrence of `needle` in `hay`, or 0. -/
def findPlace {α : Type} [BEq α] (hay needle : List α) : Nat :=
  let n := hay.length
  match (List.range (n + 1)).find? (fun k => (hay.drop k).take needle.length == needle && k + needle.length ≤ n) with
  | some k => k + 1
  | none => 0

/-- Replaces every occurrence of a non-empty pattern, left to right. -/
def replaceAll (s pat rep : List UInt8) : Nat → List UInt8
  | 0 => s
  | fuel + 1 =>
    match s with
    | [] => []
    | c :: cs =>
      if pat.isEmpty then s
      else if (c :: cs).take pat.length == pat then rep ++ replaceAll (s.drop pat.length) pat rep fuel
      else c :: replaceAll cs pat rep fuel

/-- Upper-case hexadecimal digits of bytes. -/
def hexText (bytes : List UInt8) : String :=
  let digit (n : Nat) : Char := if n < 10 then Char.ofNat (48 + n) else Char.ofNat (55 + n)
  String.ofList (bytes.flatMap fun b => [digit (b.toNat / 16), digit (b.toNat % 16)])

/-- `substr` on characters or bytes, with the conventions for a start at or before zero and a
negative length. -/
def substrRange (len : Nat) (start : Int) (count : Option Int) : Nat × Nat :=
  let (p2, negP2) := match count with
    | some c => if c < 0 then (-c, true) else (c, false)
    | none => ((1000000000 : Int), false)
  let (p1, p2) :=
    if start < 0 then
      let p1 := start + len
      if p1 < 0 then (0, max 0 (p2 + p1)) else (p1, p2)
    else if start > 0 then (start - 1, p2)
    else (0, if p2 > 0 then p2 - 1 else p2)
  let (p1, p2) :=
    if negP2 then
      let p1' := p1 - p2
      if p1' < 0 then (0, max 0 (p2 + p1')) else (p1', p2)
    else (p1, p2)
  (p1.toNat, p2.toNat)

/-- `round(x, places)`: a double beyond 2^52 has no fraction and stays; to no places it is
`x ± 0.5` cut toward zero; otherwise it is written with that many places and read back. -/
def roundValue (x : Float) (places : Int) : Float :=
  let n := if places < 0 then 0 else if places > 30 then 30 else places.toNat
  if x < -4503599627370496.0 || x > 4503599627370496.0 then x
  else if n == 0 then intToFloat (truncateToInteger (if x < 0.0 then x - 0.5 else x + 0.5))
  else (scanNumber (formatReal { style := .fixed, precision := some n, extended := true } x)).value

/-- The text of a value as `quote` writes it. -/
def quoteText : Datum → String
  | .null => "NULL"
  | .integer n => toString n
  | .real x =>
    let short := (printfText "%!0.15g" [.real x]).getD ""
    if (scanNumber short).value == x then short else (printfText "%!0.20e" [.real x]).getD short
  | .text s => "'" ++ String.ofList (s.toList.flatMap fun c => if c == '\'' then ['\'', '\''] else [c]) ++ "'"
  | .blob bs => "X'" ++ hexText bs ++ "'"
  | .rawText bs => "'" ++ String.ofList ((bytesText bs).toList.flatMap fun c => if c == '\'' then ['\'', '\''] else [c]) ++ "'"

/-- Trims characters of a set from one or both ends. -/
def trimWith (set : List Char) (left right : Bool) (s : String) : String :=
  let cs := s.toList
  let cs := if left then cs.dropWhile set.contains else cs
  let cs := if right then (cs.reverse.dropWhile set.contains).reverse else cs
  String.ofList cs

/-- The value with numbers kept and numeric texts read as numbers. -/
def numericValue : Datum → Datum
  | .text s => (numberOfText? s).getD (.text s)
  | d => d


/-- What some functions read besides their arguments: the connection's counts of changed
rows and its last inserted row id. -/
structure CallContext where
  changes : Nat
  totalChanges : Nat
  lastRowid : Int
  /-- Whether `like` tells upper from lower case. -/
  caseSensitiveLike : Bool
  /-- How the database stores text, which the bytes of a text follow. -/
  encoding : TextEncoding := .utf8
  deriving Inhabited

/-- The largest (`max`) or smallest of the arguments under a collation; null if any is
null. -/
def extremeOf (max : Bool) (coll : Collation) : List Datum → Datum
  | [] => .null
  | d :: ds =>
    if d.isNull || ds.any Datum.isNull then .null
    else ds.foldl (fun best x =>
      let c := best.compareWith coll x
      if max then (if c == .lt then x else best) else (if c == .gt then x else best)) d

/-- The soundex code of each ASCII letter, 0 for vowels and the letters it ignores. -/
def soundexCode (c : Char) : Nat :=
  match c.toUpper with
  | 'B' | 'F' | 'P' | 'V' => 1
  | 'C' | 'G' | 'J' | 'K' | 'Q' | 'S' | 'X' | 'Z' => 2
  | 'D' | 'T' => 3
  | 'L' => 4
  | 'M' | 'N' => 5
  | 'R' => 6
  | _ => 0

/-- Whether a character is an ASCII letter. -/
def isAsciiAlpha (c : Char) : Bool := ('a' ≤ c && c ≤ 'z') || ('A' ≤ c && c ≤ 'Z')

/-- The soundex encoding of a text: its first letter and three digits, or `?000` when it has
no letter. -/
def soundexText (s : String) : String :=
  let cs := s.toList.dropWhile (!isAsciiAlpha ·)
  match cs with
  | [] => "?000"
  | first :: _ =>
    let step (st : Nat × List Char) (c : Char) : Nat × List Char :=
      let (prev, acc) := st
      if acc.length ≥ 4 then st
      else
        let code := if isAsciiAlpha c then soundexCode c else 0
        if code > 0 then (if code != prev then (code, acc ++ [Char.ofNat (48 + code)]) else st)
        else (0, acc)
    let (_, acc) := cs.foldl step (soundexCode first, [first.toUpper])
    String.ofList (acc ++ List.replicate (4 - acc.length) '0')

/-- The options the library reports it was built with. -/
def compileOptions : List String :=
  ["ATOMIC_INTRINSICS=1", "COMPILER=gcc-13.2.0", "DEFAULT_AUTOVACUUM", "DEFAULT_CACHE_SIZE=-2000",
   "DEFAULT_FILE_FORMAT=4", "DEFAULT_FOREIGN_KEYS", "DEFAULT_JOURNAL_SIZE_LIMIT=-1", "DEFAULT_MMAP_SIZE=0",
   "DEFAULT_PAGE_SIZE=4096", "DEFAULT_PCACHE_INITSZ=20", "DEFAULT_RECURSIVE_TRIGGERS",
   "DEFAULT_SECTOR_SIZE=4096", "DEFAULT_SYNCHRONOUS=2", "DEFAULT_WAL_AUTOCHECKPOINT=1000",
   "DEFAULT_WAL_SYNCHRONOUS=2", "DEFAULT_WORKER_THREADS=0", "DIRECT_OVERFLOW_READ", "ENABLE_API_ARMOR",
   "ENABLE_COLUMN_METADATA", "ENABLE_DBSTAT_VTAB", "ENABLE_FTS3", "ENABLE_FTS3_PARENTHESIS",
   "ENABLE_FTS5", "ENABLE_LOAD_EXTENSION", "ENABLE_MEMORY_MANAGEMENT", "ENABLE_RTREE", "ENABLE_STAT4",
   "HAVE_ISNAN", "MALLOC_SOFT_LIMIT=1024", "MAX_ATTACHED=10", "MAX_COLUMN=2000", "MAX_COMPOUND_SELECT=500",
   "MAX_DEFAULT_PAGE_SIZE=8192", "MAX_EXPR_DEPTH=1000", "MAX_FUNCTION_ARG=127", "MAX_LENGTH=1000000000",
   "MAX_LIKE_PATTERN_LENGTH=50000", "MAX_MMAP_SIZE=0x7fff0000", "MAX_PAGE_COUNT=0xfffffffe",
   "MAX_PAGE_SIZE=65536", "MAX_SQL_LENGTH=1000000000", "MAX_TRIGGER_DEPTH=1000",
   "MAX_VARIABLE_NUMBER=32766", "MAX_VDBE_OP=250000000", "MAX_WORKER_THREADS=8", "MUTEX_PTHREADS",
   "SOUNDEX", "SYSTEM_MALLOC", "TEMP_STORE=1", "THREADSAFE=1", "USE_URI"]

/-- Whether the library was built with an option, named with or without its prefix: some
option begins with the name, in any case, and does not go on with a character of a name. -/
def compileOptionUsed (name : String) : Bool :=
  let n := if name.toUpper.startsWith "SQLITE_" then String.ofList (name.toList.drop 7) else name
  let n := n.toUpper.toList
  compileOptions.any fun o =>
    let cs := o.toUpper.toList
    cs.take n.length == n && cs.length ≥ n.length &&
      !((cs[n.length]?.map fun c => c.isAlphanum || c == '_' || c == '$').getD false)

/-- Whether a character is a hexadecimal digit. -/
def isHexChar (c : Char) : Bool := c.isDigit || ('a' ≤ c && c ≤ 'f') || ('A' ≤ c && c ≤ 'F')

/-- The value of a hexadecimal digit. -/
def hexCharValue (c : Char) : Nat :=
  if c.isDigit then c.toNat - 48 else if 'a' ≤ c && c ≤ 'f' then c.toNat - 87 else c.toNat - 55

/-- The bytes a hexadecimal text stands for, ignoring the characters in `skip` between
pairs of digits; none when it holds anything else. -/
def unhexBytes (s : String) (skip : List Char) : Option (List UInt8) :=
  let rec go : Nat → List Char → List UInt8 → Option (List UInt8)
    | 0, _, acc => some acc.reverse
    | _ + 1, [], acc => some acc.reverse
    | fuel + 1, c :: rest, acc =>
      if skip.contains c then go fuel rest acc
      else
        match rest with
        | d :: more =>
          if isHexChar c && isHexChar d then
            go fuel more (UInt8.ofNat (hexCharValue c * 16 + hexCharValue d) :: acc)
          else none
        | [] => none
  go (s.length + 1) s.toList []

/-- The characters of a text up to its first NUL, which ends texts for `length`. -/
def beforeNul (s : String) : List Char := s.toList.takeWhile (· != '\x00')

/-- The bytes `char` writes for a code point: its UTF-8 form, surrogates included; code points
beyond Unicode or negative are written as U+FFFD. -/
def codePointBytes (n : Int) : List UInt8 :=
  let c : Nat := if n < 0 || n > 0x10FFFF then 0xFFFD else n.toNat
  let cont (k : Nat) : UInt8 := UInt8.ofNat (0x80 + (c / Nat.pow 2 (6 * k)) % 64)
  if c < 0x80 then [UInt8.ofNat c]
  else if c < 0x800 then [UInt8.ofNat (0xC0 + c / 64), cont 0]
  else if c < 0x10000 then [UInt8.ofNat (0xE0 + c / 4096), cont 1, cont 0]
  else [UInt8.ofNat (0xF0 + c / 262144), cont 2, cont 1, cont 0]

/-- A date and time function applied to evaluated arguments. -/
def applyTime (f : Builtin) (args : List Datum) : Datum :=
  match f with
  | .strftime =>
    match args with
    | [] => .null
    | fmt :: rest =>
      match fmt.toText?, DateText.ofArgs rest with
      | some format, some p =>
        match DateText.strftimeText format p with
        | some s => .text s
        | none => .null
      | _, _ => .null
  | .timediff =>
    match DateText.ofArgs (args.take 1), DateText.ofArgs (args.drop 1) with
    | some a, some b => .text (DateText.timediffText a b)
    | _, _ => .null
  | _ =>
    match DateText.ofArgs args with
    | none => .null
    | some p =>
      match f with
      | .date => .text (DateText.dateText p)
      | .time => .text (DateText.timeText p)
      | .datetime => .text (DateText.dateTimeText p)
      | .julianday => .real (Moment.toF p.jd / 86400000.0)
      | .unixepoch => DateText.unixSeconds p
      | _ => .null

/-- A scalar builtin applied to evaluated arguments whose texts are all UTF-8; `coll` is what
`min`, `max`, `nullif` compare under. -/
def applyValues (f : Builtin) (args : List Datum) (ctx : CallContext) (coll : Collation) : Outcome Datum :=
  let arg (i : Nat) : Datum := args[i]?.getD .null
  match f with
  | .abs =>
    match arg 0 with
    | .null => pure .null
    | .integer n =>
      if n == minInteger then throw (Failure.general "integer overflow") else pure (.integer n.natAbs)
    | .real x => pure (.real (if x < 0.0 then -x else x))
    | other => pure (.real (let x := other.toReal; if x < 0.0 then -x else x))
  | .coalesce | .ifnull => pure ((args.find? (!·.isNull)).getD .null)
  | .iif => pure (if (arg 0).truth? == some true then arg 1 else arg 2)
  | .instr =>
    match arg 0, arg 1 with
    | .null, _ | _, .null => pure .null
    | .blob h, .blob n => pure (.integer (findPlace h n))
    | h, n => pure (.integer (findPlace h.toText.toList n.toText.toList))
  | .length =>
    match arg 0 with
    | .null => pure .null
    | .blob bs => pure (.integer bs.length)
    | d => pure (.integer (beforeNul d.toText).length)
  | .octetLength =>
    match arg 0 with
    | .null => pure .null
    | .blob bs => pure (.integer bs.length)
    | d => pure (.integer (ctx.encoding.bytesOf d).length)
  | .lower => pure ((arg 0).toText?.map (Datum.text ∘ lowerText) |>.getD .null)
  | .upper => pure ((arg 0).toText?.map (Datum.text ∘ upperText) |>.getD .null)
  | .ltrim | .rtrim | .trim =>
    match arg 0 with
    | .null => pure .null
    | x =>
      let set := if args.length == 2 then (arg 1).toText?.map (·.toList) else some [' ']
      match set with
      | none => pure .null
      | some set => pure (.text (trimWith set (f != .rtrim) (f != .ltrim) x.toText))
  | .greatest => pure (extremeOf true coll args)
  | .least => pure (extremeOf false coll args)
  | .nullif => pure (if !(arg 0).isNull && (arg 0).compareWith coll (arg 1) == .eq then .null else arg 0)
  | .replace =>
    match arg 0, arg 1, arg 2 with
    | .null, _, _ | _, .null, _ => pure .null
    | x, p, r =>
      let pat := p.asTextBytes
      if pat.isEmpty then pure (Datum.ofTextBytes x.asTextBytes)
      else if r.isNull then pure .null
      else
        let s := x.asTextBytes
        pure (Datum.ofTextBytes (replaceAll s pat r.asTextBytes (s.length + 1)))
  | .round =>
    match arg 0 with
    | .null => pure .null
    | x =>
      let places := if args.length == 2 then (arg 1).toInteger else 0
      if args.length == 2 && (arg 1).isNull then pure .null
      else pure (Datum.ofReal (roundValue x.toReal places))
  | .substr =>
    match arg 0, arg 1 with
    | .null, _ | _, .null => pure .null
    | x, s =>
      if args.length == 3 && (arg 2).isNull then pure .null
      else
        let count := if args.length == 3 then some (Printf.toInt32 (arg 2).toInteger) else none
        let start := Printf.toInt32 s.toInteger
        match x with
        | .blob bs =>
          let (p1, p2) := substrRange bs.length start count
          pure (.blob ((bs.drop p1).take p2))
        | _ =>
          let cs := x.toText.toList
          let (p1, p2) := substrRange cs.length start count
          pure (.text (String.ofList ((cs.drop p1).take p2)))
  | .typeOf => pure (.text (arg 0).typeName)
  | .hex =>
    match arg 0 with
    | .blob bs => pure (.text (hexText bs))
    | .null => pure (.text "")
    | .text s => pure (.text (hexText (ctx.encoding.encode s.toList)))
    | d => pure (.text (hexText (textBytes d.toText)))
  | .unhex =>
    match arg 0 with
    | .null => pure .null
    | d =>
      let skip := if args.length == 2 then (arg 1).toText?.map (·.toList) else some []
      match skip with
      | none => pure .null
      | some skip =>
        match unhexBytes d.toText skip with
        | some bs => pure (.blob bs)
        | none => pure .null
  | .quote => pure (.text (quoteText (arg 0)))
  | .sign =>
    match numericValue (arg 0) with
    | .integer n => pure (.integer (if n > 0 then 1 else if n < 0 then -1 else 0))
    | .real x => pure (.integer (if x > 0.0 then 1 else if x < 0.0 then -1 else 0))
    | _ => pure .null
  | .changes => pure (.integer ctx.changes)
  | .totalChanges => pure (.integer ctx.totalChanges)
  | .lastInsertRowid => pure (.integer ctx.lastRowid)
  | .likely | .unlikely => pure (arg 0)
  | .likelihood => pure (arg 0)
  | .concat => pure (Datum.joinTexts (args.filter (!·.isNull)))
  | .concatWs =>
    match arg 0 with
    | .null => pure .null
    | sep => pure (Datum.joinTexts (((args.drop 1).filter (!·.isNull)).intersperse sep))
  | .glob =>
    match arg 0, arg 1 with
    | .null, _ | _, .null => pure .null
    | p, x => pure (.ofTruth (some (globMatch p.toText.toList x.toText.toList)))
  | .like =>
    match arg 0, arg 1 with
    | .null, _ | _, .null => pure .null
    | p, x =>
      if args.length == 3 then
        match (arg 2).toText? with
        | none => pure .null
        | some e =>
          match e.toList with
          | [c] => pure (.ofTruth (some (likeMatch ctx.caseSensitiveLike (some c) p.toText.toList x.toText.toList)))
          | _ => throw (Failure.general "ESCAPE expression must be a single character")
      else pure (.ofTruth (some (likeMatch ctx.caseSensitiveLike none p.toText.toList x.toText.toList)))
  | .unicode =>
    match (arg 0).toText? with
    | some s => pure (match s.toList with
      | c :: _ => .integer c.toNat
      | [] => .null)
    | none => pure .null
  | .char => pure (Datum.ofTextBytes (args.flatMap fun d => codePointBytes d.toInteger))
  | .format =>
    match args with
    | [] => pure .null
    | fmt :: rest =>
      match fmt.toText? with
      | none => pure .null
      | some format =>
        match printfBytes format rest with
        | some bs => pure (Datum.ofTextBytes bs)
        | none => pure .null
  | .random => pure (.integer (-3739024315658318813))
  | .randomblob =>
    let n := (arg 0).toInteger
    let n := if n < 1 then 1 else n.toNat
    pure (.blob ((List.range n).map fun i => UInt8.ofNat ((i * 151 + 89) % 256)))
  | .zeroblob =>
    let n := (arg 0).toInteger
    pure (.blob (List.replicate (if n < 0 then 0 else n.toNat) 0))
  | .soundex =>
    pure (.text (soundexText ((arg 0).toText?.getD "")))
  | .compileOptionGet =>
    let n := (arg 0).toInteger
    if n < 0 then pure .null
    else pure ((compileOptions[n.toNat]?.map Datum.text).getD .null)
  | .compileOptionUsed =>
    match (arg 0).toText? with
    | some name => pure (.integer (if compileOptionUsed name then 1 else 0))
    | none => pure .null
  | .sqliteOffset => pure .null
  | .sourceId => pure (.text "2024-05-23 13:25:27 96c92aba00c8375bc32fafcdf12429c58bd8aabfcadab6683e35bbb9cdebf19e")
  | .version => pure (.text "3.46.0")
  | .fts5SourceId => pure (.text "fts5: 2024-05-23 13:25:27 96c92aba00c8375bc32fafcdf12429c58bd8aabfcadab6683e35bbb9cdebf19e")
  | .matchOp => throw (Failure.general "unable to use function MATCH in the requested context")
  | .snippet => throw (Failure.general "unable to use function snippet in the requested context")
  | .offsets => throw (Failure.general "unable to use function offsets in the requested context")
  | .matchinfo => throw (Failure.general "unable to use function matchinfo in the requested context")
  | .optimize => throw (Failure.general "unable to use function optimize in the requested context")
  | .highlight => throw (Failure.general "unable to use function highlight in the requested context")
  | .bm25 => throw (Failure.general "unable to use function bm25 in the requested context")
  | .date | .time | .datetime | .julianday | .unixepoch | .strftime | .timediff =>
    pure (applyTime f args)
  | _ => pure .null

/-! ### Texts that are not UTF-8 -/

/-- Stand-ins for the ill-formed characters of texts while a function runs on them: each a
private-use character that no argument uses, with the bytes of the character it stands for. -/
abbrev StandIns := List (Char × List UInt8)

/-- The first character from a code point on that no text uses and no stand-in takes. -/
def freeStandIn (used : List Char) (taken : StandIns) : Nat → Nat → Char
  | 0, c => Char.ofNat c
  | fuel + 1, c =>
    let ch := Char.ofNat c
    if used.contains ch || taken.any (·.1 == ch) then freeStandIn used taken fuel (c + 1) else ch

/-- The text of some bytes with each ill-formed character, as the database counts characters,
written as its stand-in. -/
def standInText (used : List Char) (taken : StandIns) (bytes : List UInt8) : String × StandIns :=
  (laxPieces bytes.length bytes).foldl (fun (acc : String × StandIns) piece =>
    match String.fromUTF8? (ByteArray.mk piece.toArray) with
    | some s => (acc.1 ++ s, acc.2)
    | none =>
      match acc.2.find? (·.2 == piece) with
      | some (c, _) => (acc.1.push c, acc.2)
      | none =>
        let c := freeStandIn used acc.2 (used.length + acc.2.length + 1) 0xF0000
        (acc.1.push c, acc.2 ++ [(c, piece)])) ("", taken)

/-- A result with its stand-ins turned back into the bytes they stand for. -/
def restoreStandIns (ins : StandIns) : Datum → Datum
  | .text s =>
    if ins.isEmpty || !s.toList.any (fun c => ins.any (·.1 == c)) then .text s
    else Datum.ofTextBytes (s.toList.flatMap fun c =>
      match ins.find? (·.1 == c) with
      | some (_, bs) => bs
      | none => textBytes c.toString)
  | d => d

/-- Whether a builtin gives back one of its arguments as it is, so that its arguments are
passed unchanged. -/
def Builtin.passesArguments : Builtin → Bool
  | .coalesce | .ifnull | .iif | .nullif | .greatest | .least | .likely | .unlikely | .likelihood => true
  | _ => false

/-- A scalar builtin applied to evaluated arguments. A text argument that is not UTF-8 is
read by the database character by character, each ill-formed character counting as one: the
function runs on the text with stand-ins for those, and stand-ins in its result become their
bytes again. `hex`, `octet_length` and `unicode` read its bytes themselves. -/
def applyBuiltin (f : Builtin) (args : List Datum) (ctx : CallContext) (coll : Collation) : Outcome Datum :=
  let isRaw (d : Datum) : Bool := match d with
    | .rawText _ => true
    | _ => false
  if !args.any isRaw || f.passesArguments then applyValues f args ctx coll
  else
    match f, args with
    | .hex, d@(.rawText _) :: _ => pure (.text (hexText (ctx.encoding.bytesOf d)))
    | .octetLength, d@(.rawText _) :: _ => pure (.integer (ctx.encoding.bytesOf d).length)
    | .unicode, .rawText bs :: _ =>
      match laxPieces bs.length bs with
      | piece :: _ => pure (.integer (laxCodePoint piece))
      | [] => pure .null
    | _, _ =>
      let used := args.flatMap fun d => match d with
        | .rawText _ => []
        | other => (other.toText?.map (·.toList)).getD []
      let (args', ins) := args.foldl (fun (acc : List Datum × StandIns) d =>
        match d with
        | .rawText bs =>
          let (s, ins) := standInText used acc.2 bs
          (acc.1 ++ [.text s], ins)
        | other => (acc.1 ++ [other], acc.2)) ([], [])
      (applyValues f args' ctx coll).map (restoreStandIns ins)

/-- A scalar builtin applied to evaluated arguments, `tags` saying which are marked as JSON:
its value, and whether that is marked as JSON. A JSON function decides that itself; `likely`,
`unlikely`, `likelihood`, `nullif`, `max` and `min` pass on the mark of the argument they give
back. -/
def applyTagged (f : Builtin) (args : List Datum) (ctx : CallContext) (coll : Collation)
    (tags : List Bool) : Outcome (Datum × Bool) :=
  if f.isJson then JsonCall.apply f args tags
  else do
    let v ← applyBuiltin f args ctx coll
    let tagged := args.zip (tags ++ List.replicate args.length false)
    let marked := match f with
      | .likely | .unlikely | .likelihood => tags.headD false
      | .nullif => !v.isNull && tags.headD false
      | .greatest => ((tagged.find? fun (d, _) => Bound.sameDatum d v).map (·.2)).getD false
      | .least => ((tagged.reverse.find? fun (d, _) => Bound.sameDatum d v).map (·.2)).getD false
      | _ => false
    pure (v, marked)

end QueryDoc.Store
