import QueryDoc.Store.Datum

/-!
Formatting values by a format text, as `printf` and `format` do.

The format is copied as it stands except for conversions. A conversion is `%`, then flags
(`-` left-justify, `+` or a blank for the sign of positive numbers, `#` alternate form, `!`
characters instead of bytes and more digits, `0` zero padding, `,` thousands), a width
(digits, or `*` for the next argument), a precision (`.` and digits, or `.*`), an optional
`l` or `ll` that changes nothing, and a letter:

* `d`, `i` a signed integer; `u` an unsigned one; `x`, `X`, `o` hexadecimal and octal
  digits of the 64-bit pattern; `p` like `X`; `r` an ordinal such as `2nd`;
* `f`, `e`, `E`, `g`, `G` a double, as `QueryDoc.Store.Digits` writes it;
* `s` a text; `c` the first character of a text, repeated to the precision;
* `q` a text with each `'` doubled, `Q` the same in quotes (or `NULL`), `w` with each `"`
  doubled;
* `%` a percent sign, and `n` nothing.

Arguments are taken in order; one that is missing counts as zero, an empty double or no text.
A format that ends after `%` ends with `%`; any other letter, or a format that ends inside a
conversion, stops the formatting there. When nothing at all was written, the result is null.
-/

namespace QueryDoc.Store

/-- What a conversion was asked for, besides its letter. -/
structure PrintfSpec where
  leftJustify : Bool := false
  signChar : Option Char := none
  alternate : Bool := false
  extended : Bool := false
  zeroPad : Bool := false
  thousands : Bool := false
  width : Nat := 0
  precision : Option Nat := none
  deriving Inhabited

/-- The state of a formatting: the arguments still to take and the bytes written so far,
which are `none` until something is written. -/
structure PrintfState where
  args : List Datum
  out : Option (List UInt8)

namespace Printf

/-- Appends bytes; even none make the result a text rather than null. -/
def emitBytes (st : PrintfState) (bs : List UInt8) : PrintfState :=
  { st with out := some (st.out.getD [] ++ bs) }

/-- Appends a text. -/
def emit (st : PrintfState) (s : String) : PrintfState := emitBytes st (textBytes s)

/-- The next argument, if any, and the rest. -/
def takeArg (st : PrintfState) : Option Datum × PrintfState :=
  match st.args with
  | a :: rest => (some a, { st with args := rest })
  | [] => (none, st)

/-- The next argument as an integer; zero when they have run out. -/
def intArg (st : PrintfState) : Int × PrintfState :=
  let (a, st) := takeArg st
  ((a.map Datum.toInteger).getD 0, st)

/-- The next argument as a double; zero when they have run out. -/
def realArg (st : PrintfState) : Float × PrintfState :=
  let (a, st) := takeArg st
  ((a.map Datum.toReal).getD 0.0, st)

/-- The next argument as a text; none when it is null or they have run out. -/
def textArg (st : PrintfState) : Option String × PrintfState :=
  let (a, st) := takeArg st
  (a.bind Datum.toText?, st)

/-- A 32-bit signed integer from a 64-bit one, as a C cast keeps its low bits. -/
def toInt32 (n : Int) : Int :=
  let m := n % 4294967296
  if m ≥ 2147483648 then m - 4294967296 else m

/-- Reads decimal digits, keeping the value to 31 bits as the format reader does; returns
the value and the rest. -/
def readDigits : List Char → Nat → Nat × List Char
  | c :: cs, acc =>
    if c.isDigit then readDigits cs ((acc * 10 + (c.toNat - 48)) % 4294967296)
    else (acc % 2147483648, c :: cs)
  | [], acc => (acc % 2147483648, [])

/-- `n` blanks. -/
def blanks (n : Nat) : String := String.ofList (List.replicate n ' ')

/-- Pads a converted text to the width: blanks before it, or after it when left-justified.
`size` is how much of the width the text takes. -/
def pad (spec : PrintfSpec) (size : Nat) (s : String) : String :=
  if spec.width > size then
    if spec.leftJustify then s ++ blanks (spec.width - size) else blanks (spec.width - size) ++ s
  else s

/-- Pads converted bytes to the width, as `pad` does. -/
def padBytes (spec : PrintfSpec) (size : Nat) (bs : List UInt8) : List UInt8 :=
  if spec.width > size then
    let fill := List.replicate (spec.width - size) (32 : UInt8)
    if spec.leftJustify then bs ++ fill else fill ++ bs
  else bs

/-- How much of the width bytes take: all of them, or their characters under `!`. -/
def sizeOf (spec : PrintfSpec) (bs : List UInt8) : Nat :=
  if spec.extended then (bs.filter (fun b => b < 0x80 || b ≥ 0xC0)).length else bs.length

/-- The bytes of the first `k` characters, as the database counts them, of some bytes. -/
def takeChars (k : Nat) (bs : List UInt8) : List UInt8 :=
  (laxPieces bs.length bs |>.take k).flatten

/-- The digits of a number in a base, most significant first. -/
def digitsIn (base : Nat) (upper : Bool) (n : Nat) : List Char :=
  let digit (d : Nat) : Char :=
    if d < 10 then Char.ofNat (48 + d) else Char.ofNat ((if upper then 55 else 87) + d)
  let rec go : Nat → Nat → List Char → List Char
    | 0, _, acc => acc
    | fuel + 1, m, acc =>
      let acc := digit (m % base) :: acc
      if m / base == 0 then acc else go fuel (m / base) acc
  go 70 n []

/-- Commas between groups of three digits, counted from the right. -/
def groupThousands (ds : List Char) : List Char :=
  let rec go : List Char → Nat → List Char → List Char
    | [], _, acc => acc
    | d :: rest, k, acc =>
      let acc := if k > 0 && k % 3 == 0 then d :: ',' :: acc else d :: acc
      go rest (k + 1) acc
  go ds.reverse 0 []

/-- The conversion of an integer: `signed` conversions read the argument as signed, the others
as its 64-bit pattern; `prefix` is what `#` puts before nonzero numbers. -/
def integerText (spec : PrintfSpec) (base : Nat) (upper : Bool) (signed : Bool)
    (ordinal : Bool) (altPrefix : String) (thousands : Bool) (v : Int) : String :=
  let (magnitude, sign) : Nat × Option Char :=
    if signed then
      if v < 0 then (v.natAbs, some '-') else (v.toNat, spec.signChar)
    else ((v % 18446744073709551616).toNat, none)
  let alternate := spec.alternate && magnitude != 0
  let signWidth := if sign.isSome then 1 else 0
  let precision : Nat :=
    match spec.precision with
    | some p => if spec.zeroPad && p + signWidth < spec.width then spec.width - signWidth else p
    | none => if spec.zeroPad && signWidth < spec.width then spec.width - signWidth else 0
  let suffix : List Char :=
    if ordinal then
      let x := magnitude % 10
      let x := if x ≥ 4 || (magnitude / 10) % 10 == 1 then 0 else x
      match x with
      | 1 => ['s', 't']
      | 2 => ['n', 'd']
      | 3 => ['r', 'd']
      | _ => ['t', 'h']
    else []
  let ds := digitsIn base upper magnitude ++ suffix
  let ds := List.replicate (precision - ds.length) '0' ++ ds
  let ds := if thousands then groupThousands ds else ds
  let ds := match sign with
    | some c => c :: ds
    | none => ds
  let ds := if alternate then altPrefix.toList ++ ds else ds
  String.ofList ds

/-- The first character of a text, or the character zero for none. -/
def firstChar (s : Option String) : String :=
  match s with
  | some t => match t.toList with
    | c :: _ => String.singleton c
    | [] => String.singleton (Char.ofNat 0)
  | none => String.singleton (Char.ofNat 0)

/-- The bytes of a text limited by the precision: that many bytes, or characters under `!`;
a limit in bytes may cut a character. -/
def clipBytes (spec : PrintfSpec) (bs : List UInt8) : List UInt8 :=
  match spec.precision with
  | none => bs
  | some k => if spec.extended then takeChars k bs else bs.take k

/-- A text with a quote character doubled, limited first as `clipBytes` limits it. -/
def escapeText (spec : PrintfSpec) (q : Char) (s : String) : List UInt8 :=
  let qb := UInt8.ofNat q.toNat
  (clipBytes spec (textBytes s)).flatMap fun b => if b == qb then [b, b] else [b]

/-- Applies one conversion letter; `none` when the letter stops the formatting. -/
def convert (spec : PrintfSpec) (letter : Char) (st : PrintfState) : Option PrintfState :=
  let real (style : RealStyle) (upper : Bool) : PrintfState :=
    let (x, st) := realArg st
    let text := formatReal {
      style := style, precision := spec.precision, upper := upper,
      alternate := spec.alternate, extended := spec.extended, signChar := spec.signChar,
      thousands := spec.thousands, zeroPad := spec.zeroPad, leftJustify := spec.leftJustify,
      width := spec.width } x
    emit st (pad spec text.length text)
  let integer (base : Nat) (upper signed ordinal : Bool) (altPrefix : String) (thousands : Bool) :
      PrintfState :=
    let (v, st) := intArg st
    let text := integerText spec base upper signed ordinal altPrefix thousands v
    emit st (pad spec text.length text)
  match letter with
  | 'd' | 'i' => some (integer 10 false true false "" spec.thousands)
  | 'u' => some (integer 10 false false false "" spec.thousands)
  | 'x' => some (integer 16 false false false "0x" false)
  | 'X' => some (integer 16 true false false "0X" false)
  | 'o' => some (integer 8 false false false "0" false)
  | 'p' => some (integer 16 true false false "0x" false)
  | 'r' => some (integer 10 false true true "" false)
  | 'f' => some (real .fixed false)
  | 'e' => some (real .scientific false)
  | 'E' => some (real .scientific true)
  | 'g' => some (real .general false)
  | 'G' => some (real .general true)
  | 'n' => some (emit st "")
  | '%' => some (emit st (pad spec 1 "%"))
  | 's' | 'z' =>
    let (t, st) := textArg st
    let text := clipBytes spec (textBytes (String.ofList ((t.getD "").toList.takeWhile (· != '\x00'))))
    some (emitBytes st (padBytes spec (sizeOf spec text) text))
  | 'c' =>
    let (t, st) := textArg st
    let ch := firstChar t
    let count := match spec.precision with
      | some p => if p > 1 then p else 1
      | none => 1
    let text := String.join (List.replicate count ch)
    some (emit st (pad spec (count) text))
  | 'q' | 'Q' | 'w' =>
    let (t, st) := textArg st
    let q := if letter == 'w' then '"' else '\''
    let qb := UInt8.ofNat q.toNat
    let text := match t with
      | some s =>
        let body := escapeText spec q s
        if letter == 'Q' then qb :: body ++ [qb] else body
      | none => textBytes (if letter == 'Q' then "NULL" else "(NULL)")
    some (emitBytes st (padBytes spec (sizeOf spec text) text))
  | _ => none

/-- Reads the flags, width and precision of a conversion, from the character after `%`;
returns the letter (none when the format ends first), the rest of the format and the state,
whose arguments `*` may have taken. -/
def readSpec : Nat → List Char → PrintfSpec → PrintfState →
    Option Char × List Char × PrintfSpec × PrintfState
  | 0, cs, spec, st => (none, cs, spec, st)
  | fuel + 1, cs, spec, st =>
    match cs with
    | [] => (none, [], spec, st)
    | c :: rest =>
      match c with
      | '-' => readSpec fuel rest { spec with leftJustify := true } st
      | '+' => readSpec fuel rest { spec with signChar := some '+' } st
      | ' ' => readSpec fuel rest { spec with signChar := some ' ' } st
      | '#' => readSpec fuel rest { spec with alternate := true } st
      | '!' => readSpec fuel rest { spec with extended := true } st
      | '0' => readSpec fuel rest { spec with zeroPad := true } st
      | ',' => readSpec fuel rest { spec with thousands := true } st
      | 'l' =>
        let rest := match rest with
          | 'l' :: r => r
          | r => r
        match rest with
        | d :: r => (some d, r, spec, st)
        | [] => (none, [], spec, st)
      | '*' =>
        let (w, st) := intArg st
        let w := toInt32 w
        let spec := if w < 0 then
            { spec with leftJustify := true, width := if w ≥ -2147483647 then (-w).toNat else 0 }
          else { spec with width := w.toNat }
        match rest with
        | '.' :: _ | 'l' :: _ => readSpec fuel rest spec st
        | d :: r => (some d, r, spec, st)
        | [] => (none, [], spec, st)
      | '.' =>
        let (precision, rest, st) : Option Nat × List Char × PrintfState :=
          match rest with
          | '*' :: r =>
            let (p, st) := intArg st
            let p := toInt32 p
            let p := if p < 0 then (if p ≥ -2147483647 then some (-p).toNat else none)
              else some p.toNat
            (p, r, st)
          | r =>
            let (p, r) := readDigits r 0
            (some p, r, st)
        let spec := { spec with precision := precision }
        match rest with
        | 'l' :: _ => readSpec fuel rest spec st
        | d :: r => (some d, r, spec, st)
        | [] => (none, [], spec, st)
      | _ =>
        if c.isDigit then
          let (w, rest) := readDigits (c :: rest) 0
          let spec := { spec with width := w }
          match rest with
          | '.' :: _ | 'l' :: _ => readSpec fuel rest spec st
          | d :: r => (some d, r, spec, st)
          | [] => (none, [], spec, st)
        else (some c, rest, spec, st)

/-- Formats the rest of a format text; `fuel` bounds the steps, and the length of the text
suffices. -/
def run : Nat → List Char → PrintfState → PrintfState
  | 0, _, st => st
  | fuel + 1, cs, st =>
    match cs with
    | [] => st
    | '%' :: rest =>
      match rest with
      | [] => emit st "%"
      | _ =>
        match readSpec (rest.length + 1) rest {} st with
        | (some letter, after, spec, st) =>
          match convert spec letter st with
          | some st => run fuel after st
          | none => st
        | (none, _, _, st) => st
    | _ =>
      let literal := cs.takeWhile (· != '%')
      run fuel (cs.drop literal.length) (emit st (String.ofList literal))

end Printf

/-- `printf(format, args…)`: the bytes of the format applied to the arguments; none when
nothing was written. -/
def printfBytes (format : String) (args : List Datum) : Option (List UInt8) :=
  let cs := format.toList
  (Printf.run (cs.length + 1) cs ⟨args, none⟩).out

/-- `printf` as text, each cut character read as U+FFFD. -/
def printfText (format : String) (args : List Datum) : Option String :=
  (printfBytes format args).map bytesText

end QueryDoc.Store
