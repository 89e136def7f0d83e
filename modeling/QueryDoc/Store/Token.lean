import QueryDoc.Store.Datum

/-!
Tokens of a statement text.

A statement text is read as a sequence of tokens, each remembering its text as written and
the byte offset where it starts. Blanks and comments (`--` to the end of the line, `/* … */`)
separate tokens and are dropped.

* A word is a letter, `_` or a non-ASCII character followed by letters, digits, `_`, `$` and
  non-ASCII characters. Keywords are words; the reader of statements tells them apart.
* A name may be quoted by `"…"`, `` `…` `` or `[…]`; a doubled quote stands for itself.
* A string is quoted by `'…'`, a doubled `'` standing for itself.
* A number is digits with an optional point and fraction and an optional exponent, or a
  point followed by digits, or `0x` and hexadecimal digits. A number running into a word
  character is not a token. Digits may be separated by `_`, which must stand between two
  digits; the number is read without them.
* `x'…'` is a byte string in hexadecimal, with an even number of digits.
* A parameter is `?` alone, `?` and digits, or `:`, `@`, `$` or `#` followed by word
  characters; after `$` and the like, `::` may join parts of the name and a part in
  parentheses may end it.

Anything else that is not an operator is an unrecognized token, and so is an unterminated
quote.
-/

namespace QueryDoc.Store

/-- What a token is. -/
inductive TokenKind where
  /-- A bare word: a keyword or a name. -/
  | word (text : String)
  /-- A name in double quotes. -/
  | quotedName (name : String)
  /-- A name in backquotes or brackets. -/
  | otherQuotedName (name : String)
  /-- A string. -/
  | string (s : String)
  /-- A number without point or exponent. -/
  | integer (digits : String)
  /-- A number with a point or an exponent. -/
  | float (text : String)
  /-- A hexadecimal integer. -/
  | hex (digits : String)
  /-- A number with a separator that is not between two digits; the text is what a failure
  shows of it. -/
  | badNumber (shown : String)
  /-- A byte string. -/
  | blob (bytes : List UInt8)
  /-- A parameter, as written: `?`, `?N`, or a name such as `:a`. -/
  | param (text : String)
  /-- An operator or punctuation. -/
  | symbol (s : String)
  /-- Text that is not a token. -/
  | illegal
  deriving Repr, BEq, Inhabited

/-- A token with its text and starting byte offset. -/
structure Token where
  kind : TokenKind
  text : String
  offset : Nat
  /-- The byte offset just after the token. -/
  stop : Nat
  deriving Repr, Inhabited

/-- The backquote, which quotes names. -/
def backquote : Char := Char.ofNat 96

/-- Characters that may continue a word. -/
def isWordChar (c : Char) : Bool :=
  c.isAlphanum || c == '_' || c == '$' || c.toNat ≥ 128

/-- Characters that may start a word. -/
def isWordStart (c : Char) : Bool :=
  c.isAlpha || c == '_' || c.toNat ≥ 128

/-- Blanks between tokens. -/
def isTokenSpace (c : Char) : Bool :=
  c == ' ' || c == '\t' || c == '\n' || c == '\x0c' || c == '\r'

/-- Hexadecimal digits. -/
def isHexDigit (c : Char) : Bool :=
  c.isDigit || ('a' ≤ c && c ≤ 'f') || ('A' ≤ c && c ≤ 'F')

/-- The value of a hexadecimal digit. -/
def hexValue (c : Char) : Nat :=
  if c.isDigit then c.toNat - '0'.toNat
  else if 'a' ≤ c && c ≤ 'f' then c.toNat - 'a'.toNat + 10
  else c.toNat - 'A'.toNat + 10

/-- Reads the inside of a quote up to its closing quote; a doubled quote stands for itself.
Returns the content and what follows the closing quote, or nothing when it never closes. -/
def readQuoted (q : Char) : List Char → List Char → Option (String × List Char)
  | [], _ => none
  | c :: cs, acc =>
    if c == q then
      match cs with
      | d :: ds => if d == q then readQuoted q ds (q :: acc) else some (String.ofList acc.reverse, cs)
      | [] => some (String.ofList acc.reverse, [])
    else readQuoted q cs (c :: acc)

/-- Reads up to a closing bracket, which has no escape. -/
def readBracketed : List Char → List Char → Option (String × List Char)
  | [], _ => none
  | c :: cs, acc => if c == ']' then some (String.ofList acc.reverse, cs) else readBracketed cs (c :: acc)

/-- Skips a block comment's body, up to and including `*/` or to the end. -/
def skipBlockComment : List Char → List Char
  | [] => []
  | '*' :: '/' :: cs => cs
  | _ :: cs => skipBlockComment cs

/-- Pairs hexadecimal digits into bytes. -/
def hexBytes : List Char → List UInt8
  | a :: b :: cs => (hexValue a * 16 + hexValue b).toUInt8 :: hexBytes cs
  | _ => []

/-- Digits or digit separators. -/
def isDigitOrSeparator (c : Char) : Bool := c.isDigit || c == '_'

/-- What a failure shows of a number whose separators are misplaced, or `none` when each
separator stands between two digits. The text is shown as it stands when the last misplaced
separator is met while the separators are being taken out, front to back, in place. -/
def misplacedSeparator (text : List Char) (isDigit : Char → Bool) : Option String :=
  let indexed := text.zipIdx
  let step (acc : List Char × Option String) (ci : Char × Nat) : List Char × Option String :=
    let (kept, shown) := acc
    let (c, i) := ci
    if c != '_' then (kept ++ [c], shown)
    else
      let before := if i == 0 then false else (text[i - 1]?.map isDigit).getD false
      let after := (text[i + 1]?.map isDigit).getD false
      if before && after then (kept, shown)
      else (kept, some (String.ofList (kept ++ text.drop kept.length)))
  (indexed.foldl step ([], none)).2

/-- A number token from its text, with separators checked and taken out. -/
def numberToken (text : List Char) (isDigit : Char → Bool) (make : String → TokenKind) : TokenKind :=
  match misplacedSeparator text isDigit with
  | some shown => .badNumber shown
  | none => make (String.ofList (text.filter (· != '_')))

/-- Reads a number; the text starts with a digit or with a point and a digit. -/
def readNumber (cs : List Char) : TokenKind × List Char :=
  let whole := cs.takeWhile isDigitOrSeparator
  let rest := cs.dropWhile isDigitOrSeparator
  let (isFloat, rest) := match rest with
    | '.' :: r => (true, r.dropWhile isDigitOrSeparator)
    | r => (false, r)
  let (isFloat, rest) := match rest with
    | e :: d :: r =>
      if (e == 'e' || e == 'E') && d.isDigit then (true, r.dropWhile isDigitOrSeparator)
      else if (e == 'e' || e == 'E') && (d == '+' || d == '-') then
        match r with
        | d2 :: r2 => if d2.isDigit then (true, r2.dropWhile isDigitOrSeparator) else (isFloat, rest)
        | [] => (isFloat, rest)
      else (isFloat, rest)
    | _ => (isFloat, rest)
  let taken := cs.take (cs.length - rest.length)
  let made := if isFloat then numberToken taken Char.isDigit .float
    else numberToken whole Char.isDigit .integer
  match rest with
  | c :: _ =>
    if isWordChar c then (.illegal, rest.dropWhile isWordChar)
    else (made, rest)
  | [] => (made, rest)

/-- The two-character operators. -/
def operators2 : List String := ["<=", ">=", "<>", "!=", "==", "||", "<<", ">>", "->"]

/-- Blanks as the C library knows them, the vertical tab among them. -/
def isBlank (c : Char) : Bool := isTokenSpace c || c == '\x0b'

/-- Reads the name of a parameter after its sigil: word characters, with `::` allowed inside
and an optional part in parentheses at the end, up to a blank or `)`. Returns whether the name
is well formed (not empty, its parentheses closed), what was read and the rest. -/
def readParamName : List Char → Nat → List Char → Nat → Bool × List Char × List Char
  | cs, _, acc, 0 => (false, acc.reverse, cs)
  | cs, n, acc, fuel + 1 =>
    match cs with
    | c :: rest =>
      if isWordChar c then readParamName rest (n + 1) (c :: acc) fuel
      else if c == '(' && n > 0 then
        let inner := rest.takeWhile (fun d => !isBlank d && d != ')')
        match rest.drop inner.length with
        | ')' :: after => (true, (acc.reverse ++ c :: inner) ++ [')'], after)
        | after => (false, acc.reverse ++ c :: inner, after)
      else if c == ':' && rest.head? == some ':' then readParamName (rest.drop 1) n (':' :: ':' :: acc) fuel
      else (n > 0, acc.reverse, cs)
    | [] => (n > 0, acc.reverse, [])

/-- One-character operators and punctuation. -/
def operators1 : List Char := ['(', ')', ',', ';', '+', '-', '*', '/', '%', '=', '<', '>', '|', '&', '~', '.']

/-- Reads one token from a text that starts with no blank; returns its kind and the rest. -/
def readToken (cs : List Char) : TokenKind × List Char :=
  match cs with
  | [] => (.illegal, [])
  | c :: rest =>
    if (c == 'x' || c == 'X') && rest.head? == some '\'' then
      let body := rest.drop 1
      let digits := body.takeWhile isHexDigit
      match body.dropWhile isHexDigit with
      | '\'' :: after =>
        if digits.length % 2 == 0 then (.blob (hexBytes digits), after)
        else (.illegal, after)
      | other => (.illegal, other.dropWhile (· != '\''))
    else if isWordStart c then
      let w := cs.takeWhile isWordChar
      (.word (String.ofList w), cs.dropWhile isWordChar)
    else if c.isDigit then
      match rest with
      | x :: r =>
        if c == '0' && (x == 'x' || x == 'X') && (r.head?.map isHexDigit).getD false then
          let ds := r.takeWhile (fun d => isHexDigit d || d == '_')
          let after := r.dropWhile (fun d => isHexDigit d || d == '_')
          let made := match misplacedSeparator (c :: x :: ds) isHexDigit with
            | some shown => TokenKind.badNumber shown
            | none => .hex (String.ofList (ds.filter (· != '_')))
          match after with
          | a :: _ => if isWordChar a then (.illegal, after.dropWhile isWordChar) else (made, after)
          | [] => (made, after)
        else readNumber cs
      | [] => readNumber cs
    else if c == '.' && (rest.head?.map Char.isDigit).getD false then readNumber cs
    else if c == '\'' then
      match readQuoted '\'' rest [] with
      | some (s, after) => (.string s, after)
      | none => (.illegal, [])
    else if c == '"' then
      match readQuoted '"' rest [] with
      | some (s, after) => (.quotedName s, after)
      | none => (.illegal, [])
    else if c == backquote then
      match readQuoted backquote rest [] with
      | some (s, after) => (.otherQuotedName s, after)
      | none => (.illegal, [])
    else if c == '[' then
      match readBracketed rest [] with
      | some (s, after) => (.otherQuotedName s, after)
      | none => (.illegal, [])
    else if c == '?' then
      let ds := rest.takeWhile Char.isDigit
      (.param (String.ofList (c :: ds)), rest.dropWhile Char.isDigit)
    else if c == ':' || c == '@' || c == '$' || c == '#' then
      match readParamName rest 0 [] (rest.length + 1) with
      | (true, body, after) => (.param (String.ofList (c :: body)), after)
      | (false, _, after) => (.illegal, after)
    else
      let two := String.ofList (cs.take 2)
      if String.ofList (cs.take 3) == "->>" then (.symbol "->>", cs.drop 3)
      else if operators2.contains two then (.symbol two, cs.drop 2)
      else if c == '!' then (.illegal, rest)
      else if operators1.contains c then (.symbol (String.singleton c), rest)
      else (.illegal, rest)

/-- The byte length of some characters. -/
def byteLength (cs : List Char) : Nat := cs.foldl (fun n c => n + c.utf8Size) 0

/-- Reads tokens from a text at a byte offset; each step takes at least one character, so
`fuel` at least the text's length suffices. -/
def readTokens : Nat → List Char → Nat → Array Token → Array Token
  | 0, _, _, acc => acc
  | fuel + 1, cs, offset, acc =>
    match cs with
    | [] => acc
    | c :: rest =>
      -- a byte order mark where a token would start is a blank
      if isTokenSpace c || c == '\uFEFF' then readTokens fuel rest (offset + c.utf8Size) acc
      else if c == '-' && rest.head? == some '-' then
        let after := cs.dropWhile (· != '\n')
        readTokens fuel after (offset + byteLength (cs.take (cs.length - after.length))) acc
      else if c == '/' && rest.head? == some '*' && rest.length > 1 then
        let after := skipBlockComment (rest.drop 1)
        readTokens fuel after (offset + byteLength (cs.take (cs.length - after.length))) acc
      else
        let (kind, after) := readToken cs
        let after := if after.length < cs.length then after else rest
        let taken := cs.take (cs.length - after.length)
        let stop := offset + byteLength taken
        readTokens fuel after stop (acc.push ⟨kind, String.ofList taken, offset, stop⟩)

/-- The tokens of a statement text, which ends at its first NUL character. -/
def tokenize (sql : String) : Array Token :=
  let cs := sql.toList.takeWhile (· != '\x00')
  readTokens (cs.length + 1) cs 0 #[]

end QueryDoc.Store
